import CheckHarness.Log.Filter
import Mathlib.Data.List.Infix
import Mathlib.Data.List.TakeWhile
import Mathlib.Tactic.FinCases

/-!
# Filters of one word

A filter that is written as a single word of letters lets a line through or not by the
level of the line alone.  `thresholdOf` says by which threshold: the empty word stands for
the gravest level, and the name of a level for that level.

Any other word is the start of the names of the parts that it is about.  The names of all
parts start with `testlet`, and no letter follows there.  So a beginning of `testlet` is
about all of them and lets everything through, and a word that is no such beginning lets
nothing through.

`ofText_word` is the law.  No word of letters comes with a warning.
-/

namespace CheckHarness

/-- A text without white space has none at its ends. -/
theorem trim_of_notSpace {text : List Char} (spaceless : ∀ c ∈ text, isSpace c = false) :
    trim text = text := by
  have keeps {text : List Char} (spaceless : ∀ c ∈ text, isSpace c = false) :
      text.dropWhile isSpace = text :=
    List.dropWhile_eq_self_iff.mpr fun inside => by simp [spaceless _ (List.getElem_mem inside)]
  have reversed : ∀ c ∈ text.reverse, isSpace c = false := fun c mem =>
    spaceless c (List.mem_reverse.mp mem)
  rw [trim, keeps spaceless, keeps reversed, List.reverse_reverse]

namespace Log

/-- A word of letters, or the empty one. -/
def IsWord (word : String) : Prop := ∀ c ∈ word.toList, isAlphabetic c = true

/-- The threshold that a word stands for. -/
def thresholdOf (word : String) : Threshold :=
  if word = "" then some .error
  else
    match Level.all.find? fun level => level.name.toList = word.toList.map Char.toUpper with
    | some level => some level
    | none => if word.toList <+: "testlet".toList then some .trace else none

/-! ## Letters -/

theorem not_isAlphabetic_of_mark {c : Char} (mark : c ∈ ['/', ',', '=', '_']) :
    isAlphabetic c = false := by
  fin_cases mark <;> decide +kernel

theorem not_isSpace_of_isAlphabetic {c : Char} (letter : isAlphabetic c = true) :
    isSpace c = false :=
  Ranges.not_covers_of_apart (by decide +kernel) letter

section Words

variable {word : String}

theorem IsWord.notMem (letters : IsWord word) {c : Char} (mark : c ∈ ['/', ',', '=', '_']) :
    c ∉ word.toList := by
  intro mem
  have letter := letters c mem
  rw [not_isAlphabetic_of_mark mark] at letter
  cases letter

/-- A word is the start of a text when it is the start of the letters there. -/
theorem IsWord.prefix_iff (letters : IsWord word) (text : List Char) :
    word.toList <+: text ↔ word.toList <+: text.takeWhile isAlphabetic := by
  constructor
  · rintro ⟨rest, rfl⟩
    exact ⟨_, (List.takeWhile_append_of_pos letters).symm⟩
  · exact fun start => start.trans (List.takeWhile_prefix _)

/-- The letters that the name of a part starts with are the same for all parts. -/
theorem takeWhile_name (source : Source) :
    source.name.toList.takeWhile isAlphabetic = "testlet".toList := by
  cases source <;> decide +kernel

theorem IsWord.prefix_name_iff (letters : IsWord word) (source : Source) :
    word.toList <+: source.name.toList ↔ word.toList <+: "testlet".toList := by
  rw [letters.prefix_iff, takeWhile_name]

/-! ## Reading a word -/

/-- The directive of a word. -/
theorem ofChars_word (letters : IsWord word) :
    Directive.ofChars word.toList = .ok
      (match Threshold.ofWord? word with
        | some threshold => ⟨none, threshold⟩
        | none => ⟨some word, .lowest⟩) := by
  have whole : pieces '=' word.toList = [word.toList] :=
    pieces_of_notMem (letters.notMem (by decide))
  simp only [Directive.ofChars, whole, String.ofList_toList]
  cases Threshold.ofWord? word <;> rfl

/-- A word that is not empty is one part of a filter. -/
theorem parts_word (letters : IsWord word) (nonempty : word ≠ "") :
    Directive.parts word.toList = [word.toList] := by
  have whole : pieces ',' word.toList = [word.toList] :=
    pieces_of_notMem (letters.notMem (by decide))
  have trims : trim word.toList = word.toList :=
    trim_of_notSpace fun c mem => not_isSpace_of_isAlphabetic (letters c mem)
  have some : word.toList ≠ [] := fun none => nonempty (String.toList_eq_nil_iff.mp none)
  simp [Directive.parts, whole, trims, some]

theorem ofText_of_word (letters : IsWord word) :
    Filter.ofText word = Filter.ofDirectives word.toList := by
  have whole : pieces '/' word.toList = [word.toList] :=
    pieces_of_notMem (letters.notMem (by decide))
  simp only [Filter.ofText, whole]

theorem ofText_nonempty (letters : IsWord word) (nonempty : word ≠ "") :
    Filter.ofText word =
      { filter.directives :=
          [match Threshold.ofWord? word with
            | some threshold => ⟨none, threshold⟩
            | none => ⟨some word, .lowest⟩] } := by
  rw [ofText_of_word letters, Filter.ofDirectives, parts_word letters nonempty, List.foldl_cons,
    List.foldl_nil, Filter.Reading.withDirective, ofChars_word letters]
  rfl

theorem threshold_single (directive : Directive) (source : Source) :
    Filter.threshold { directives := [directive] } source =
      if directive.covers source then directive.threshold else none := by
  by_cases covers : directive.covers source
  · simp [Filter.threshold, Directive.deciding?, covers]
  · simp [Filter.threshold, Directive.deciding?, covers]

/-! ## What a word lets through -/

/-- A word for nothing names no level, and `testlet` does not start with it. -/
theorem thresholdOf_off (off : word.toList.map Char.toUpper = "OFF".toList) :
    thresholdOf word = none := by
  have nonempty : word ≠ "" := by rintro rfl; exact absurd off (by decide)
  have apart : ∀ start ∈ "testlet".toList.inits, start.map Char.toUpper ≠ "OFF".toList := by decide
  have strange : ¬word.toList <+: "testlet".toList := fun start =>
    apart _ (List.mem_inits _ _ |>.mpr start) off
  have unnamed : (Level.all.find? fun level => level.name.toList = "OFF".toList) = none := by
    decide
  simp only [thresholdOf, off, unnamed, if_neg nonempty, if_neg strange]

theorem ofWord?_eq (word : String) :
    Threshold.ofWord? word =
      if word.toList.map Char.toUpper = "OFF".toList then some none
      else (Level.all.find? fun level =>
        level.name.toList = word.toList.map Char.toUpper).map some := by
  simp only [Threshold.ofWord?, ← String.toList_inj, String.toList_map]

/-- All parts of the program get the threshold that the word stands for. -/
theorem threshold_ofText_word (letters : IsWord word) (source : Source) :
    (Filter.ofText word).filter.threshold source = thresholdOf word := by
  by_cases empty : word = ""
  · rw [empty]; rfl
  rw [ofText_nonempty letters empty, threshold_single, ofWord?_eq]
  by_cases off : word.toList.map Char.toUpper = "OFF".toList
  · simp only [if_pos off, thresholdOf_off off, Directive.covers, Option.all_none, if_true]
  cases named : Level.all.find? fun level => level.name.toList = word.toList.map Char.toUpper with
  | some level =>
      simp only [if_neg off, Option.map_some, Directive.covers, Option.all_none, if_true,
        thresholdOf, if_neg empty, named]
  | none =>
      simp only [if_neg off, named, Option.map_none, Directive.covers, Option.all_some,
        List.isPrefixOf_iff_prefix, letters.prefix_name_iff, thresholdOf, if_neg empty,
        Threshold.lowest]

/-- The law of words.  A word of letters is read without a warning, and lets a line through
when the threshold it stands for admits the level. -/
theorem ofText_word (letters : IsWord word) :
    (Filter.ofText word).warnings = [] ∧
      ∀ line, (Filter.ofText word).filter.admits line = (thresholdOf word).admits line.level := by
  have bare : (Filter.ofText word).warnings = [] ∧ (Filter.ofText word).filter.pattern = none := by
    by_cases empty : word = ""
    · rw [empty]; exact ⟨rfl, rfl⟩
    · rw [ofText_nonempty letters empty]; exact ⟨rfl, rfl⟩
  refine ⟨bare.1, fun line => ?_⟩
  rw [Filter.admits, threshold_ofText_word letters, bare.2, Option.all_none, Bool.and_true]

end Words

end Log

end CheckHarness
