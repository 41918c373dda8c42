/-!
# Ranges of characters

A property of characters is kept as the ranges of code points that have it.
-/

namespace CheckHarness

/-- Ranges of code points, both ends included. -/
abbrev Ranges := List (Nat × Nat)

/-- Whether a character lies in one of the ranges. -/
def Ranges.covers (ranges : Ranges) (c : Char) : Bool :=
  ranges.any fun (first, last) => first ≤ c.toNat && c.toNat ≤ last

/-- A character of one of the ranges is covered by them. -/
theorem Ranges.covers_of_mem {ranges : Ranges} {first last : Nat} {c : Char}
    (h : (first, last) ∈ ranges) (hf : first ≤ c.toNat) (hl : c.toNat ≤ last) :
    ranges.covers c = true :=
  List.any_eq_true.2 ⟨(first, last), h, by simp [hf, hl]⟩

/-- Ranges that lie apart cover no character in common. -/
theorem Ranges.not_covers_of_apart {ranges others : Ranges} {c : Char}
    (apart : ∀ one ∈ ranges, ∀ other ∈ others, one.2 < other.1 ∨ other.2 < one.1)
    (covered : ranges.covers c = true) : others.covers c = false := by
  obtain ⟨one, mem, within⟩ := List.any_eq_true.mp covered
  simp only [Bool.and_eq_true, decide_eq_true_eq] at within
  refine List.any_eq_false.mpr fun other mem' within' => ?_
  simp only [Bool.and_eq_true, decide_eq_true_eq] at within'
  have := apart one mem other mem'
  omega

end CheckHarness
