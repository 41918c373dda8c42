/-!
# Pieces of a text

A text is cut at every occurrence of a separator.  There is one piece more than
there are separators, so some pieces may be empty.
-/

namespace CheckHarness

/-- The pieces between the separators. -/
def pieces (separator : Char) : List Char → List (List Char)
  | [] => [[]]
  | c :: rest =>
    if c = separator then [] :: pieces separator rest
    else
      match pieces separator rest with
      | [] => [[c]]
      | piece :: others => (c :: piece) :: others

/-- A text without separators is one piece. -/
theorem pieces_of_notMem {separator : Char} {text : List Char} (h : separator ∉ text) :
    pieces separator text = [text] := by
  induction text with
  | nil => rfl
  | cons c rest ih =>
    have hc : c ≠ separator := fun e => h (e ▸ List.mem_cons_self)
    have hr : separator ∉ rest := fun m => h (List.mem_cons_of_mem c m)
    simp [pieces, hc, ih hr]

end CheckHarness
