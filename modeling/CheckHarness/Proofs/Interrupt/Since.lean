import Mathlib.Data.List.Basic

/-!
# What has happened since

A list of acts, oldest first, in which some act starts something and no later act ends
it.  The last act of a list decides this alone, unless it neither starts nor ends it
(`since_append`).  So a law about a history follows step by step.
-/

namespace CheckHarness

variable {α : Type} {starts ends : α → Prop}

/-- Some act starts it, and no act behind that one ends it. -/
def Since (starts ends : α → Prop) (acts : List α) : Prop :=
  ∃ before act after, acts = before ++ act :: after ∧ starts act ∧ ∀ later ∈ after, ¬ends later

theorem not_since_nil : ¬Since starts ends [] := by
  rintro ⟨before, act, after, split, -⟩
  simp at split

/-- The last act decides, unless it neither starts nor ends it. -/
theorem since_append (acts : List α) (act : α) :
    Since starts ends (acts ++ [act]) ↔ starts act ∨ Since starts ends acts ∧ ¬ends act := by
  constructor
  · rintro ⟨before, first, after, split, started, quiet⟩
    rcases List.eq_nil_or_concat after with rfl | ⟨middle, last, rfl⟩
    · obtain ⟨-, same⟩ := List.append_inj' split rfl
      exact Or.inl (List.singleton_inj.mp same ▸ started)
    · have longer : acts ++ [act] = (before ++ first :: middle) ++ [last] := by simp [split]
      obtain ⟨rfl, same⟩ := List.append_inj' longer rfl
      refine Or.inr ⟨⟨before, first, middle, rfl, started, ?_⟩, ?_⟩
      · intro later mem
        exact quiet later (by simp [mem])
      · exact List.singleton_inj.mp same ▸ quiet last (by simp)
  · rintro (started | ⟨⟨before, first, after, rfl, started, quiet⟩, last⟩)
    · exact ⟨acts, act, [], rfl, started, by simp⟩
    · refine ⟨before, first, after ++ [act], by simp, started, ?_⟩
      intro later mem
      rcases List.mem_append.mp mem with mem | mem
      · exact quiet later mem
      · exact List.mem_singleton.mp mem ▸ last

/-- Only the acts of the list matter. -/
theorem since_congr {starts' ends' : α → Prop} {acts : List α}
    (same : ∀ act ∈ acts, (starts act ↔ starts' act) ∧ (ends act ↔ ends' act)) :
    Since starts ends acts ↔ Since starts' ends' acts := by
  refine exists_congr fun before => exists_congr fun act => exists_congr fun after =>
    and_congr_right ?_
  rintro rfl
  refine and_congr (same act (by simp)).1 (forall₂_congr fun later mem => ?_)
  exact not_congr (same later (by simp [mem])).2

end CheckHarness
