import Mathlib.Data.List.Induction

/-!
# What stands since it was last said

A run is a list of things that happened, and much of what a component knows is of the kind "this
was said, and not taken back since". `Since` is that property of the list alone; components are
compared with it by an induction that adds one thing at the end.

* `not_since_nil`: nothing stands at the start.
* `since_snoc`: what stands after one more thing.
-/

namespace CircuitRelay

universe u

variable {α : Type u} {l : List α} {said back last : α}

/-- Something was said, and not taken back since. -/
def Since (l : List α) (said back : α) : Prop :=
  ∃ before after, l = before ++ said :: after ∧ back ∉ after

theorem not_since_nil : ¬Since [] said back := by
  rintro ⟨before, after, hsplit, -⟩
  simp at hsplit

theorem since_snoc :
    Since (l ++ [last]) said back ↔ last = said ∨ last ≠ back ∧ Since l said back := by
  constructor
  · rintro ⟨before, after, hsplit, hafter⟩
    rcases List.eq_nil_or_concat after with rfl | ⟨after, final, rfl⟩
    · have hlast := (List.append_inj' hsplit rfl).2
      exact .inl (List.cons.inj hlast).1
    · rw [List.concat_eq_append] at hsplit hafter
      rw [← List.cons_append, ← List.append_assoc] at hsplit
      obtain ⟨hl, hlast⟩ := List.append_inj' hsplit rfl
      rw [List.mem_append, not_or, List.mem_singleton] at hafter
      refine .inr ⟨?_, before, after, hl, hafter.1⟩
      rw [(List.cons.inj hlast).1]
      exact Ne.symm hafter.2
  · rintro (rfl | ⟨hlast, before, after, rfl, hafter⟩)
    · exact ⟨l, [], rfl, List.not_mem_nil⟩
    · refine ⟨before, after ++ [last], by simp, ?_⟩
      rw [List.mem_append, not_or, List.mem_singleton]
      exact ⟨hafter, Ne.symm hlast⟩

end CircuitRelay
