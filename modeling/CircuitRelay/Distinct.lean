/-!
# Lists without repetitions

Announced addresses and known addresses are lists in which no address stands twice.  `distinct`
keeps the first occurrence of every element.

* `mem_distinct`: the same elements.
* `nodup_distinct`: none of them twice.
* `distinct_eq_self`: nothing happens to a list that has no repetitions.
-/

namespace CircuitRelay

universe u

variable {α : Type u} [DecidableEq α]

/-- Appends an element unless it is there already. -/
def pushNew (l : List α) (a : α) : List α := if a ∈ l then l else l ++ [a]

/-- The first occurrences of the elements of a list, in order. -/
def distinct (l : List α) : List α := l.foldl pushNew []

theorem mem_pushNew {l : List α} {a b : α} : b ∈ pushNew l a ↔ b ∈ l ∨ b = a := by
  unfold pushNew
  split
  · exact ⟨.inl, fun h => h.elim id fun hb => hb ▸ ‹_›⟩
  · simp

theorem nodup_pushNew {l : List α} (h : l.Nodup) (a : α) : (pushNew l a).Nodup := by
  unfold pushNew
  split
  · exact h
  · rename_i ha
    rw [List.nodup_append]
    refine ⟨h, by simp, fun x hx y hy hxy => ?_⟩
    simp only [List.mem_singleton] at hy
    exact ha (hy ▸ hxy ▸ hx)

theorem mem_foldl_pushNew {l acc : List α} {b : α} :
    b ∈ l.foldl pushNew acc ↔ b ∈ acc ∨ b ∈ l := by
  induction l generalizing acc with
  | nil => simp
  | cons a l ih => simp [ih, mem_pushNew, or_assoc]

theorem nodup_foldl_pushNew {l acc : List α} (h : acc.Nodup) : (l.foldl pushNew acc).Nodup := by
  induction l generalizing acc with
  | nil => exact h
  | cons a l ih => exact ih (nodup_pushNew h a)

/-- Dropping repetitions keeps the elements. -/
theorem mem_distinct {l : List α} {b : α} : b ∈ distinct l ↔ b ∈ l := by
  simp [distinct, mem_foldl_pushNew]

/-- No element stands twice. -/
theorem nodup_distinct (l : List α) : (distinct l).Nodup := nodup_foldl_pushNew List.nodup_nil

theorem foldl_pushNew_eq {l acc : List α} (h : (acc ++ l).Nodup) :
    l.foldl pushNew acc = acc ++ l := by
  induction l generalizing acc with
  | nil => exact (List.append_nil acc).symm
  | cons a l ih =>
    have ha : a ∉ acc := fun hmem =>
      (List.nodup_append.mp h).2.2 a hmem a (List.mem_cons_self ..) rfl
    rw [List.append_cons] at h ⊢
    rw [List.foldl_cons, pushNew, if_neg ha]
    exact ih h

/-- A list without repetitions stays as it is. -/
theorem distinct_eq_self {l : List α} (h : l.Nodup) : distinct l = l := foldl_pushNew_eq h

end CircuitRelay
