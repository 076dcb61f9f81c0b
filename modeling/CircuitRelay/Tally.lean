/-!
# Tallies of events

The components count what happens to them: reservations by outcome, refused charges by scope and
resource, access verdicts.  A `Tally α` counts occurrences of the values of `α`; `count_record`
says that recording one value raises its own count by one and no other.
-/

namespace CircuitRelay

universe u

/-- How often each value of `α` was recorded, in order of first occurrence. -/
structure Tally (α : Type u) where
  /-- The recorded values with their counts. -/
  counts : List (α × Nat)
  deriving DecidableEq

namespace Tally

variable {α : Type u}

/-- Nothing recorded. -/
def empty : Tally α := ⟨[]⟩

instance : Inhabited (Tally α) := ⟨empty⟩

variable [DecidableEq α]

/-- The count of a value in a list of counts. -/
def countIn (a : α) : List (α × Nat) → Nat
  | [] => 0
  | e :: l => if e.1 = a then e.2 else countIn a l

/-- A list of counts with one more occurrence of a value. -/
def recordIn (a : α) : List (α × Nat) → List (α × Nat)
  | [] => [(a, 1)]
  | e :: l => if e.1 = a then (e.1, e.2 + 1) :: l else e :: recordIn a l

/-- How often a value was recorded. -/
def count (t : Tally α) (a : α) : Nat := countIn a t.counts

/-- Records one occurrence of a value. -/
def record (t : Tally α) (a : α) : Tally α := ⟨recordIn a t.counts⟩

@[simp] theorem count_empty (a : α) : (empty : Tally α).count a = 0 := rfl

theorem countIn_recordIn (a b : α) (l : List (α × Nat)) :
    countIn b (recordIn a l) = countIn b l + if a = b then 1 else 0 := by
  induction l with
  | nil => simp [recordIn, countIn]
  | cons e l ih =>
    by_cases hea : e.1 = a
    · by_cases hab : a = b <;> simp [recordIn, countIn, hea, hab]
    · by_cases heb : e.1 = b
      · have hab : ¬a = b := fun h => hea (heb.trans h.symm)
        have hba : ¬b = a := fun h => hab h.symm
        simp [recordIn, countIn, heb, hab, hba]
      · simp [recordIn, countIn, hea, heb, ih]

/-- Recording a value raises its count by one and no other count. -/
theorem count_record (t : Tally α) (a b : α) :
    (t.record a).count b = t.count b + if a = b then 1 else 0 :=
  countIn_recordIn a b t.counts

end Tally

end CircuitRelay
