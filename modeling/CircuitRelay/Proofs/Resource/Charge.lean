import CircuitRelay.Resource.Manager
import Mathlib.Tactic.ByContra

/-!
# Charging one scope

`Amounts.take` works on one counter after the other and undoes its work when a counter has no
room.  Seen from outside it is one decision on the usage it started from: `Amounts.lacking?` asks
every resource of that usage at once.

* `take_eq`: taking a charge answers as `lacking?` does, adds the charge when nothing is lacking
  and changes nothing otherwise.
* `release_add`: giving a charge back undoes taking it.

The loop is followed through `Amounts.addOn`, the usage after the charge was taken of some of the
resources: the loop is at `addOn` of the resources it has passed, and giving those back leads to
the usage it started from because no counter has left the range of a word.
-/

namespace CircuitRelay

namespace Amounts

variable {used ceiling charge : Amounts}

/-- Whether there is no room for what a charge takes of a resource. -/
def lacks (used ceiling charge : Amounts) (r : Resource) : Bool :=
  decide (charge.get r ≠ 0) &&
    decide (min Resource.maxAmount (ceiling.get r) < used.get r + charge.get r)

/-- The first resource, in charging order, without room for a charge. -/
def lacking? (used ceiling charge : Amounts) : Option Resource :=
  Resource.all.find? (used.lacks ceiling charge)

/-- Whether there is room for a charge. -/
def Fits (used ceiling charge : Amounts) : Prop :=
  ∀ r, charge.get r ≠ 0 →
    used.get r + charge.get r ≤ Resource.maxAmount ∧ used.get r + charge.get r ≤ ceiling.get r

theorem lacks_eq_true_iff {r : Resource} :
    used.lacks ceiling charge r = true ↔ charge.get r ≠ 0 ∧
      ¬(used.get r + charge.get r ≤ Resource.maxAmount ∧
        used.get r + charge.get r ≤ ceiling.get r) := by
  rw [lacks, Bool.and_eq_true, decide_eq_true_eq, decide_eq_true_eq]
  omega

/-- Nothing is lacking exactly when the charge fits. -/
theorem lacking?_eq_none_iff : used.lacking? ceiling charge = none ↔ used.Fits ceiling charge := by
  rw [lacking?, List.find?_eq_none]
  constructor
  · intro h r hr
    have hr' := h r (Resource.mem_all r)
    rw [lacks_eq_true_iff] at hr'
    by_contra hroom
    exact hr' ⟨hr, hroom⟩
  · intro h r _ hr
    rw [lacks_eq_true_iff] at hr
    exact hr.2 (h r hr.1)

/-! ## Some of the resources -/

/-- The usage after a charge was taken of some of the resources. -/
def addOn (used charge : Amounts) (l : List Resource) : Amounts :=
  ofFn fun r => used.get r + if r ∈ l then charge.get r else 0

theorem get_addOn (l : List Resource) (r : Resource) :
    (used.addOn charge l).get r = used.get r + if r ∈ l then charge.get r else 0 :=
  get_ofFn _ r

@[simp] theorem addOn_nil : used.addOn charge [] = used :=
  ext_get fun r => by rw [get_addOn, if_neg (List.not_mem_nil), Nat.add_zero]

theorem addOn_all : used.addOn charge Resource.all = used + charge :=
  ext_get fun r => by rw [get_addOn, if_pos (Resource.mem_all r), get_add]

/-- A resource of which nothing is charged makes no difference. -/
theorem addOn_append_of_eq_zero {l : List Resource} {r : Resource} (h : charge.get r = 0) :
    used.addOn charge (l ++ [r]) = used.addOn charge l := by
  apply ext_get
  intro r'
  rw [get_addOn, get_addOn]
  by_cases hr : r' = r
  · subst hr
    rw [h, ite_self, ite_self]
  · have hmem : r' ∈ l ++ [r] ↔ r' ∈ l := by simp [hr]
    simp only [hmem]

/-- Counting one more resource. -/
theorem set_addOn {l : List Resource} {r : Resource} (h : r ∉ l) :
    (used.addOn charge l).set r ((used.addOn charge l).get r + charge.get r) =
      used.addOn charge (l ++ [r]) := by
  apply ext_get
  intro r'
  rw [get_set, get_addOn, get_addOn, get_addOn, if_neg h]
  by_cases hr : r' = r
  · subst hr
    simp
  · have hmem : r' ∈ l ++ [r] ↔ r' ∈ l := by simp [hr]
    simp only [hr, if_false, hmem]

/-- Giving back one resource of a charge that was taken of it and of others. -/
theorem giveBack_addOn {l : List Resource} {r : Resource} (h : r ∉ l)
    (hroom : charge.get r ≠ 0 → used.get r + charge.get r ≤ Resource.maxAmount) :
    giveBack charge (used.addOn charge (r :: l)) r = used.addOn charge l := by
  apply ext_get
  intro r'
  unfold giveBack
  split
  · rename_i hzero
    rw [get_addOn, get_addOn]
    by_cases hr : r' = r
    · subst hr
      rw [hzero, ite_self, ite_self]
    · have hmem : r' ∈ r :: l ↔ r' ∈ l := by simp [hr]
      simp only [hmem]
  · rename_i hne
    have hval : (used.addOn charge (r :: l)).get r = used.get r + charge.get r := by
      rw [get_addOn, if_pos (List.mem_cons_self ..)]
    rw [get_set, hval, Resource.lower_of_le (by omega) (hroom hne), get_addOn, get_addOn]
    by_cases hr : r' = r
    · subst hr
      rw [if_pos rfl, if_neg h]
      omega
    · have hmem : r' ∈ r :: l ↔ r' ∈ l := by simp [hr]
      simp only [hr, if_false, hmem]

/-- Giving back every resource of which the charge was taken. -/
theorem foldl_giveBack_addOn {l : List Resource} (hl : l.Nodup)
    (hroom : ∀ r ∈ l, charge.get r ≠ 0 → used.get r + charge.get r ≤ Resource.maxAmount) :
    l.foldl (giveBack charge) (used.addOn charge l) = used := by
  induction l with
  | nil => exact addOn_nil
  | cons r l ih =>
    rw [List.nodup_cons] at hl
    rw [List.foldl_cons, giveBack_addOn hl.1 (hroom r (List.mem_cons_self ..))]
    exact ih hl.2 fun r' hr' => hroom r' (List.mem_cons_of_mem r hr')

/-- Giving a charge back undoes taking it. -/
theorem release_add
    (h : ∀ r, charge.get r ≠ 0 → used.get r + charge.get r ≤ Resource.maxAmount) :
    (used + charge).release charge = used := by
  rw [release, ← addOn_all]
  exact foldl_giveBack_addOn (by decide) fun r _ => h r

/-! ## The whole charge -/

/-- The loop, from any point on: the resources before that point have room. -/
theorem takeEach_eq {passed rest : List Resource} (hnodup : (passed ++ rest).Nodup)
    (hpassed : ∀ r ∈ passed, used.lacks ceiling charge r = false) :
    takeEach ceiling charge passed (used.addOn charge passed) rest =
      match rest.find? (used.lacks ceiling charge) with
      | some r => (some r, used)
      | none => (none, used.addOn charge (passed ++ rest)) := by
  induction rest generalizing passed with
  | nil =>
    rw [List.append_nil]
    rfl
  | cons r rest ih =>
    have hsplit := List.append_cons passed r rest
    have hr : r ∉ passed := fun h =>
      (List.nodup_append.mp hnodup).2.2 r h r (List.mem_cons_self ..) rfl
    have hget : (used.addOn charge passed).get r = used.get r := by
      rw [get_addOn, if_neg hr, Nat.add_zero]
    have hnext : used.lacks ceiling charge r = false →
        ∀ r' ∈ passed ++ [r], used.lacks ceiling charge r' = false := by
      intro h r' hr'
      rcases List.mem_append.mp hr' with hr' | hr'
      · exact hpassed r' hr'
      · rw [List.mem_singleton.mp hr']
        exact h
    rw [takeEach]
    split
    · -- the charge takes nothing of this resource
      rename_i hzero
      have hlacks : used.lacks ceiling charge r = false := by
        rw [lacks, hzero]
        rfl
      have hadd : used.addOn charge passed = used.addOn charge (passed ++ [r]) :=
        (addOn_append_of_eq_zero hzero).symm
      rw [List.find?_cons_of_neg (by rw [hlacks]; decide), hsplit, hadd]
      exact ih (hsplit ▸ hnodup) (hnext hlacks)
    · rename_i hne
      dsimp only
      split
      · -- there is room
        rename_i hroom
        rw [hget] at hroom
        have hlacks : used.lacks ceiling charge r = false := by
          rw [Bool.eq_false_iff]
          intro h
          exact (lacks_eq_true_iff.mp h).2 hroom
        rw [List.find?_cons_of_neg (by rw [hlacks]; decide), hsplit, set_addOn hr]
        exact ih (hsplit ▸ hnodup) (hnext hlacks)
      · -- there is none, and the passed resources are given back
        rename_i hroom
        rw [hget] at hroom
        have hlacks : used.lacks ceiling charge r = true := lacks_eq_true_iff.mpr ⟨hne, hroom⟩
        rw [List.find?_cons_of_pos hlacks,
          foldl_giveBack_addOn (List.nodup_append.mp hnodup).1]
        intro r' hr' hne'
        by_contra hover
        have h := hpassed r' hr'
        rw [Bool.eq_false_iff] at h
        exact h (lacks_eq_true_iff.mpr ⟨hne', fun hroom' => hover hroom'.1⟩)

/-- Taking a charge is one decision on the usage it starts from. -/
theorem take_eq : used.take ceiling charge =
    match used.lacking? ceiling charge with
    | some r => (some r, used)
    | none => (none, used + charge) := by
  have h : takeEach ceiling charge [] (used.addOn charge []) Resource.all = _ :=
    takeEach_eq (by decide) (by simp)
  rw [addOn_nil, List.nil_append, addOn_all] at h
  exact h

theorem take_of_fits (h : used.Fits ceiling charge) :
    used.take ceiling charge = (none, used + charge) := by
  rw [take_eq, lacking?_eq_none_iff.mpr h]

theorem take_of_lacking {r : Resource} (h : used.lacking? ceiling charge = some r) :
    used.take ceiling charge = (some r, used) := by
  rw [take_eq, h]

end Amounts

end CircuitRelay
