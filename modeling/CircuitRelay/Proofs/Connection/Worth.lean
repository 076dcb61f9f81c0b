import CircuitRelay.Proofs.Connection.Counts
import CircuitRelay.Proofs.Connection.Selection
import Mathlib.Algebra.BigOperators.Group.List.Basic
import Mathlib.Algebra.Order.BigOperators.Group.List
import Mathlib.Algebra.Order.Ring.Int

/-!
# The worth of a peer, and the order of its tags

The worth of a peer is the sum of its tag values, kept in the range of a 64-bit integer after every
addition.  The tags are visited in the order in which a table lists them, and a table may list the
same tags in any order.

A sum that stops at the end of the range forgets how far beyond it would have gone, and what is
added with the other sign counts from the end.  So the order shows exactly if values of both signs
occur and those of one sign alone leave the range: the smallest such case is the largest value, then
a positive one, then a negative one.  In all other cases the sum is the true total, brought into the
range once.

* `addUp_of_one_sign`, `addUp_of_within`: sums that stop at most once, and sums that never do.
* `Settled`: the values for which the order does not show; `addUp_comm_iff` says so.
* `HoldsSame`: two managers hold the same connections, protections and tags.
* `worth_in_any_order`: what the order of tags means for the worth of peers, and for a pass.
-/

namespace CircuitRelay

open Connection

namespace Connection

namespace Standing

variable {xs ys : List Int} {a : Int}

/-! ## Sums that stop at the ends of the range -/

/-- A number brought into the range of a 64-bit integer. -/
def clamp (x : Int) : Int := max (-2 ^ 63) (min (2 ^ 63 - 1) x)

/-- A sum over values, kept in the range after every addition. -/
def addUp (xs : List Int) (start : Int) : Int := xs.foldl addClamped start

theorem addUp_nil (a : Int) : addUp [] a = a := rfl

theorem addUp_cons (x : Int) (xs : List Int) (a : Int) :
    addUp (x :: xs) a = addUp xs (clamp (a + x)) := rfl

theorem addUp_append (xs ys : List Int) (a : Int) : addUp (xs ++ ys) a = addUp ys (addUp xs a) :=
  List.foldl_append

theorem sumClamped_eq (values : List Int64) :
    sumClamped values = addUp (values.map Int64.toInt) 0 := by
  rw [addUp, List.foldl_map]
  rfl

theorem clamp_eq_self (hlow : -2 ^ 63 ≤ a) (hhigh : a ≤ 2 ^ 63 - 1) : clamp a = a := by
  rw [clamp]
  omega

theorem clamp_bounds (a : Int) : -2 ^ 63 ≤ clamp a ∧ clamp a ≤ 2 ^ 63 - 1 := by
  rw [clamp]
  omega

/-- A number that is not positive is not below a sum of such numbers. -/
theorem sum_le_of_nonpos (h : ∀ x ∈ xs, x ≤ 0) : xs.sum ≤ 0 ∧ ∀ x ∈ xs, xs.sum ≤ x := by
  induction xs with
  | nil => exact ⟨Int.le_refl 0, fun _ hx => nomatch hx⟩
  | cons y xs ih =>
    obtain ⟨hsum, hle⟩ := ih fun x hx => h x (List.mem_cons_of_mem y hx)
    have hy := h y List.mem_cons_self
    rw [List.sum_cons]
    refine ⟨by omega, fun x hx => ?_⟩
    rcases List.mem_cons.mp hx with rfl | hx
    · omega
    · have hx := hle x hx
      omega

/-- Values of one sign move the sum in one direction, so that it stops once at most. -/
theorem addUp_of_one_sign (h : (∀ x ∈ xs, 0 ≤ x) ∨ ∀ x ∈ xs, x ≤ 0) (hlow : -2 ^ 63 ≤ a)
    (hhigh : a ≤ 2 ^ 63 - 1) : addUp xs a = clamp (a + xs.sum) := by
  induction xs generalizing a with
  | nil =>
    rw [addUp_nil, List.sum_nil, Int.add_zero, clamp_eq_self hlow hhigh]
  | cons x xs ih =>
    have hrest : (∀ y ∈ xs, 0 ≤ y) ∨ ∀ y ∈ xs, y ≤ 0 :=
      h.imp (fun h y hy => h y (List.mem_cons_of_mem x hy))
        fun h y hy => h y (List.mem_cons_of_mem x hy)
    have hsigns : 0 ≤ x ∧ 0 ≤ xs.sum ∨ x ≤ 0 ∧ xs.sum ≤ 0 := by
      rcases h with h | h
      · exact .inl ⟨h x List.mem_cons_self,
          List.sum_nonneg fun y hy => h y (List.mem_cons_of_mem x hy)⟩
      · exact .inr ⟨h x List.mem_cons_self,
          (sum_le_of_nonpos fun y hy => h y (List.mem_cons_of_mem x hy)).1⟩
    obtain ⟨hlow', hhigh'⟩ := clamp_bounds (a + x)
    rw [addUp_cons, ih hrest hlow' hhigh', List.sum_cons]
    unfold clamp
    omega

/-- The positive values. -/
def ups (xs : List Int) : List Int := xs.filter fun x => decide (0 < x)

/-- The values that are not positive. -/
def downs (xs : List Int) : List Int := xs.filter fun x => !decide (0 < x)

theorem mem_ups_iff {x : Int} : x ∈ ups xs ↔ x ∈ xs ∧ 0 < x := by
  rw [ups, List.mem_filter, decide_eq_true_eq]

theorem mem_downs_iff {x : Int} : x ∈ downs xs ↔ x ∈ xs ∧ x ≤ 0 := by
  rw [downs, List.mem_filter, Bool.not_eq_true', decide_eq_false_iff_not, Int.not_lt]

/-- What the positive values come to. -/
def gains (xs : List Int) : Int := (ups xs).sum

/-- What the values that are not positive come to. -/
def losses (xs : List Int) : Int := (downs xs).sum

theorem le_gains (xs : List Int) : 0 ≤ gains xs ∧ ∀ x ∈ ups xs, x ≤ gains xs := by
  have hnonneg : ∀ x ∈ ups xs, 0 ≤ x := fun x hx => Int.le_of_lt (mem_ups_iff.mp hx).2
  exact ⟨List.sum_nonneg hnonneg, List.single_le_sum hnonneg⟩

theorem losses_le (xs : List Int) : losses xs ≤ 0 ∧ ∀ x ∈ downs xs, losses xs ≤ x :=
  sum_le_of_nonpos fun _ hx => (mem_downs_iff.mp hx).2

theorem addUp_ups (hlow : -2 ^ 63 ≤ a) (hhigh : a ≤ 2 ^ 63 - 1) :
    addUp (ups xs) a = clamp (a + gains xs) :=
  addUp_of_one_sign (.inl fun _ hx => Int.le_of_lt (mem_ups_iff.mp hx).2) hlow hhigh

theorem addUp_downs (hlow : -2 ^ 63 ≤ a) (hhigh : a ≤ 2 ^ 63 - 1) :
    addUp (downs xs) a = clamp (a + losses xs) :=
  addUp_of_one_sign (.inr fun _ hx => (mem_downs_iff.mp hx).2) hlow hhigh

theorem gains_cons (x : Int) (xs : List Int) :
    gains (x :: xs) = if 0 < x then x + gains xs else gains xs := by
  rw [gains, ups, List.filter_cons]
  split
  · rename_i hx
    rw [if_pos (of_decide_eq_true hx), List.sum_cons]
    rfl
  · rename_i hx
    rw [if_neg (by simpa using hx)]
    rfl

theorem losses_cons (x : Int) (xs : List Int) :
    losses (x :: xs) = if 0 < x then losses xs else x + losses xs := by
  rw [losses, downs, List.filter_cons]
  split
  · rename_i hx
    rw [if_neg (by simpa using hx), List.sum_cons]
    rfl
  · rename_i hx
    rw [if_pos (by simpa using hx)]
    rfl

/-- Values that cannot leave the range, in whatever order, are never stopped. -/
theorem addUp_of_within (hlow : -2 ^ 63 ≤ a + losses xs) (hhigh : a + gains xs ≤ 2 ^ 63 - 1) :
    addUp xs a = clamp (a + xs.sum) := by
  induction xs generalizing a with
  | nil =>
    rw [losses, downs, List.filter_nil, List.sum_nil, Int.add_zero] at hlow
    rw [gains, ups, List.filter_nil, List.sum_nil, Int.add_zero] at hhigh
    rw [addUp_nil, List.sum_nil, Int.add_zero, clamp_eq_self hlow hhigh]
  | cons x xs ih =>
    have hgains := (le_gains xs).1
    have hlosses := (losses_le xs).1
    rw [losses_cons] at hlow
    rw [gains_cons] at hhigh
    have hx : -2 ^ 63 ≤ a + x ∧ a + x ≤ 2 ^ 63 - 1 ∧ -2 ^ 63 ≤ a + x + losses xs ∧
        a + x + gains xs ≤ 2 ^ 63 - 1 := by
      split at hlow
      · rename_i hpos
        rw [if_pos hpos] at hhigh
        omega
      · rename_i hpos
        rw [if_neg hpos] at hhigh
        omega
    rw [addUp_cons, clamp_eq_self hx.1 hx.2.1, ih hx.2.2.1 hx.2.2.2, List.sum_cons, Int.add_assoc]

/-! ## When the order shows -/

/-- Values of one sign, or such that those of each sign alone stay in the range. -/
def Settled (xs : List Int) : Prop :=
  (∀ x ∈ xs, 0 ≤ x) ∨ (∀ x ∈ xs, x ≤ 0) ∨ gains xs ≤ 2 ^ 63 - 1 ∧ -2 ^ 63 ≤ losses xs

instance (xs : List Int) : Decidable (Settled xs) := inferInstanceAs (Decidable (_ ∨ _ ∨ _))

theorem Settled.perm (h : Settled xs) (hperm : ys.Perm xs) : Settled ys := by
  have hgains : gains ys = gains xs := (hperm.filter _).sum_eq
  have hlosses : losses ys = losses xs := (hperm.filter _).sum_eq
  rw [Settled, hgains, hlosses]
  exact h.imp (fun h x hx => h x (hperm.subset hx))
    fun h => h.imp_left fun h x hx => h x (hperm.subset hx)

/-- Settled values add up to their total, brought into the range. -/
theorem Settled.addUp_eq (h : Settled xs) : addUp xs 0 = clamp xs.sum := by
  have hzero : addUp xs 0 = clamp (0 + xs.sum) := by
    rcases h with hup | hdown | ⟨hgains, hlosses⟩
    · exact addUp_of_one_sign (.inl hup) (by decide) (by decide)
    · exact addUp_of_one_sign (.inr hdown) (by decide) (by decide)
    · exact addUp_of_within (by omega) (by omega)
  rwa [Int.zero_add] at hzero

/-- If it makes no difference whether the positive values come first or last, then the values are
settled. -/
theorem settled_of_addUp_eq (h : addUp (ups xs ++ downs xs) 0 = addUp (downs xs ++ ups xs) 0) :
    Settled xs := by
  obtain ⟨hlow, hhigh⟩ := clamp_bounds (gains xs)
  obtain ⟨hlow', hhigh'⟩ := clamp_bounds (losses xs)
  have hfirst : addUp (ups xs) 0 = clamp (gains xs) := by
    rw [addUp_ups (by decide) (by decide), Int.zero_add]
  have hlast : addUp (downs xs) 0 = clamp (losses xs) := by
    rw [addUp_downs (by decide) (by decide), Int.zero_add]
  rw [addUp_append, addUp_append, hfirst, hlast, addUp_downs hlow hhigh,
    addUp_ups hlow' hhigh'] at h
  by_cases hup : ∀ x ∈ xs, 0 ≤ x
  · exact .inl hup
  · by_cases hdown : ∀ x ∈ xs, x ≤ 0
    · exact .inr (.inl hdown)
    · simp only [not_forall, Int.not_le] at hup hdown
      obtain ⟨x, hx, hneg⟩ := hup
      obtain ⟨y, hy, hpos⟩ := hdown
      have hlosses := (losses_le xs).2 x (mem_downs_iff.mpr ⟨hx, Int.le_of_lt hneg⟩)
      have hgains := (le_gains xs).2 y (mem_ups_iff.mpr ⟨hy, hpos⟩)
      -- both signs occur, so a stop at one end of the range shows in one of the two orders only
      refine .inr (.inr ?_)
      unfold clamp at h
      omega

/-- Whatever the order in which things are visited, their values add up to the same: this holds
exactly for settled values. -/
theorem addUp_comm_iff {α : Type} (l : List α) (f : α → Int) :
    (∀ order order' : List α, order.Perm l → order'.Perm l →
      addUp (order.map f) 0 = addUp (order'.map f) 0) ↔ Settled (l.map f) := by
  constructor
  · intro h
    let up : α → Bool := fun e => decide (0 < f e)
    have hfirst : (l.filter up ++ l.filter fun e => !up e).Perm l := List.filter_append_perm up l
    have hlast : ((l.filter fun e => !up e) ++ l.filter up).Perm l :=
      List.perm_append_comm.trans hfirst
    have hups : (l.filter up).map f = ups (l.map f) := by
      rw [ups, List.filter_map]
      rfl
    have hdowns : (l.filter fun e => !up e).map f = downs (l.map f) := by
      rw [downs, List.filter_map]
      rfl
    have hsame := h _ _ hfirst hlast
    rw [List.map_append, List.map_append, hups, hdowns] at hsame
    exact settled_of_addUp_eq hsame
  · intro h order order' horder horder'
    have hsum : (order.map f).sum = (order'.map f).sum :=
      ((horder.map f).trans (horder'.map f).symm).sum_eq
    rw [(h.perm (horder.map f)).addUp_eq, (h.perm (horder'.map f)).addUp_eq, hsum]

/-- The tag values of a peer. -/
def worths (s : Standing) : List Int := s.values.values.map Int64.toInt

theorem value_eq (s : Standing) : s.value = addUp s.worths 0 := sumClamped_eq s.values.values

end Standing

namespace Reading

variable {v v' : Reading} {now : Instant} {entries : List (ConnectionId × Record)}

/-- Only the places of the connections that may be closed matter. -/
theorem ranked_congr (hnames : (entries.map Prod.fst).Nodup)
    (hmay : ∀ r, v'.MayClose now r ↔ v.MayClose now r)
    (hplace : ∀ e ∈ entries, v.MayClose now e.2 → v'.place e = v.place e) :
    v'.ranked now entries = v.ranked now entries := by
  have hfilter : (entries.filter fun e => v'.MayClose now e.2) =
      entries.filter fun e => v.MayClose now e.2 :=
    List.filter_congr fun e _ => decide_eq_decide.mpr (hmay e.2)
  have hperm : (v'.ranked now entries).Perm (v.ranked now entries) := by
    refine (v'.ranked_perm now entries).trans ?_
    rw [hfilter]
    exact (v.ranked_perm now entries).symm
  have hsorted : (v'.ranked now entries).Pairwise fun a b => v.place a < v.place b := by
    refine (pairwise_ranked hnames).imp_of_mem fun {a b} ha hb hlt => ?_
    obtain ⟨ha, hmaya⟩ := mem_ranked_iff.mp ha
    obtain ⟨hb, hmayb⟩ := mem_ranked_iff.mp hb
    rwa [hplace a ha ((hmay _).mp hmaya), hplace b hb ((hmay _).mp hmayb)] at hlt
  exact hperm.eq_of_pairwise (fun a b _ _ hab hba => absurd hba (not_lt_of_gt hab)) hsorted
    (pairwise_ranked hnames)

end Reading

end Connection

namespace ConnectionManager

open Standing

variable {m m' : ConnectionManager}

/-! ## Managers that hold the same -/

/-- Two managers hold the same connections, protections and tags under the same marks.  How their
tables list them is left open. -/
structure HoldsSame (m m' : ConnectionManager) : Prop extends TracksSame m m' where
  protections : ∀ p tag, tag ∈ (m'.standing p).protections ↔ tag ∈ (m.standing p).protections
  values : ∀ p name, (m'.standing p).values.get? name = (m.standing p).values.get? name

/-- It makes no difference which of two tags was set first. -/
theorem holdsSame_tag_comm (m : ConnectionManager) (peer : PeerId) {name name' : String}
    (hname : name ≠ name') (v v' : Int64) :
    ((m.tag peer name v).tag peer name' v').HoldsSame
      ((m.tag peer name' v').tag peer name v) where
  toTracksSame := ⟨rfl, rfl, rfl, fun _ => rfl⟩
  protections p tag := by
    simp only [ConnectionManager.tag, standing_changeStanding]
    split
    · rfl
    · rfl
  values p key := by
    simp only [ConnectionManager.tag, standing_changeStanding]
    split
    · simp only [setValue, if_true, Table.get?_insert]
      by_cases hkey : name = key
      · rw [if_pos hkey, if_neg (hkey ▸ hname.symm), if_pos hkey]
      · rw [if_neg hkey, if_neg hkey]
    · rfl

theorem HoldsSame.changeStanding (h : m.HoldsSame m') (peer : PeerId) {f : Standing → Standing}
    (hprotections : ∀ s, (f s).protections = s.protections)
    (hvalues : ∀ s s' name, s'.values.get? name = s.values.get? name →
      (f s').values.get? name = (f s).values.get? name) :
    (m.changeStanding peer f).HoldsSame (m'.changeStanding peer f) where
  toTracksSame := h.toTracksSame.changeStanding peer peer f f
  protections p tag := by
    rw [standing_changeStanding, standing_changeStanding]
    split
    · rw [hprotections, hprotections]
      exact h.protections peer tag
    · exact h.protections p tag
  values p name := by
    rw [standing_changeStanding, standing_changeStanding]
    split
    · exact hvalues _ _ name (h.values peer name)
    · exact h.values p name

theorem HoldsSame.tag (h : m.HoldsSame m') (peer : PeerId) (name : String) (v : Int64) :
    (m.tag peer name v).HoldsSame (m'.tag peer name v) := by
  refine h.changeStanding peer (fun _ => rfl) fun s s' key hkey => ?_
  rw [setValue, setValue, Table.get?_insert, Table.get?_insert, hkey]

theorem HoldsSame.connect (h : m.HoldsSame m') (id : ConnectionId) (peer : PeerId)
    (direction : Direction) (now : Instant) :
    (m.connect id peer direction now).HoldsSame (m'.connect id peer direction now) := by
  let r : Record := ⟨peer, direction, now, false⟩
  have hrecords : ∀ id', (m'.records.insert id r).get? id' = (m.records.insert id r).get? id' := by
    intro id'
    rw [Table.get?_insert, Table.get?_insert]
    exact congrArg (ite _ _) (h.records id')
  have hcontains : m'.records.contains id = m.records.contains id := by
    rw [Bool.eq_iff_iff, Table.contains_iff, Table.contains_iff,
      show m'.records.get? id = m.records.get? id from h.records id]
  have htracked : { m with records := m.records.insert id r }.HoldsSame
      { m' with records := m'.records.insert id r } :=
    ⟨⟨h.marks, h.closed, h.live, hrecords⟩, h.protections, h.values⟩
  rw [ConnectionManager.connect, ConnectionManager.connect, hcontains]
  split
  · exact htracked
  · have hcounted := htracked.changeStanding (f := .connect) peer (fun _ => rfl)
      fun _ _ _ hkey => hkey
    exact ⟨⟨hcounted.marks, hcounted.closed, congrArg (· + 1) h.live, hcounted.records⟩,
      hcounted.protections, hcounted.values⟩

theorem HoldsSame.isProtected_eq (h : m.HoldsSame m') (p : PeerId) :
    m'.isProtected p = m.isProtected p := by
  have hempty : (m'.standing p).protections = [] ↔ (m.standing p).protections = [] := by
    rw [List.eq_nil_iff_forall_not_mem, List.eq_nil_iff_forall_not_mem]
    exact forall_congr' fun tag => not_congr (h.protections p tag)
  rw [isProtected, isProtected, Standing.isProtected, Standing.isProtected, Bool.eq_iff_iff,
    Bool.not_eq_true', Bool.not_eq_true', List.isEmpty_eq_false_iff, List.isEmpty_eq_false_iff]
  exact not_congr hempty

/-- Peers with settled values are worth the same. -/
theorem HoldsSame.value_eq (h : m.HoldsSame m') {p : PeerId}
    (hsettled : Settled (m.standing p).worths) : (m'.standing p).value = (m.standing p).value := by
  have hperm : (m'.standing p).worths.Perm (m.standing p).worths :=
    (Table.values_perm_of_get?_eq (h.values p)).map Int64.toInt
  rw [Standing.value_eq, Standing.value_eq, (hsettled.perm hperm).addUp_eq, hsettled.addUp_eq,
    hperm.sum_eq]

/-- A pass selects the same, in the same order, if the values of all peers that it may choose from
are settled. -/
theorem HoldsSame.trim_fst_eq (h : m.HoldsSame m') (now : Instant)
    (hsettled : ∀ id r, m.record? id = some r → m.isProtected r.peer = false →
      Settled (m.standing r.peer).worths) :
    (m'.trim now).1 = (m.trim now).1 := by
  have hmay : ∀ r, m'.reading.MayClose now r ↔ m.reading.MayClose now r := by
    intro r
    rw [Reading.MayClose, Reading.MayClose, reading_isProtected, reading_isProtected,
      h.isProtected_eq, reading, reading, h.marks]
  have hplace : ∀ e ∈ m.records.entries, m.reading.MayClose now e.2 →
      m'.reading.place e = m.reading.place e := by
    intro e he hmay
    have hfree : m.isProtected e.2.peer = false := (mayClose_iff.mp hmay).free
    have hvalue := h.value_eq (hsettled e.1 e.2 (Table.get?_eq_some_iff.mpr he) hfree)
    rw [Reading.place, Reading.place, reading_worth, reading_worth, hvalue]
  have hranked : m'.reading.ranked now m'.records.entries =
      m.reading.ranked now m.records.entries :=
    (Reading.ranked_of_perm h.entries_perm m'.records.nodup).trans
      (Reading.ranked_congr m.records.nodup hmay hplace)
  rw [trim_fst_eq_take, trim_fst_eq_take, hranked, h.needsTrim_eq, h.surplus_eq]

/-- The tags of a peer may be visited in any order without a change of their sum exactly if the
values are settled, and then the peer is worth their true total, brought into the range once.  So
two managers that hold the same connections, protections and tags select the same connections in
the same order, however they came to hold them, if the values of all peers that a pass may choose
from are settled. -/
theorem worth_in_any_order (s : Standing) (h : m.HoldsSame m') (now : Instant) :
    ((∀ order order' : List (String × Int64), order.Perm s.values.entries →
      order'.Perm s.values.entries →
        sumClamped (order.map Prod.snd) = sumClamped (order'.map Prod.snd)) ↔ Settled s.worths) ∧
    (Settled s.worths → s.value = clamp s.worths.sum) ∧
    ((∀ id r, m.record? id = some r → m.isProtected r.peer = false →
        Settled (m.standing r.peer).worths) →
      (m'.trim now).1 = (m.trim now).1) := by
  refine ⟨?_, fun hs => ?_, h.trim_fst_eq now⟩
  · simp only [sumClamped_eq, worths, Table.values, List.map_map]
    exact addUp_comm_iff s.values.entries (Int64.toInt ∘ Prod.snd)
  · rw [Standing.value_eq, hs.addUp_eq]

/-- Two managers in which the tags of a peer were set in different orders; the peer is worth less
than another one. -/
theorem worth_in_any_order_two :
    let a : PeerId := ⟨.sha256, [1]⟩
    let b : PeerId := ⟨.sha256, [2]⟩
    let marks : Watermarks := ⟨1, 2, .zero, .zero, by decide, by decide⟩
    let m := (((((ofMarks marks).tag a "up" 5).tag a "down" (-3)).tag b "base" 3).connect 1 b
      .inbound 0).connect 2 a .inbound 0
    let m' := (((((ofMarks marks).tag a "down" (-3)).tag a "up" 5).tag b "base" 3).connect 1 b
      .inbound 0).connect 2 a .inbound 0
    m.HoldsSame m' ∧ Settled (m.standing a).worths ∧ Settled (m.standing b).worths ∧
    (m.standing a).value = 2 ∧ (a, 2) ∈ (m.trim 0).1 ∧ (m'.trim 0).1 = (m.trim 0).1 := by
  intro a b marks m m'
  have hsame : m.HoldsSame m' :=
    ((((ofMarks marks).holdsSame_tag_comm a (by decide) 5 (-3)).tag b "base" 3).connect 1 b
      .inbound 0).connect 2 a .inbound 0
  have ha : Settled (m.standing a).worths := by decide
  have hb : Settled (m.standing b).worths := by decide
  have hsettled : ∀ id r, m.record? id = some r → m.isProtected r.peer = false →
      Settled (m.standing r.peer).worths := by
    intro id r hr _
    have hmem : r ∈ [⟨b, .inbound, 0, false⟩, ⟨a, .inbound, 0, false⟩] :=
      Table.mem_values_of_get? hr
    simp only [List.mem_cons, List.not_mem_nil, or_false] at hmem
    rcases hmem with rfl | rfl
    · exact hb
    · exact ha
  obtain ⟨-, htotal, hpass⟩ := worth_in_any_order (m.standing a) hsame 0
  exact ⟨hsame, ha, hb, (htotal ha).trans (by decide),
    mem_trim_iff_ahead.mpr (by decide +kernel), hpass hsettled⟩

/-- The largest value, two, and two less than nothing: the total is the largest value, which is
what the peer is worth if the last two stand the other way round.  So beside a peer that is worth
one less its connection is closed in one of two managers that hold the same, and stays in the
other. -/
theorem worth_depends_on_order :
    let a : PeerId := ⟨.sha256, [1]⟩
    let b : PeerId := ⟨.sha256, [2]⟩
    let marks : Watermarks := ⟨1, 2, .zero, .zero, by decide, by decide⟩
    let big := (ofMarks marks).tag a "big" Int64.maxValue
    let m := ((((big.tag a "up" 2).tag a "down" (-2)).tag b "base" (Int64.maxValue - 1)).connect
      1 a .inbound 0).connect 2 b .inbound 0
    let m' := ((((big.tag a "down" (-2)).tag a "up" 2).tag b "base" (Int64.maxValue - 1)).connect
      1 a .inbound 0).connect 2 b .inbound 0
    m.HoldsSame m' ∧
    ((m.standing a).value = 2 ^ 63 - 3 ∧ (m'.standing a).value = 2 ^ 63 - 1) ∧
    ((a, 1) ∈ (m.trim 0).1 ∧ (a, 1) ∉ (m'.trim 0).1) := by
  intro a b marks big m m'
  have hsame : m.HoldsSame m' :=
    (((big.holdsSame_tag_comm a (by decide) 2 (-2)).tag b "base" (Int64.maxValue - 1)).connect 1 a
      .inbound 0).connect 2 b .inbound 0
  exact ⟨hsame, ⟨by decide, by decide⟩, mem_trim_iff_ahead.mpr (by decide +kernel),
    mem_trim_iff_ahead.not.mpr (by decide +kernel)⟩

end ConnectionManager

end CircuitRelay
