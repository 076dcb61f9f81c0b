import CircuitRelay.Relay.Gate
import Mathlib.Algebra.Ring.Nat

/-!
# Queues of permits

The gate keeps four tables of queues.  Every one of its operations takes a permit from one queue,
appends a permit to one queue, or thins out or drops whole queues.  For each of these this file says
three things: which permits the queue of every key holds afterwards, that the permits of the table
are split between those taken out and those left, up to order, and that the table keeps what it
promises.

* `Holds P q`: no key keeps an empty queue, and the permits of a key satisfy `P` with that key.
* `queue_push`, `queue_takeOldest`, `queue_takeNewest`, `queue_retain`, `queue_erase`: queues.
* `permits_push`, `permits_takeOldest`, `permits_takeNewest`, `permits_retain`, `permits_erase`:
  permits up to order.
* `countBy_true`, `countBy_eq_lengths`: all permits, and those of one key.
-/

namespace CircuitRelay

namespace PermitQueues

variable {κ : Type} [DecidableEq κ] {q : PermitQueues κ} {P : κ → Permit → Prop}

/-! ## The queue of a key -/

theorem queue_of_get? {k : κ} {l : List Permit} (h : q.get? k = some l) : q.queue k = l := by
  rw [queue, h]
  rfl

theorem queue_erase (q : PermitQueues κ) (k k' : κ) :
    queue (q.erase k) k' = if k = k' then [] else q.queue k' := by
  rw [queue, Table.get?_erase]
  split
  · rfl
  · rfl

theorem queue_setQueue (q : PermitQueues κ) (k k' : κ) (l : List Permit) :
    (q.setQueue k l).queue k' = if k = k' then l else q.queue k' := by
  unfold setQueue
  split
  · rename_i hl
    rw [queue_erase, List.isEmpty_iff.mp hl]
  · rw [queue, Table.get?_insert]
    split
    · rfl
    · rfl

theorem queue_push (q : PermitQueues κ) (k k' : κ) (p : Permit) :
    (q.push k p).queue k' = if k = k' then q.queue k ++ [p] else q.queue k' :=
  queue_setQueue q k k' _

theorem fst_takeOldest (q : PermitQueues κ) (k : κ) : (q.takeOldest k).1 = (q.queue k).head? := by
  unfold takeOldest
  split
  · rename_i hnil
    rw [hnil]
    rfl
  · rename_i p rest hcons
    rw [hcons]
    rfl

theorem queue_takeOldest (q : PermitQueues κ) (k k' : κ) :
    (q.takeOldest k).2.queue k' = if k = k' then (q.queue k).tail else q.queue k' := by
  unfold takeOldest
  split
  · rename_i hnil
    split
    · rename_i hk
      rw [← hk, hnil]
      rfl
    · rfl
  · rename_i p rest hcons
    rw [queue_setQueue, hcons]
    rfl

theorem fst_takeNewest (q : PermitQueues κ) (k : κ) :
    (q.takeNewest k).1 = (q.queue k).getLast? := by
  unfold takeNewest
  split
  · rename_i hnone
    exact hnone.symm
  · rename_i p hlast
    exact hlast.symm

theorem queue_takeNewest (q : PermitQueues κ) (k k' : κ) :
    (q.takeNewest k).2.queue k' = if k = k' then (q.queue k).dropLast else q.queue k' := by
  unfold takeNewest
  split
  · rename_i hnone
    split
    · rename_i hk
      rw [← hk, List.getLast?_eq_none_iff.mp hnone]
      rfl
    · rfl
  · exact queue_setQueue q k k' _

theorem queue_retain (q : PermitQueues κ) (keep : Permit → Bool) (k : κ) :
    (q.retain keep).2.queue k = (q.queue k).filter keep := by
  show (((q.mapValues _).filter _).get? k).getD [] = ((q.get? k).getD []).filter keep
  rw [Table.get?_filter, Table.get?_mapValues]
  cases q.get? k with
  | none => rfl
  | some l =>
    rw [Option.map_some, Option.filter_some, Option.getD_some]
    split
    · rfl
    · rename_i hempty
      rw [Bool.not_eq_true, Bool.not_eq_false', List.isEmpty_iff] at hempty
      exact hempty.symm

/-! ## Permits up to order -/

/-- The permits of a key stand apart from the others. -/
theorem permits_erase (q : PermitQueues κ) (k : κ) :
    q.permits.Perm (q.queue k ++ permits (q.erase k)) := by
  cases hk : q.get? k with
  | none =>
    rw [queue, hk, Table.erase_eq_self hk]
    exact .refl _
  | some l =>
    rw [queue_of_get? hk]
    exact (Table.values_perm_of_get? hk).flatten

theorem permits_setQueue (q : PermitQueues κ) (k : κ) (l : List Permit) :
    (q.setQueue k l).permits.Perm (l ++ permits (q.erase k)) := by
  unfold setQueue
  split
  · rename_i hl
    rw [List.isEmpty_iff.mp hl]
    exact .refl _
  · exact (Table.values_insert_perm q k l).flatten

theorem permits_push (q : PermitQueues κ) (k : κ) (p : Permit) :
    (q.push k p).permits.Perm (p :: q.permits) := by
  have hmiddle : (q.queue k ++ [p] ++ permits (q.erase k)).Perm
      (p :: (q.queue k ++ permits (q.erase k))) := by
    rw [List.append_assoc]
    exact List.perm_middle
  exact (permits_setQueue q k _).trans (hmiddle.trans ((permits_erase q k).symm.cons p))

/-- A permit taken out of one queue leaves the permits of the others. -/
theorem permits_of_queue_perm {k : κ} {p : Permit} {l : List Permit}
    (h : (q.queue k).Perm (p :: l)) : q.permits.Perm (p :: (q.setQueue k l).permits) := by
  have hrest : (p :: l ++ permits (q.erase k)).Perm (p :: (q.setQueue k l).permits) :=
    (permits_setQueue q k l).symm.cons p
  exact (permits_erase q k).trans ((h.append_right _).trans hrest)

theorem permits_takeOldest (q : PermitQueues κ) (k : κ) :
    q.permits.Perm ((q.takeOldest k).1.toList ++ (q.takeOldest k).2.permits) := by
  unfold takeOldest
  split
  · exact .refl _
  · rename_i p rest hcons
    refine permits_of_queue_perm ?_
    rw [hcons]

theorem permits_takeNewest (q : PermitQueues κ) (k : κ) :
    q.permits.Perm ((q.takeNewest k).1.toList ++ (q.takeNewest k).2.permits) := by
  unfold takeNewest
  split
  · exact .refl _
  · rename_i p hlast
    obtain ⟨l, hl⟩ := List.getLast?_eq_some_iff.mp hlast
    refine permits_of_queue_perm ?_
    rw [hl, List.dropLast_concat]
    exact List.perm_append_singleton p l

omit [DecidableEq κ] in
/-- A queue that is thinned out to nothing has no permits left. -/
theorem flatten_thinned (keep : Permit → Bool) (l : List (κ × List Permit)) :
    (((l.map fun e => (e.1, e.2.filter keep)).filter fun e => !e.2.isEmpty).map
      Prod.snd).flatten = (l.map Prod.snd).flatten.filter keep := by
  induction l with
  | nil => rfl
  | cons e l ih =>
    rw [List.map_cons, List.map_cons, List.flatten_cons, List.filter_append]
    by_cases hempty : (e.2.filter keep).isEmpty = true
    · rw [List.filter_cons_of_neg (by simpa using hempty), List.isEmpty_iff.mp hempty,
        List.nil_append]
      exact ih
    · rw [List.filter_cons_of_pos (by simpa using hempty), List.map_cons, List.flatten_cons, ih]

omit [DecidableEq κ] in
theorem permits_retain (q : PermitQueues κ) (keep : Permit → Bool) :
    q.permits.Perm ((q.retain keep).1 ++ (q.retain keep).2.permits) := by
  have hkept : (q.retain keep).2.permits = q.permits.filter keep := flatten_thinned keep q.entries
  rw [hkept]
  exact (List.perm_append_comm.trans (List.filter_append_perm keep q.permits)).symm

/-! ## What a table of queues promises -/

/-- No key keeps an empty queue, and the permits of every key satisfy a predicate with it. -/
structure Holds (P : κ → Permit → Prop) (q : PermitQueues κ) : Prop where
  tidy : ∀ k, q.get? k ≠ some []
  all : ∀ k, ∀ p ∈ q.queue k, P k p

theorem holds_empty (P : κ → Permit → Prop) : Holds P .empty :=
  ⟨fun _ => nofun, fun _ _ h => absurd h List.not_mem_nil⟩

theorem Holds.erase (h : q.Holds P) (k : κ) : Holds P (q.erase k) := by
  refine ⟨fun k' => ?_, fun k' p hp => ?_⟩
  · rw [Table.get?_erase]
    split
    · exact (Option.some_ne_none _).symm
    · exact h.tidy k'
  · rw [queue_erase] at hp
    split at hp
    · exact absurd hp List.not_mem_nil
    · exact h.all k' p hp

theorem Holds.setQueue (h : q.Holds P) {k : κ} {l : List Permit} (hl : ∀ p ∈ l, P k p) :
    (q.setQueue k l).Holds P := by
  unfold PermitQueues.setQueue
  split
  · exact h.erase k
  · rename_i hempty
    refine ⟨fun k' => ?_, fun k' p hp => ?_⟩
    · rw [Table.get?_insert]
      split
      · intro hnil
        exact hempty (List.isEmpty_iff.mpr (Option.some.inj hnil))
      · exact h.tidy k'
    · rw [queue, Table.get?_insert] at hp
      split at hp
      · rename_i hk
        exact hk ▸ hl p hp
      · exact h.all k' p hp

theorem Holds.push (h : q.Holds P) {k : κ} {p : Permit} (hp : P k p) : (q.push k p).Holds P := by
  refine h.setQueue fun p' hp' => ?_
  rcases List.mem_append.mp hp' with hp' | hp'
  · exact h.all k p' hp'
  · rw [List.mem_singleton.mp hp']
    exact hp

theorem Holds.of_takeOldest (h : q.Holds P) {k : κ} {p : Permit}
    (hp : p ∈ (q.takeOldest k).1) : P k p := by
  rw [fst_takeOldest] at hp
  exact h.all k p (List.mem_of_head? hp)

theorem Holds.of_takeNewest (h : q.Holds P) {k : κ} {p : Permit}
    (hp : p ∈ (q.takeNewest k).1) : P k p := by
  rw [fst_takeNewest] at hp
  exact h.all k p (List.mem_of_getLast? hp)

theorem Holds.takeOldest (h : q.Holds P) (k : κ) : (q.takeOldest k).2.Holds P := by
  unfold PermitQueues.takeOldest
  split
  · exact h
  · rename_i p rest hcons
    refine h.setQueue fun p' hp' => h.all k p' ?_
    rw [hcons]
    exact List.mem_cons_of_mem p hp'

theorem Holds.takeNewest (h : q.Holds P) (k : κ) : (q.takeNewest k).2.Holds P := by
  unfold PermitQueues.takeNewest
  split
  · exact h
  · exact h.setQueue fun p' hp' => h.all k p' ((List.dropLast_sublist _).subset hp')

theorem Holds.retain (h : q.Holds P) (keep : Permit → Bool) : (q.retain keep).2.Holds P := by
  refine ⟨fun k hk => ?_, fun k p hp => ?_⟩
  · have hget : ((q.mapValues fun _ l => l.filter keep).filter fun _ l => !l.isEmpty).get? k =
        some [] := hk
    rw [Table.get?_filter, Option.filter_eq_some_iff] at hget
    exact Bool.noConfusion hget.2
  · rw [queue_retain] at hp
    exact h.all k p (List.mem_filter.mp hp).1

/-! ## Counting permits -/

/-- How many permits every key has. -/
def lengths (q : PermitQueues κ) (k : κ) : Nat := (q.queue k).length

/-- How many permits the keys that pass a test have together. -/
def countBy (q : PermitQueues κ) (mine : κ → Bool) : Nat :=
  ((q.entries.filter fun e => mine e.1).map fun e => e.2.length).sum

omit [DecidableEq κ] in
theorem countBy_true (q : PermitQueues κ) : q.countBy (fun _ => true) = q.count := by
  rw [countBy, List.filter_eq_self.mpr fun _ _ => rfl, count, permits, Table.values,
    List.length_flatten, List.map_map]
  rfl

/-- The permits of one key are those of its queue. -/
theorem countBy_eq_lengths (q : PermitQueues κ) (k : κ) :
    q.countBy (fun k' => decide (k' = k)) = q.lengths k := by
  have hrest : ∀ l : List (κ × List Permit), (∀ e ∈ l, e.1 ≠ k) →
      l.filter (fun e => decide (e.1 = k)) = [] := by
    intro l hl
    rw [List.filter_eq_nil_iff]
    intro e he
    rw [decide_eq_true_eq]
    exact hl e he
  rw [countBy, lengths]
  cases hk : q.get? k with
  | none =>
    rw [hrest q.entries ?_, queue, hk]
    · rfl
    · rintro e he rfl
      exact Table.get?_eq_none_iff.mp hk (List.mem_map.mpr ⟨e, he, rfl⟩)
  | some l =>
    have hperm := (Table.entries_perm_of_get? hk).filter fun e => decide (e.1 = k)
    rw [List.filter_cons_of_pos (by simp), hrest (Table.erase q k).entries ?_] at hperm
    · rw [(hperm.map fun e => e.2.length).sum_nat, queue_of_get? hk]
      rfl
    · intro e he
      exact of_decide_eq_true (List.mem_filter.mp he).2

end PermitQueues

end CircuitRelay
