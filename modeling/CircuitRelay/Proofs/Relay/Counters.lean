import CircuitRelay.Proofs.Relay.Operation
import Mathlib.Algebra.BigOperators.Group.Finset.Basic

/-!
# The gate as a machine of counters

Permits of one peer are interchangeable, so the gate can be understood without them.  The machine
`RelayCounters` keeps four counters: how many reservations of a peer are pending and how many are
held, how many circuits of a source are pending, and how many run from a source to a destination.
It is told what happened, `RelayCounters.Event`, and knows nothing of addresses, times and charges:
whether a request was admitted and how many permits of a peer expired is part of what it is told.

`observe` reads the event off an operation of the gate.  The counters of the gate are its queue
lengths, and they move as the machine does.

* `counters_perform`: one operation of the gate is one step of the machine.
* `run_counters`: so is a run, and the numbers that the gate answers are those of the machine.

The machine has no case for a reservation that is accepted after the end.  The gate has one, and
drops the permit there; the two agree because after the end nothing is pending.
-/

namespace CircuitRelay

/-! ## The machine -/

/-- Numbers of permits by their owners. -/
structure RelayCounters where
  /-- Whether the relay has stopped. -/
  closed : Bool
  pendingReservations : PeerId → Nat
  reservations : PeerId → Nat
  /-- Pending circuits, by source. -/
  pendingCircuits : PeerId → Nat
  /-- Running circuits, by source and destination. -/
  circuits : PeerId × PeerId → Nat

namespace RelayCounters

open Function (update)

/-- What the machine is told; of permits that expired, how many each peer had for reservations and
for circuits. -/
inductive Event where
  | reservationAdmitted (peer : PeerId)
  | circuitAdmitted (source : PeerId)
  | refused
  | reservationAccepted (peer : PeerId) (renewed : Bool)
  | reservationFailed (peer : PeerId)
  | reservationDenied
  | reservationEnded (peer : PeerId)
  | circuitAccepted (source destination : PeerId)
  | circuitDenied (source : PeerId) (status : Relay.Status)
  | circuitFailed (source : PeerId)
  | circuitClosed (source destination : PeerId)
  | peerDisconnected (peer : PeerId)
  | expired (reservations circuits : PeerId → Nat)
  | stopped

/-- The machine before the first request. -/
def start : RelayCounters := ⟨false, fun _ => 0, fun _ => 0, fun _ => 0, fun _ => 0⟩

/-- The machine after the end. -/
def stop : RelayCounters := { start with closed := true }

/-- Sets the number of pending reservations of a peer. -/
def setPendingReservations (c : RelayCounters) (peer : PeerId) (n : Nat) : RelayCounters :=
  { c with pendingReservations := update c.pendingReservations peer n }

/-- Sets the number of held reservations of a peer. -/
def setReservations (c : RelayCounters) (peer : PeerId) (n : Nat) : RelayCounters :=
  { c with reservations := update c.reservations peer n }

/-- Sets the number of pending circuits of a source. -/
def setPendingCircuits (c : RelayCounters) (source : PeerId) (n : Nat) : RelayCounters :=
  { c with pendingCircuits := update c.pendingCircuits source n }

/-- Sets the number of circuits from a source to a destination. -/
def setCircuits (c : RelayCounters) (pair : PeerId × PeerId) (n : Nat) : RelayCounters :=
  { c with circuits := update c.circuits pair n }

@[simp] theorem reservations_setReservations (c : RelayCounters) (peer : PeerId) (n : Nat) :
    (c.setReservations peer n).reservations peer = n :=
  Function.update_self ..

@[simp] theorem setReservations_setReservations (c : RelayCounters) (peer : PeerId) (m n : Nat) :
    (c.setReservations peer m).setReservations peer n = c.setReservations peer n :=
  congrArg (fun f => { c with reservations := f }) (Function.update_idem ..)

/-- A counter at zero stays there. -/
theorem setPendingReservations_pred (c : RelayCounters) {peer : PeerId}
    (h : c.pendingReservations peer = 0) :
    c.setPendingReservations peer (c.pendingReservations peer - 1) = c := by
  have hsame : c.pendingReservations peer - 1 = c.pendingReservations peer := by
    omega
  rw [hsame]
  exact congrArg (fun f => { c with pendingReservations := f }) (Function.update_eq_self ..)

theorem setPendingCircuits_pred (c : RelayCounters) {source : PeerId}
    (h : c.pendingCircuits source = 0) :
    c.setPendingCircuits source (c.pendingCircuits source - 1) = c := by
  have hsame : c.pendingCircuits source - 1 = c.pendingCircuits source := by
    omega
  rw [hsame]
  exact congrArg (fun f => { c with pendingCircuits := f }) (Function.update_eq_self ..)

/-- The machine after an event.  An accepted reservation or circuit that was not pending changes
nothing, nor does a denial for a limit, which is a refusal that was counted already. -/
def step (c : RelayCounters) : Event → RelayCounters
  | .reservationAdmitted peer => c.setPendingReservations peer (c.pendingReservations peer + 1)
  | .circuitAdmitted source => c.setPendingCircuits source (c.pendingCircuits source + 1)
  | .refused => c
  | .reservationAccepted peer renewed =>
    if c.pendingReservations peer = 0 then c
    else (c.setPendingReservations peer (c.pendingReservations peer - 1)).setReservations peer
      (if renewed then max (c.reservations peer) 1 else c.reservations peer + 1)
  | .reservationFailed peer => c.setPendingReservations peer (c.pendingReservations peer - 1)
  | .reservationDenied => c
  | .reservationEnded peer => c.setReservations peer (c.reservations peer - 1)
  | .circuitAccepted source destination =>
    if c.pendingCircuits source = 0 then c
    else (c.setPendingCircuits source (c.pendingCircuits source - 1)).setCircuits
      (source, destination) (c.circuits (source, destination) + 1)
  | .circuitDenied source status =>
    if status = .resourceLimitExceeded then c
    else c.setPendingCircuits source (c.pendingCircuits source - 1)
  | .circuitFailed source => c.setPendingCircuits source (c.pendingCircuits source - 1)
  | .circuitClosed source destination =>
    c.setCircuits (source, destination) (c.circuits (source, destination) - 1)
  | .peerDisconnected peer =>
    ((c.setPendingReservations peer 0).setReservations peer 0).setPendingCircuits peer 0
  | .expired reservations circuits =>
    { c with
      pendingReservations := fun peer => c.pendingReservations peer - reservations peer
      pendingCircuits := fun peer => c.pendingCircuits peer - circuits peer }
  | .stopped => stop

/-- The machine after some events. -/
def run (c : RelayCounters) (events : List Event) : RelayCounters := events.foldl step c

/-- An event that admits a request. -/
def Event.admits : Event → Bool
  | .reservationAdmitted _ | .circuitAdmitted _ => true
  | _ => false

/-- Only the end closes the machine. -/
theorem closed_step {c : RelayCounters} {event : Event} (h : (c.step event).closed = true) :
    c.closed = true ∨ c.step event = stop := by
  cases event with
  | reservationAccepted peer renewed =>
    rw [step] at h
    split at h
    · exact .inl h
    · exact .inl h
  | circuitAccepted source destination =>
    rw [step] at h
    split at h
    · exact .inl h
    · exact .inl h
  | circuitDenied source status =>
    rw [step] at h
    split at h
    · exact .inl h
    · exact .inl h
  | stopped => exact .inr rfl
  | reservationAdmitted | circuitAdmitted | refused | reservationFailed | reservationDenied
  | reservationEnded | circuitFailed | circuitClosed | peerDisconnected | expired => exact .inl h

theorem update_zero {κ : Type} [DecidableEq κ] (k : κ) :
    update (fun _ : κ => 0) k 0 = fun _ => 0 :=
  Function.update_eq_self k _

/-- After the end nothing happens any more, as long as nothing is admitted. -/
theorem step_stop {event : Event} (h : event.admits = false) : stop.step event = stop := by
  have hreservations : ∀ peer, stop.setReservations peer 0 = stop := fun peer =>
    congrArg (fun f => { stop with reservations := f }) (update_zero peer)
  have hpending : ∀ peer, stop.setPendingReservations peer 0 = stop := fun peer =>
    congrArg (fun f => { stop with pendingReservations := f }) (update_zero peer)
  have hcircuits : ∀ source, stop.setPendingCircuits source 0 = stop := fun source =>
    congrArg (fun f => { stop with pendingCircuits := f }) (update_zero source)
  cases event with
  | reservationAdmitted peer => exact Bool.noConfusion h
  | circuitAdmitted source => exact Bool.noConfusion h
  | refused => rfl
  | reservationAccepted peer renewed => rfl
  | reservationFailed peer => exact hpending peer
  | reservationDenied => rfl
  | reservationEnded peer => exact hreservations peer
  | circuitAccepted source destination => rfl
  | circuitDenied source status =>
    rw [step]
    split
    · rfl
    · exact hcircuits source
  | circuitFailed source => exact hcircuits source
  | circuitClosed source destination =>
    exact congrArg (fun f => { stop with circuits := f }) (update_zero (source, destination))
  | peerDisconnected peer =>
    rw [step, hpending, hreservations, hcircuits]
  | expired reservations circuits =>
    have hnone : ∀ f : PeerId → Nat, (fun peer => 0 - f peer) = fun _ => 0 := fun f =>
      funext fun peer => Nat.zero_sub (f peer)
    show RelayCounters.mk true (fun peer => 0 - reservations peer) (fun _ => 0)
      (fun peer => 0 - circuits peer) (fun _ => 0) = stop
    rw [hnone, hnone]
    rfl
  | stopped => rfl

end RelayCounters

/-! ## Queue lengths -/

namespace PermitQueues

open Function (update)

variable {κ : Type} [DecidableEq κ]

theorem lengths_of_queue {q q' : PermitQueues κ} {k : κ} {l : List Permit}
    (h : ∀ k', q'.queue k' = if k = k' then l else q.queue k') :
    q'.lengths = update q.lengths k l.length := by
  funext k'
  rw [lengths, h, Function.update_apply]
  by_cases hk : k = k'
  · rw [if_pos hk, if_pos hk.symm]
  · rw [if_neg hk, if_neg (Ne.symm hk)]
    rfl

theorem lengths_push (q : PermitQueues κ) (k : κ) (p : Permit) :
    (q.push k p).lengths = update q.lengths k (q.lengths k + 1) := by
  rw [lengths_of_queue fun k' => queue_push q k k' p, List.length_append]
  rfl

theorem lengths_takeOldest (q : PermitQueues κ) (k : κ) :
    (q.takeOldest k).2.lengths = update q.lengths k (q.lengths k - 1) := by
  rw [lengths_of_queue fun k' => queue_takeOldest q k k', List.length_tail]
  rfl

theorem lengths_takeNewest (q : PermitQueues κ) (k : κ) :
    (q.takeNewest k).2.lengths = update q.lengths k (q.lengths k - 1) := by
  rw [lengths_of_queue fun k' => queue_takeNewest q k k', List.length_dropLast]
  rfl

theorem lengths_erase (q : PermitQueues κ) (k : κ) :
    lengths (q.erase k) = update q.lengths k 0 :=
  lengths_of_queue (l := []) fun k' => queue_erase q k k'

/-- How many permits of every key fail a test. -/
def failing (q : PermitQueues κ) (keep : Permit → Bool) (k : κ) : Nat :=
  (q.queue k).countP fun p => !keep p

theorem lengths_retain (q : PermitQueues κ) (keep : Permit → Bool) (k : κ) :
    (q.retain keep).2.lengths k = q.lengths k - q.failing keep k := by
  have hsplit : (q.queue k).length = (q.queue k).countP keep + q.failing keep k := by
    rw [failing, List.countP_eq_length_filter, List.countP_eq_length_filter,
      ← List.length_append]
    exact (List.filter_append_perm keep (q.queue k)).length_eq.symm
  rw [lengths, queue_retain, ← List.countP_eq_length_filter, lengths, hsplit, Nat.add_sub_cancel]

theorem fst_takeOldest_eq_none_iff {q : PermitQueues κ} {k : κ} :
    (q.takeOldest k).1 = none ↔ q.lengths k = 0 := by
  rw [fst_takeOldest, List.head?_eq_none_iff, lengths, List.length_eq_zero_iff]

end PermitQueues

/-! ## Totals -/

/-- The values of `f` add up to `n`: only finitely many are not zero, and these do. -/
def HasTotal {κ : Type} (f : κ → Nat) (n : Nat) : Prop :=
  ∃ ks : Finset κ, (∀ k, f k ≠ 0 → k ∈ ks) ∧ ∑ k ∈ ks, f k = n

namespace HasTotal

variable {κ : Type} {f g : κ → Nat} {a b : Nat}

/-- Any finite set that has all keys with a value gives the same sum. -/
theorem sum_eq (h : HasTotal f a) {ks : Finset κ} (hks : ∀ k, f k ≠ 0 → k ∈ ks) :
    ∑ k ∈ ks, f k = a := by
  classical
  obtain ⟨ks', hks', rfl⟩ := h
  have hleft : ∑ k ∈ ks, f k = ∑ k ∈ ks ∪ ks', f k := by
    refine Finset.sum_subset Finset.subset_union_left fun k _ hk => ?_
    by_contra hne
    exact hk (hks k hne)
  have hright : ∑ k ∈ ks', f k = ∑ k ∈ ks ∪ ks', f k := by
    refine Finset.sum_subset Finset.subset_union_right fun k _ hk => ?_
    by_contra hne
    exact hk (hks' k hne)
  rw [hleft, hright]

/-- There is only one total. -/
theorem unique (h : HasTotal f a) (h' : HasTotal f b) : a = b := by
  obtain ⟨ks, hks, rfl⟩ := h
  exact h'.sum_eq hks

theorem add (hf : HasTotal f a) (hg : HasTotal g b) : HasTotal (fun k => f k + g k) (a + b) := by
  classical
  obtain ⟨ks, hks, hsum⟩ := id hf
  obtain ⟨ks', hks', hsum'⟩ := id hg
  have hf' : ∑ k ∈ ks ∪ ks', f k = a := hf.sum_eq fun k hk => Finset.mem_union_left _ (hks k hk)
  have hg' : ∑ k ∈ ks ∪ ks', g k = b := hg.sum_eq fun k hk => Finset.mem_union_right _ (hks' k hk)
  refine ⟨ks ∪ ks', fun k hk => ?_, ?_⟩
  · by_cases hzero : f k = 0
    · refine Finset.mem_union_right _ (hks' k fun hg0 => hk ?_)
      show f k + g k = 0
      rw [hzero, hg0]
    · exact Finset.mem_union_left _ (hks k hzero)
  · rw [Finset.sum_add_distrib, hf', hg']

end HasTotal

namespace PermitQueues

variable {κ : Type} [DecidableEq κ]

/-- A number that every queue has adds up over the keys. -/
theorem hasTotal_keys (q : PermitQueues κ) {f : List Permit → Nat} (hf : f [] = 0) :
    HasTotal (fun k => f (q.queue k)) (q.values.map f).sum := by
  have hentries : ∀ e ∈ q.entries, f (q.queue e.1) = f e.2 := by
    intro e he
    rw [queue_of_get? (Table.get?_eq_some_iff.mpr he)]
  have hkeys : q.keys.Nodup := q.nodup
  refine ⟨q.keys.toFinset, fun k hk => ?_, ?_⟩
  · rw [List.mem_toFinset]
    by_contra hmem
    refine hk ?_
    show f ((q.get? k).getD []) = 0
    rw [Table.get?_eq_none_iff.mpr hmem]
    exact hf
  · rw [List.sum_toFinset _ hkeys, Table.keys, Table.values, List.map_map, List.map_map]
    exact congrArg List.sum (List.map_congr_left hentries)

theorem hasTotal_lengths (q : PermitQueues κ) : HasTotal q.lengths q.count := by
  have hcount : q.count = (q.values.map List.length).sum := List.length_flatten
  rw [hcount]
  exact hasTotal_keys q rfl

theorem hasTotal_failing (q : PermitQueues κ) (keep : Permit → Bool) :
    HasTotal (q.failing keep) (q.retain keep).1.length := by
  have hlength : (q.retain keep).1.length =
      (q.values.map fun l => l.countP fun p => !keep p).sum := by
    show (q.values.flatten.filter fun p => !keep p).length = _
    rw [← List.countP_eq_length_filter, List.countP_flatten]
  rw [hlength]
  exact hasTotal_keys q rfl

end PermitQueues

/-! ## What the gate counts -/

/-- The counters of the gate: its queue lengths. -/
def RelayGate.counters (g : RelayGate) : RelayCounters where
  closed := g.closed
  pendingReservations := g.pendingReservations.lengths
  reservations := g.reservations.lengths
  pendingCircuits := g.pendingCircuits.lengths
  circuits := g.circuits.lengths

namespace Relay

variable {r : Relay}

/-- The counters of the gate of a relay. -/
abbrev counters (r : Relay) : RelayCounters := r.gate.counters

theorem counters_takePendingReservation (r : Relay) (peer : PeerId) :
    (r.takePendingReservation peer).2.counters =
      r.counters.setPendingReservations peer (r.counters.pendingReservations peer - 1) :=
  congrArg (fun f => { r.counters with pendingReservations := f })
    (PermitQueues.lengths_takeOldest _ peer)

theorem counters_takeReservation (r : Relay) (peer : PeerId) :
    (r.takeReservation peer).2.counters =
      r.counters.setReservations peer (r.counters.reservations peer - 1) :=
  congrArg (fun f => { r.counters with reservations := f })
    (PermitQueues.lengths_takeOldest _ peer)

theorem counters_takePendingCircuit (r : Relay) (source : PeerId) :
    (r.takePendingCircuit source).2.counters =
      r.counters.setPendingCircuits source (r.counters.pendingCircuits source - 1) :=
  congrArg (fun f => { r.counters with pendingCircuits := f })
    (PermitQueues.lengths_takeOldest _ source)

/-- A renewal gives up one held reservation before it adds its own, so that it never ends below
one. -/
theorem counters_holdReservation (r : Relay) (peer : PeerId) (permit : Permit) (renewed : Bool) :
    (r.holdReservation peer permit renewed).counters =
      r.counters.setReservations peer
        (if renewed then max (r.counters.reservations peer) 1
          else r.counters.reservations peer + 1) := by
  have hpush : ∀ n : Relay, (n.mapGate fun g =>
      { g with reservations := g.reservations.push peer permit }).counters =
        n.counters.setReservations peer (n.counters.reservations peer + 1) := fun n =>
    congrArg (fun f => { n.counters with reservations := f }) (PermitQueues.lengths_push _ peer _)
  cases renewed with
  | false => exact hpush r
  | true =>
    have htaken := counters_takeReservation r peer
    have hheld : (r.holdReservation peer permit true).counters =
        (r.takeReservation peer).2.counters.setReservations peer
          ((r.takeReservation peer).2.counters.reservations peer + 1) :=
      hpush ((r.takeReservation peer).2.releaseAll _)
    have hmax : r.counters.reservations peer - 1 + 1 = max (r.counters.reservations peer) 1 := by
      omega
    rw [hheld, htaken, RelayCounters.reservations_setReservations,
      RelayCounters.setReservations_setReservations, if_pos rfl, hmax]

/-! ## What the machine is told -/

/-- What the machine is told of an operation. -/
def observe (r : Relay) : Operation → RelayCounters.Event
  | .admitReservation peer source now =>
    if (r.admitReservation peer source now).1.isOk then .reservationAdmitted peer else .refused
  | .admitCircuit peer source now =>
    if (r.admitCircuit peer source now).1.isOk then .circuitAdmitted peer else .refused
  | .reservationAccepted peer renewed => .reservationAccepted peer renewed
  | .reservationFailed peer => .reservationFailed peer
  | .reservationDenied => .reservationDenied
  | .reservationEnded peer => .reservationEnded peer
  | .circuitAccepted source destination => .circuitAccepted source destination
  | .circuitDenied source status => .circuitDenied source status
  | .circuitFailed source => .circuitFailed source
  | .circuitClosed source destination => .circuitClosed source destination
  | .peerDisconnected peer => .peerDisconnected peer
  | .expirePending now =>
    .expired (r.gate.pendingReservations.failing (isFresh now))
      (r.gate.pendingCircuits.failing (isFresh now))
  | .stop => .stopped

/-- After the end the gate keeps no permits. -/
def Emptied (r : Relay) : Prop := r.gate.closed = true → r.counters = .stop

theorem counters_admitReservation (r : Relay) (peer : PeerId) (source : Address) (now : Instant) :
    (r.admitReservation peer source now).2.counters =
      r.counters.step (r.observe (.admitReservation peer source now)) := by
  rw [observe]
  rcases r.admitReservation_cases peer source now with
    ⟨permit, r', -, heq, -, h⟩ | ⟨e, r', heq, -, h⟩
  · have hgate : r'.counters = r.counters := congrArg RelayGate.counters h.gate
    rw [heq, ← hgate]
    exact congrArg (fun f => { r'.counters with pendingReservations := f })
      (PermitQueues.lengths_push _ peer permit)
  · have hgate : r'.counters = r.counters := congrArg RelayGate.counters h.gate
    rw [heq, ← hgate]
    rfl

theorem counters_admitCircuit (r : Relay) (peer : PeerId) (source : Address) (now : Instant) :
    (r.admitCircuit peer source now).2.counters =
      r.counters.step (r.observe (.admitCircuit peer source now)) := by
  rw [observe]
  rcases r.admitCircuit_cases peer source now with
    ⟨permit, r', -, heq, -, h⟩ | ⟨e, r', heq, -, h⟩
  · have hgate : r'.counters = r.counters := congrArg RelayGate.counters h.gate
    rw [heq, ← hgate]
    exact congrArg (fun f => { r'.counters with pendingCircuits := f })
      (PermitQueues.lengths_push _ peer permit)
  · have hgate : r'.counters = r.counters := congrArg RelayGate.counters h.gate
    rw [heq, ← hgate]
    rfl

theorem counters_reservationAccepted (h : r.Emptied) (peer : PeerId) (renewed : Bool) :
    (r.reservationAccepted peer renewed).counters =
      r.counters.step (.reservationAccepted peer renewed) := by
  have htaken := counters_takePendingReservation r peer
  have hnone : (r.takePendingReservation peer).1 = none ↔
      r.counters.pendingReservations peer = 0 := PermitQueues.fst_takeOldest_eq_none_iff
  rw [RelayCounters.step]
  rcases r.reservationAccepted_cases peer renewed with
    ⟨hclosed, heq⟩ | ⟨-, held, outcome, heq, hheld⟩
  · -- nothing was pending, so the permit that is dropped is none
    have hzero : r.counters.pendingReservations peer = 0 := by
      rw [h hclosed]
      rfl
    rw [heq, if_pos hzero]
    exact htaken.trans (r.counters.setPendingReservations_pred hzero)
  · rw [heq]
    rcases hheld with ⟨hempty, rfl⟩ | ⟨p, hsome, rfl⟩
    · have hzero := hnone.mp hempty
      rw [if_pos hzero]
      exact htaken.trans (r.counters.setPendingReservations_pred hzero)
    · have hpos : r.counters.pendingReservations peer ≠ 0 := fun hzero =>
        nomatch (hnone.mpr hzero).symm.trans hsome
      rw [if_neg hpos]
      have hheld := counters_holdReservation (r.takePendingReservation peer).2 peer p renewed
      rw [htaken] at hheld
      exact hheld

theorem counters_reservationFailed (r : Relay) (peer : PeerId) :
    (r.reservationFailed peer).counters = r.counters.step (.reservationFailed peer) := by
  have htaken := counters_takePendingReservation r peer
  rcases r.reservationFailed_cases peer with ⟨-, heq⟩ | ⟨p, -, heq⟩
  · rw [heq]
    exact htaken
  · rw [heq]
    exact htaken

theorem counters_reservationEnded (r : Relay) (peer : PeerId) :
    (r.reservationEnded peer).counters = r.counters.step (.reservationEnded peer) := by
  have htaken := counters_takeReservation r peer
  obtain ⟨counted, hcounted, hended⟩ := r.reservationEnded_cases peer
  have hcounters : counted.counters = (r.takeReservation peer).2.counters := by
    rcases hcounted with rfl | rfl
    · rfl
    · rfl
  rcases hended with ⟨-, heq⟩ | ⟨-, heq⟩
  · rw [heq]
    exact hcounters.trans htaken
  · rw [heq]
    exact hcounters.trans htaken

theorem counters_circuitAccepted (r : Relay) (source destination : PeerId) :
    (r.circuitAccepted source destination).counters =
      r.counters.step (.circuitAccepted source destination) := by
  have htaken := counters_takePendingCircuit r source
  have hnone : (r.takePendingCircuit source).1 = none ↔
      r.counters.pendingCircuits source = 0 := PermitQueues.fst_takeOldest_eq_none_iff
  obtain ⟨held, heq, hheld⟩ := r.circuitAccepted_cases source destination
  rw [RelayCounters.step, heq]
  rcases hheld with ⟨hempty, rfl⟩ | ⟨p, hsome, rfl⟩
  · have hzero := hnone.mp hempty
    rw [if_pos hzero]
    exact htaken.trans (r.counters.setPendingCircuits_pred hzero)
  · have hpos : r.counters.pendingCircuits source ≠ 0 := fun hzero =>
      nomatch (hnone.mpr hzero).symm.trans hsome
    have hpushed : ((r.takePendingCircuit source).2.mapGate fun g =>
        { g with circuits := g.circuits.push (source, destination) p }).counters =
          (r.takePendingCircuit source).2.counters.setCircuits (source, destination)
            ((r.takePendingCircuit source).2.counters.circuits (source, destination) + 1) :=
      congrArg (fun f => { (r.takePendingCircuit source).2.counters with circuits := f })
        (PermitQueues.lengths_push _ (source, destination) p)
    rw [htaken] at hpushed
    rw [if_neg hpos]
    exact hpushed

theorem counters_circuitFailed (r : Relay) (source : PeerId) :
    (r.circuitFailed source).counters = r.counters.step (.circuitFailed source) :=
  counters_takePendingCircuit r source

theorem counters_circuitDenied (r : Relay) (source : PeerId) (status : Status) :
    (r.circuitDenied source status).counters =
      r.counters.step (.circuitDenied source status) := by
  unfold Relay.circuitDenied
  rw [RelayCounters.step]
  show (ite _ _ _ : Relay).counters = _
  split
  · rfl
  · exact counters_circuitFailed (r.recordCircuit .denied) source

theorem counters_circuitClosed (r : Relay) (source destination : PeerId) :
    (r.circuitClosed source destination).counters =
      r.counters.step (.circuitClosed source destination) :=
  congrArg (fun f => { r.counters with circuits := f })
    (PermitQueues.lengths_takeNewest _ (source, destination))

theorem counters_peerDisconnected (r : Relay) (peer : PeerId) :
    (r.peerDisconnected peer).counters = r.counters.step (.peerDisconnected peer) := by
  have hemptied : (r.mapGate fun g =>
      { g with
        pendingReservations := g.pendingReservations.erase peer
        pendingCircuits := g.pendingCircuits.erase peer
        reservations := g.reservations.erase peer }).counters =
      r.counters.step (.peerDisconnected peer) := by
    show RelayCounters.mk r.gate.closed
      (PermitQueues.lengths (r.gate.pendingReservations.erase peer))
      (PermitQueues.lengths (r.gate.reservations.erase peer))
      (PermitQueues.lengths (r.gate.pendingCircuits.erase peer)) r.gate.circuits.lengths = _
    rw [PermitQueues.lengths_erase, PermitQueues.lengths_erase, PermitQueues.lengths_erase]
    rfl
  unfold Relay.peerDisconnected
  show (ite _ _ _ : Relay).counters = _
  split
  · exact hemptied
  · exact hemptied

theorem counters_expirePending (r : Relay) (now : Instant) :
    (r.expirePending now).2.counters = r.counters.step (r.observe (.expirePending now)) := by
  show RelayCounters.mk r.gate.closed
    (r.gate.pendingReservations.retain (isFresh now)).2.lengths r.gate.reservations.lengths
    (r.gate.pendingCircuits.retain (isFresh now)).2.lengths r.gate.circuits.lengths = _
  rw [funext (PermitQueues.lengths_retain _ _), funext (PermitQueues.lengths_retain _ _)]
  rfl

theorem counters_stop (h : r.Emptied) : r.stop.counters = .stop := by
  unfold Relay.stop
  split
  · rename_i hclosed
    exact h hclosed
  · rfl

/-- An operation of the gate is a step of the machine. -/
theorem counters_perform (h : r.Emptied) (operation : Operation) :
    (r.perform operation).counters = r.counters.step (r.observe operation) := by
  cases operation with
  | admitReservation peer source now => exact counters_admitReservation r peer source now
  | admitCircuit peer source now => exact counters_admitCircuit r peer source now
  | reservationAccepted peer renewed => exact counters_reservationAccepted h peer renewed
  | reservationFailed peer => exact counters_reservationFailed r peer
  | reservationDenied => rfl
  | reservationEnded peer => exact counters_reservationEnded r peer
  | circuitAccepted source destination => exact counters_circuitAccepted r source destination
  | circuitDenied source status => exact counters_circuitDenied r source status
  | circuitFailed source => exact counters_circuitFailed r source
  | circuitClosed source destination => exact counters_circuitClosed r source destination
  | peerDisconnected peer => exact counters_peerDisconnected r peer
  | expirePending now => exact counters_expirePending r now
  | stop => exact counters_stop h

/-! ## After the end -/

/-- After the end nothing is admitted. -/
theorem admitReservation_of_closed (hclosed : r.gate.closed = true) (peer : PeerId)
    (source : Address) (now : Instant) :
    (r.admitReservation peer source now).1 = .error .closed := by
  rcases r.admitReservation_cases peer source now with
    ⟨permit, r', -, -, hpasses, -⟩ | ⟨e, r', heq, he, -⟩
  · exact Bool.noConfusion (hclosed.symm.trans hpasses.isOpen)
  · rw [heq, he hclosed]

theorem admitCircuit_of_closed (hclosed : r.gate.closed = true) (peer : PeerId)
    (source : Address) (now : Instant) :
    (r.admitCircuit peer source now).1 = .error .closed := by
  rcases r.admitCircuit_cases peer source now with
    ⟨permit, r', -, -, hpasses, -⟩ | ⟨e, r', heq, he, -⟩
  · exact Bool.noConfusion (hclosed.symm.trans hpasses.isOpen)
  · rw [heq, he hclosed]

theorem admits_observe_of_closed (hclosed : r.gate.closed = true) (operation : Operation) :
    (r.observe operation).admits = false := by
  cases operation with
  | admitReservation peer source now =>
    rw [observe, admitReservation_of_closed hclosed]
    rfl
  | admitCircuit peer source now =>
    rw [observe, admitCircuit_of_closed hclosed]
    rfl
  | _ => rfl

/-- The end stays the end. -/
theorem counters_perform_of_closed (h : r.Emptied) (hclosed : r.gate.closed = true)
    (operation : Operation) : (r.perform operation).counters = .stop := by
  rw [counters_perform h, h hclosed]
  exact RelayCounters.step_stop (admits_observe_of_closed hclosed operation)

theorem emptied_perform (h : r.Emptied) (operation : Operation) :
    (r.perform operation).Emptied := by
  intro hclosed
  have hstep := counters_perform h operation
  have hafter : (r.counters.step (r.observe operation)).closed = true := by
    rw [← hstep]
    exact hclosed
  rcases RelayCounters.closed_step hafter with hbefore | hstop
  · exact counters_perform_of_closed h hbefore operation
  · exact hstep.trans hstop

end Relay

/-! ## Runs -/

namespace SharedRelay

variable {ν : Type} [DecidableEq ν] {s : SharedRelay ν}

/-- What the machine is told of a step; of the steps of others, nothing. -/
def observe (s : SharedRelay ν) : Step ν → List RelayCounters.Event
  | .gate operation => [s.relay.observe operation]
  | _ => []

/-- What the machine is told of a run. -/
def observed (s : SharedRelay ν) : List (Step ν) → List RelayCounters.Event
  | [] => []
  | step :: rest => s.observe step ++ (s.perform step).observed rest

theorem emptied_step (h : s.relay.Emptied) (step : Step ν) : (s.perform step).relay.Emptied := by
  cases step with
  | gate operation => exact Relay.emptied_perform h operation
  | connections step => exact h
  | others step => exact h

theorem emptied_run (h : s.relay.Emptied) (steps : List (Step ν)) :
    (s.run steps).relay.Emptied := by
  induction steps generalizing s with
  | nil => exact h
  | cons step rest ih => exact ih (emptied_step h step)

theorem counters_step (h : s.relay.Emptied) (step : Step ν) :
    (s.perform step).relay.counters = s.relay.counters.run (s.observe step) := by
  cases step with
  | gate operation => exact Relay.counters_perform h operation
  | connections step => rfl
  | others step => rfl

/-- A run of the gate is a run of the machine. -/
theorem counters_run (h : s.relay.Emptied) (steps : List (Step ν)) :
    (s.run steps).relay.counters = s.relay.counters.run (s.observed steps) := by
  induction steps generalizing s with
  | nil => rfl
  | cons step rest ih =>
    rw [observed, RelayCounters.run, List.foldl_append]
    have hstep := counters_step h step
    rw [RelayCounters.run] at hstep
    rw [← hstep]
    exact ih (emptied_step h step)

theorem closed_run (h : s.relay.Emptied) (hclosed : s.relay.gate.closed = true)
    (steps : List (Step ν)) : (s.run steps).relay.gate.closed = true := by
  induction steps generalizing s with
  | nil => exact hclosed
  | cons step rest ih =>
    refine ih (emptied_step h step) ?_
    cases step with
    | gate operation =>
      have hstop := Relay.counters_perform_of_closed h hclosed operation
      exact congrArg RelayCounters.closed hstop
    | connections step => exact hclosed
    | others step => exact hclosed

/-- After a run that stopped the relay, it is closed. -/
theorem closed_of_mem (h : s.relay.Emptied) {steps : List (Step ν)}
    (hmem : .gate .stop ∈ steps) : (s.run steps).relay.gate.closed = true := by
  induction steps generalizing s with
  | nil => exact absurd hmem List.not_mem_nil
  | cons step rest ih =>
    rcases List.mem_cons.mp hmem with hstop | hrest
    · refine closed_run (emptied_step h step) ?_ rest
      rw [← hstop]
      exact congrArg RelayCounters.closed (Relay.counters_stop h)
    · exact ih (emptied_step h step) hrest

/-- The gate is the machine of counters: along every run, its queue lengths are what the machine
makes of what it is told, a report of the relay protocol moves them as its operation does, and the
numbers that the gate answers are totals of the counters.  After the relay was stopped everything
is zero and every request is refused. -/
theorem run_counters (list : AccessList) (settings : RelaySettings)
    (connections : ConnectionManager) (ceilings : Ceilings) (steps : List (Step ν)) :
    let before : SharedRelay ν := start list settings connections ceilings
    let r := (before.run steps).relay
    let c := RelayCounters.start.run (before.observed steps)
    r.counters = c ∧
    (∀ report, (r.handle report).counters =
      (report.operation?.map fun operation => c.step (r.observe operation)).getD c) ∧
    HasTotal c.reservations r.gate.reservationCount ∧
    HasTotal c.circuits r.gate.circuitCount ∧
    (∀ now, ∃ reservations circuits,
      r.observe (.expirePending now) = .expired reservations circuits ∧
      (∀ peer, reservations peer ≤ c.pendingReservations peer ∧
        circuits peer ≤ c.pendingCircuits peer) ∧
      HasTotal (fun peer => reservations peer + circuits peer) (r.expirePending now).1) ∧
    (.gate .stop ∈ steps → c = .stop ∧ ∀ peer source now,
      (r.admitReservation peer source now).1 = .error .closed ∧
        (r.admitCircuit peer source now).1 = .error .closed) := by
  intro before r c
  have hstart : before.relay.Emptied := fun hclosed => Bool.noConfusion hclosed
  have hcounters : r.counters = c := counters_run hstart steps
  have hemptied : r.Emptied := emptied_run hstart steps
  refine ⟨hcounters, fun report => ?_, ?_, ?_, fun now => ?_, fun hmem => ⟨?_, ?_⟩⟩
  · rw [Relay.handle_eq, ← hcounters]
    cases report.operation? with
    | none => rfl
    | some operation => exact Relay.counters_perform hemptied operation
  · rw [← hcounters]
    exact PermitQueues.hasTotal_lengths r.gate.reservations
  · rw [← hcounters]
    exact PermitQueues.hasTotal_lengths r.gate.circuits
  · refine ⟨_, _, rfl, fun peer => ?_, ?_⟩
    · rw [← hcounters]
      exact ⟨List.countP_le_length, List.countP_le_length⟩
    · have hlength : (r.expirePending now).1 =
          (r.gate.pendingReservations.retain (Relay.isFresh now)).1.length +
            (r.gate.pendingCircuits.retain (Relay.isFresh now)).1.length := List.length_append
      rw [hlength]
      exact (PermitQueues.hasTotal_failing _ _).add (PermitQueues.hasTotal_failing _ _)
  · rw [← hcounters]
    exact hemptied (closed_of_mem hstart hmem)
  · intro peer source now
    have hclosed := closed_of_mem hstart hmem
    exact ⟨Relay.admitReservation_of_closed hclosed peer source now,
      Relay.admitCircuit_of_closed hclosed peer source now⟩

end SharedRelay

end CircuitRelay
