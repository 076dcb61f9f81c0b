import CircuitRelay.Proofs.Connection.Closing
import CircuitRelay.Proofs.Relay.Counters
import CircuitRelay.Proofs.Relay.Permits
import CircuitRelay.Proofs.Resource.Admission

/-!
# What closed managers still do

Closing a manager sets a flag.  What was charged before stays charged and can still be moved and
given back, and a connection that was selected can still be closed; only new charges and new
selections are refused.  A relay over a closed resource manager is refused every charge, also when
nobody has stopped the relay itself.

* `openConnection_of_closed`, `reserveStream_of_closed`: what is refused.
* `Dwindles`, `dwindles_run`: the guards that are held take less and less of the system.
* `admitsNothing_of_resources`, `HoldsNothing`: the relay admits nothing, and holds no permits.
* `SameFlags`, `sameFlags_perform`: the relay neither closes nor opens the managers it works on.
* `Rests`, `Rests.perform`: nothing is selected for closing any more.
-/

namespace CircuitRelay

/-! ## The resource manager -/

namespace ResourceManager

variable {m : ResourceManager}

theorem openConnection_of_closed (h : m.closed = true) (direction : Direction) (usesFd : Bool) :
    m.openConnection direction usesFd = (.error .closed, m) :=
  if_pos h

theorem reserveStream_of_closed (h : m.closed = true) (peer : PeerId) (protocol : String)
    (direction : Direction) (memory : Nat) :
    m.reserveStream peer protocol direction memory = (.error .closed, m.named peer protocol) := by
  rcases m.reserveStream_cases peer protocol direction memory with
    ⟨-, heq⟩ | ⟨hopen, -⟩ | ⟨hopen, -⟩
  · exact heq
  · exact Bool.noConfusion (h.symm.trans hopen)
  · exact Bool.noConfusion (h.symm.trans hopen)

end ResourceManager

/-- The system counts every guard. -/
theorem Guard.total_system_cons (g : Guard) (gs : List Guard) (r : Resource) :
    total (g :: gs) .system r = g.amount.get r + total gs .system r := by
  have hsystem : ScopeName.system ∈ g.scopes := belongsTo_iff.mp (by cases g <;> rfl)
  rw [total_cons, takes_of_mem hsystem]

namespace Holdings

variable {ν : Type} [DecidableEq ν] {h h' : Holdings ν}

/-- The manager is closed, and its guards take no more of the system than before. -/
structure Dwindles (h h' : Holdings ν) : Prop where
  closed : h'.manager.closed = true
  total_le : ∀ r, Guard.total h'.guards.values .system r ≤ Guard.total h.guards.values .system r

/-- Nothing new is charged; a connection that gets its peer takes of the system what it took. -/
theorem dwindles_perform (hclosed : h.manager.closed = true) (step : Step ν) :
    h.Dwindles (h.perform step) := by
  cases step with
  | openConnection name direction usesFd =>
    show h.Dwindles (h.openConnection name direction usesFd).2
    rw [openConnection, ResourceManager.openConnection_of_closed hclosed]
    exact ⟨hclosed, fun _ => Nat.le_refl _⟩
  | assignPeer name peer =>
    show h.Dwindles (h.assignPeer name peer).2
    unfold assignPeer connection?
    cases hname : h.guards.get? name with
    | none => exact ⟨hclosed, fun _ => Nat.le_refl _⟩
    | some g =>
      cases g with
      | stream g => exact ⟨hclosed, fun _ => Nat.le_refl _⟩
      | connection c =>
        have hreplaced : ∀ c' : ConnectionGuard, c'.amount = c.amount → ∀ r,
            Guard.total (h.guards.insert name (.connection c')).values .system r =
              Guard.total h.guards.values .system r := by
          intro c' hamount r
          rw [Guard.total_perm (Table.values_insert_perm h.guards name _),
            Guard.total_perm (Table.values_perm_of_get? hname), Guard.total_system_cons,
            Guard.total_system_cons]
          exact congrArg (·.get r + _) hamount
        rcases h.manager.assignPeer_cases c peer with
          ⟨-, heq⟩ | ⟨-, m', heq, hmoved⟩ | ⟨-, m', r, heq, -, hsame, -⟩
        · simp only [heq]
          exact ⟨hclosed, fun r => (hreplaced c rfl r).le⟩
        · simp only [heq]
          exact ⟨hmoved.closed.trans hclosed,
            fun r => (hreplaced { c with peer := some peer } rfl r).le⟩
        · simp only [heq]
          exact ⟨hsame.closed.trans hclosed, fun _ => Nat.le_refl _⟩
  | reserveStream name peer protocol direction memory =>
    show h.Dwindles (h.reserveStream name peer protocol direction memory).2
    rw [reserveStream, ResourceManager.reserveStream_of_closed hclosed]
    exact ⟨(ResourceManager.sameUsage_named ..).closed.trans hclosed, fun _ => Nat.le_refl _⟩
  | drop name =>
    show h.Dwindles (h.drop name).2
    unfold drop
    cases hname : h.guards.get? name with
    | none => exact ⟨hclosed, fun _ => Nat.le_refl _⟩
    | some g =>
      refine ⟨(ResourceManager.closed_dischargeAll ..).trans hclosed, fun r => ?_⟩
      rw [Guard.total_perm (Table.values_perm_of_get? hname), Guard.total_system_cons]
      exact Nat.le_add_left _ _
  | collect => exact ⟨hclosed, fun _ => Nat.le_refl _⟩
  | close => exact ⟨rfl, fun _ => Nat.le_refl _⟩

theorem dwindles_run (hclosed : h.manager.closed = true) (steps : List (Step ν)) :
    h.Dwindles (h.run steps) := by
  induction steps generalizing h with
  | nil => exact ⟨hclosed, fun _ => Nat.le_refl _⟩
  | cons step steps ih =>
    have hstep := dwindles_perform hclosed step
    have hrest := ih hstep.closed
    exact ⟨hrest.closed, fun r => Nat.le_trans (hrest.total_le r) (hstep.total_le r)⟩

end Holdings

/-! ## The relay -/

namespace RelayGate

variable {g : RelayGate} {R C : PeerId → Permit → Prop}

/-- The gate has no permits, and no empty queues. -/
abbrev HoldsNothing (g : RelayGate) : Prop := g.Holds (fun _ _ => False) fun _ _ => False

theorem permits_eq_nil (h : g.HoldsNothing) : g.permits = [] := by
  have hqueue : ∀ {κ : Type} [DecidableEq κ] {q : PermitQueues κ},
      q.Holds (fun _ _ => False) → q.permits = [] := by
    intro κ _ q hq
    have hnone : ∀ k, q.get? k = none := by
      intro k
      cases hk : q.get? k with
      | none => rfl
      | some l =>
        cases l with
        | nil => exact absurd hk (hq.tidy k)
        | cons p l =>
          refine (hq.all k p ?_).elim
          rw [PermitQueues.queue_of_get? hk]
          exact List.mem_cons_self
    rw [Table.eq_empty_of_get? hnone]
    rfl
  rw [permits, hqueue h.pendingReservations, hqueue h.reservations, hqueue h.pendingCircuits,
    hqueue h.circuits]
  rfl

/-- A gate whose counters are those of the end has nothing in its tables. -/
theorem holdsNothing_of_counters (h : g.Holds R C) (hcounters : g.counters = .stop) :
    g.HoldsNothing := by
  have hqueue : ∀ {κ : Type} [DecidableEq κ] {q : PermitQueues κ} {P : κ → Permit → Prop},
      q.Holds P → q.lengths = (fun _ => 0) → q.Holds fun _ _ => False := by
    intro κ _ q P hq hzero
    refine ⟨hq.tidy, fun k p hp => ?_⟩
    rw [List.eq_nil_of_length_eq_zero (congrFun hzero k)] at hp
    exact List.not_mem_nil hp
  exact ⟨hqueue h.pendingReservations (congrArg RelayCounters.pendingReservations hcounters),
    hqueue h.reservations (congrArg RelayCounters.reservations hcounters),
    hqueue h.pendingCircuits (congrArg RelayCounters.pendingCircuits hcounters),
    hqueue h.circuits (congrArg RelayCounters.circuits hcounters)⟩

end RelayGate

namespace Relay

variable {r r' : Relay}

/-- A relay admits nothing: no check of a request gives a permit. -/
abbrev AdmitsNothing (r : Relay) : Prop := r.Admits (fun _ _ => False) fun _ _ => False

/-- Over a closed resource manager a relay admits nothing, even while its gate is open. -/
theorem admitsNothing_of_resources (h : r.resources.closed = true) : r.AdmitsNothing := by
  have hcharge : ∀ {n : Relay} {peer memory ip now permit r'},
      n.chargeRequest peer memory ip now = (.ok permit, r') → n.resources.closed ≠ true := by
    intro n peer memory ip now permit r' heq hclosed
    rw [chargeRequest, ResourceManager.reserveStream_of_closed hclosed] at heq
    cases heq
  refine ⟨?_, ?_⟩
  · intro peer source now permit r' hcheck
    obtain ⟨access, -, heq⟩ := consult_eq r peer (.reserve source)
    unfold checkReservation at hcheck
    rw [heq] at hcheck
    split at hcheck
    · cases hcheck
    · split at hcheck
      · cases hcheck
      · rename_i hconsult
        obtain ⟨-, rfl⟩ := Prod.mk.inj hconsult
        split at hcheck
        · exact hcharge hcheck h
        · split at hcheck
          · cases hcheck
          · exact hcharge hcheck h
  · intro peer source now permit r' hcheck
    obtain ⟨access, -, heq⟩ := consult_eq r peer (.connect source none)
    unfold checkCircuit at hcheck
    rw [heq] at hcheck
    split at hcheck
    · cases hcheck
    · split at hcheck
      · cases hcheck
      · rename_i hconsult
        obtain ⟨-, rfl⟩ := Prod.mk.inj hconsult
        exact hcharge hcheck h

theorem admitReservation_of_admitsNothing (h : r.AdmitsNothing) (peer : PeerId) (source : Address)
    (now : Instant) : (r.admitReservation peer source now).1.isOk = false := by
  rcases r.admitReservation_cases peer source now with ⟨permit, r', hcheck, -⟩ | ⟨e, r', heq, -⟩
  · exact (h.reservation hcheck).elim
  · rw [heq]
    rfl

theorem admitCircuit_of_admitsNothing (h : r.AdmitsNothing) (peer : PeerId) (source : Address)
    (now : Instant) : (r.admitCircuit peer source now).1.isOk = false := by
  rcases r.admitCircuit_cases peer source now with ⟨permit, r', hcheck, -⟩ | ⟨e, r', heq, -⟩
  · exact (h.circuit hcheck).elim
  · rw [heq]
    rfl

/-- Neither manager was closed or opened, and nothing was selected for closing. -/
def SameFlags (r r' : Relay) : Prop :=
  r'.resources.closed = r.resources.closed ∧ r'.connections.closed = r.connections.closed ∧
    r'.connections.pruned = r.connections.pruned

theorem SameFlags.refl (r : Relay) : SameFlags r r := ⟨rfl, rfl, rfl⟩

theorem SameFlags.releaseAll (h : SameFlags r r') (permits : List Permit) :
    SameFlags r (r'.releaseAll permits) := by
  refine ⟨.trans ?_ h.1, h.2⟩
  show (permits.foldl (fun m p => m.releaseStream p.guard) r'.resources).closed = _
  generalize r'.resources = m
  induction permits generalizing m with
  | nil => rfl
  | cons p permits ih => exact (ih _).trans (ResourceManager.closed_dischargeAll ..)

theorem sameFlags_foldl_unprotect (r : Relay) (peers : List PeerId) :
    SameFlags r (peers.foldl unprotect r) := by
  induction peers generalizing r with
  | nil => exact .refl r
  | cons peer peers ih => exact ih (r.unprotect peer)

theorem Unchanged.sameFlags (h : Unchanged r r') : SameFlags r r' :=
  ⟨h.usage.closed, by rw [h.connections], by rw [h.connections]⟩

theorem Admitted.sameFlags {peer : PeerId} {memory : Nat} {permit : Permit}
    (h : Admitted r r' peer memory permit) : SameFlags r r' :=
  ⟨h.charged.closed, by rw [h.connections], by rw [h.connections]⟩

theorem sameFlags_reservationAccepted (r : Relay) (peer : PeerId) (renewed : Bool) :
    SameFlags r (r.reservationAccepted peer renewed) := by
  have htaken : SameFlags r (r.takePendingReservation peer).2 := .refl r
  rcases r.reservationAccepted_cases peer renewed with ⟨-, heq⟩ | ⟨-, held, outcome, heq, hheld⟩
  · rw [heq]
    exact htaken.releaseAll _
  · have hflags : SameFlags r held := by
      rcases hheld with ⟨-, rfl⟩ | ⟨p, -, rfl⟩
      · exact htaken
      · cases renewed with
        | false => exact htaken
        | true => exact htaken.releaseAll _
    rw [heq]
    exact hflags

theorem sameFlags_reservationEnded (r : Relay) (peer : PeerId) :
    SameFlags r (r.reservationEnded peer) := by
  have hreleased := (SameFlags.refl r).releaseAll (r.takeReservation peer).1.toList
  obtain ⟨counted, hcounted, hended⟩ := r.reservationEnded_cases peer
  have hflags : SameFlags r counted := by
    rcases hcounted with rfl | rfl
    · exact hreleased
    · exact hreleased
  rcases hended with ⟨-, heq⟩ | ⟨-, heq⟩
  · rw [heq]
    exact hflags
  · rw [heq]
    exact hflags

/-- The relay works on its managers, but does not close them and makes no passes. -/
theorem sameFlags_perform (r : Relay) (operation : Operation) :
    SameFlags r (r.perform operation) := by
  cases operation with
  | admitReservation peer source now =>
    show SameFlags r (r.admitReservation peer source now).2
    rcases r.admitReservation_cases peer source now with
      ⟨permit, r', -, heq, -, h⟩ | ⟨e, r', heq, -, h⟩
    · rw [heq]
      exact h.sameFlags
    · rw [heq]
      exact h.sameFlags
  | admitCircuit peer source now =>
    show SameFlags r (r.admitCircuit peer source now).2
    rcases r.admitCircuit_cases peer source now with
      ⟨permit, r', -, heq, -, h⟩ | ⟨e, r', heq, -, h⟩
    · rw [heq]
      exact h.sameFlags
    · rw [heq]
      exact h.sameFlags
  | reservationAccepted peer renewed => exact sameFlags_reservationAccepted r peer renewed
  | reservationFailed peer =>
    show SameFlags r (r.reservationFailed peer)
    rcases r.reservationFailed_cases peer with ⟨-, heq⟩ | ⟨p, -, heq⟩
    · rw [heq]
      exact .refl r
    · rw [heq]
      exact (SameFlags.refl r).releaseAll [p]
  | reservationEnded peer => exact sameFlags_reservationEnded r peer
  | circuitAccepted source destination =>
    show SameFlags r (r.circuitAccepted source destination)
    obtain ⟨held, heq, hheld⟩ := r.circuitAccepted_cases source destination
    rw [heq]
    rcases hheld with ⟨-, rfl⟩ | ⟨p, -, rfl⟩
    · exact .refl r
    · exact .refl r
  | circuitDenied source status =>
    show SameFlags r (ite _ _ _)
    split
    · exact .refl r
    · exact (SameFlags.refl r).releaseAll _
  | circuitFailed source => exact (SameFlags.refl r).releaseAll _
  | circuitClosed source destination => exact (SameFlags.refl r).releaseAll _
  | peerDisconnected peer =>
    show SameFlags r (ite _ _ _)
    split
    · exact (SameFlags.refl r).releaseAll _
    · exact (SameFlags.refl r).releaseAll _
  | expirePending now => exact (SameFlags.refl r).releaseAll _
  | stop =>
    show SameFlags r r.stop
    unfold Relay.stop
    split
    · exact .refl r
    · exact (sameFlags_foldl_unprotect r _).releaseAll _
  | reservationDenied => exact .refl r

end Relay

/-! ## The connection manager -/

theorem ConnectionManager.trim_of_closed {m : ConnectionManager} (h : m.closed = true)
    (now : Instant) : m.trim now = ([], m) :=
  if_pos (.inl (by rw [needsTrim, h]; rfl))

namespace ClosingQueue

variable {q q' : ClosingQueue}

/-- The passes have ended: nothing was selected for closing since `q`, and what was queued then only
becomes less. -/
structure Rests (q q' : ClosingQueue) : Prop where
  closed : q'.manager.closed = true
  pruned : q'.manager.pruned = q.manager.pruned
  queue : q'.queue.Sublist q.queue

theorem Rests.refl (h : q.manager.closed = true) : q.Rests q := ⟨h, rfl, .refl _⟩

theorem Rests.noted (h : q.Rests q') (step : Step) : q.Rests (q'.noted step) := by
  cases step with
  | established id peer direction now passAt =>
    show q.Rests { q' with manager := q'.manager.connect id peer direction now }
    unfold ConnectionManager.connect
    split
    · exact ⟨h.closed, h.pruned, h.queue⟩
    · exact ⟨h.closed, h.pruned, h.queue⟩
  | closed id =>
    show q.Rests ⟨q'.manager.disconnect id, _⟩
    have hqueue : (q'.queue.filter fun e => e.2 ≠ id).Sublist q.queue :=
      List.filter_sublist.trans h.queue
    unfold ConnectionManager.disconnect
    split
    · exact ⟨h.closed, h.pruned, hqueue⟩
    · rename_i record _
      cases record.closing with
      | true => exact ⟨h.closed, h.pruned, hqueue⟩
      | false => exact ⟨h.closed, h.pruned, hqueue⟩
  | poll =>
    show q.Rests q'.poll.2
    unfold poll
    split
    · exact h
    · rename_i e rest hcons
      refine ⟨h.closed, h.pruned, .trans ?_ h.queue⟩
      rw [hcons]
      exact List.sublist_cons_self e rest
  | close => exact ⟨rfl, h.pruned, h.queue⟩
  | trim | protect | unprotect | tag | untag => exact ⟨h.closed, h.pruned, h.queue⟩

/-- Connections still come and go, but no pass selects any. -/
theorem Rests.perform (h : q.Rests q') (step : Step) : q.Rests (q'.perform step) := by
  have hnoted := h.noted step
  cases hpass : step.passAt? with
  | none =>
    rw [perform_of_no_pass hpass]
    exact hnoted
  | some now =>
    rw [perform_of_pass hpass, trim, ConnectionManager.trim_of_closed hnoted.closed]
    refine ⟨hnoted.closed, hnoted.pruned, ?_⟩
    show ((q'.noted step).queue ++ []).Sublist q.queue
    rw [List.append_nil]
    exact hnoted.queue

end ClosingQueue

end CircuitRelay
