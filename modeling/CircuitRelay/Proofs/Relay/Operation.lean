import CircuitRelay.Proofs.Connection.Counts
import CircuitRelay.Proofs.Relay.Queues
import CircuitRelay.Proofs.Resource.Accounting
import CircuitRelay.Relay.Event

/-!
# Runs of the relay

The gate is asked for admission, is told the outcome of requests, forgets peers, lets permits expire
and stops.  `Operation` lists these, and `perform` is the relay after one of them; outcomes may come
late, twice or unasked.

The relay shares its managers.  A `SharedRelay` is a relay together with the guards that others keep
of the same resource manager, and a step of it is an operation of the gate, a step of the connection
manager, or a step of the holder of the other guards.

* `handle_eq`: a report of the relay protocol is one operation, or none.
* `checkReservation_cases`, `checkCircuit_cases`: a check either charges its permit or charges
  nothing, and leaves the gate alone in both cases.
* `admitReservation_cases`, `admitCircuit_cases`: an admission is a check whose permit is queued.
* `reservationAccepted_cases`, `reservationFailed_cases`, `reservationEnded_cases`,
  `circuitAccepted_cases`: an outcome takes the oldest permit, and what it does with it.
-/

namespace CircuitRelay

namespace Relay

variable {r : Relay}

/-! ## Operations -/

/-- Whatever the gate is asked or told. -/
inductive Operation where
  | admitReservation (peer : PeerId) (source : Address) (now : Instant)
  | admitCircuit (peer : PeerId) (source : Address) (now : Instant)
  | reservationAccepted (peer : PeerId) (renewed : Bool)
  | reservationFailed (peer : PeerId)
  | reservationDenied
  | reservationEnded (peer : PeerId)
  | circuitAccepted (source destination : PeerId)
  | circuitDenied (source : PeerId) (status : Status)
  | circuitFailed (source : PeerId)
  | circuitClosed (source destination : PeerId)
  | peerDisconnected (peer : PeerId)
  | expirePending (now : Instant)
  | stop

/-- The relay after an operation. -/
def perform (r : Relay) : Operation → Relay
  | .admitReservation peer source now => (r.admitReservation peer source now).2
  | .admitCircuit peer source now => (r.admitCircuit peer source now).2
  | .reservationAccepted peer renewed => r.reservationAccepted peer renewed
  | .reservationFailed peer => r.reservationFailed peer
  | .reservationDenied => r.reservationDenied
  | .reservationEnded peer => r.reservationEnded peer
  | .circuitAccepted source destination => r.circuitAccepted source destination
  | .circuitDenied source status => r.circuitDenied source status
  | .circuitFailed source => r.circuitFailed source
  | .circuitClosed source destination => r.circuitClosed source destination
  | .peerDisconnected peer => r.peerDisconnected peer
  | .expirePending now => (r.expirePending now).2
  | .stop => r.stop

/-- The operation that a report of the relay protocol stands for, if it concerns a permit. -/
def Event.operation? : Event → Option Operation
  | .reservationAccepted peer renewed => some (.reservationAccepted peer renewed)
  | .reservationAcceptFailed peer => some (.reservationFailed peer)
  | .reservationDenied _ => some .reservationDenied
  | .reservationClosed peer | .reservationTimedOut peer => some (.reservationEnded peer)
  | .circuitDenied peer _ status => some (.circuitDenied peer status)
  | .circuitAccepted peer destination => some (.circuitAccepted peer destination)
  | .circuitAcceptFailed peer _ => some (.circuitFailed peer)
  | .circuitClosed peer destination => some (.circuitClosed peer destination)
  | .reservationDenyFailed _ | .circuitDenyFailed _ _ | .circuitOutboundFailed _ _ => none

theorem handle_eq (r : Relay) (event : Event) :
    r.handle event = (event.operation?.map r.perform).getD r := by
  cases event <;> rfl

/-! ## What the helpers leave alone -/

@[simp] theorem gate_mapGate (r : Relay) (f : RelayGate → RelayGate) :
    (r.mapGate f).gate = f r.gate := rfl

/-- Protections are the business of the connection manager alone. -/
theorem foldl_unprotect_eq (r : Relay) (peers : List PeerId) :
    ∃ connections, peers.foldl unprotect r = { r with connections := connections } := by
  induction peers generalizing r with
  | nil => exact ⟨r.connections, rfl⟩
  | cons peer peers ih => exact ih (r.unprotect peer)

@[simp] theorem gate_foldl_unprotect (r : Relay) (peers : List PeerId) :
    (peers.foldl unprotect r).gate = r.gate := by
  obtain ⟨connections, heq⟩ := foldl_unprotect_eq r peers
  rw [heq]

@[simp] theorem resources_foldl_unprotect (r : Relay) (peers : List PeerId) :
    (peers.foldl unprotect r).resources = r.resources := by
  obtain ⟨connections, heq⟩ := foldl_unprotect_eq r peers
  rw [heq]

@[simp] theorem access_foldl_unprotect (r : Relay) (peers : List PeerId) :
    (peers.foldl unprotect r).access = r.access := by
  obtain ⟨connections, heq⟩ := foldl_unprotect_eq r peers
  rw [heq]

/-! ## Admission -/

/-- What a request over a relayed stream takes. -/
def hopGuard (memory : Nat) (peer : PeerId) : StreamGuard :=
  ⟨.stream .inbound memory, peer, hopProtocol⟩

/-- The scopes that count a request over a relayed stream. -/
def hopChain (peer : PeerId) : List ScopeName := [.peer peer, .protocol hopProtocol, .system]

/-- What a check leaves alone: the gate, the access list and the connections. -/
structure Surroundings (r r' : Relay) : Prop where
  gate : r'.gate = r.gate
  list : r'.access.list = r.access.list
  connections : r'.connections = r.connections

/-- The relay `r'` after a check that gave a permit: the guard of the permit is charged, and nothing
else. -/
structure Admitted (r r' : Relay) (peer : PeerId) (memory : Nat) (permit : Permit) : Prop
    extends Surroundings r r' where
  guard : permit.guard = hopGuard memory peer
  charged : r.resources.Charged r'.resources permit.guard.amount permit.guard.scopes

/-- The relay `r'` after a check that refused: nothing is charged. -/
structure Unchanged (r r' : Relay) : Prop extends Surroundings r r' where
  usage : r.resources.SameUsage r'.resources

/-- What a check found when it gave a permit for a request: the relay runs, the access list allows
the request, the permit carries its address, and for a reservation that address is below its
limit. -/
structure Passes (r : Relay) (peer : PeerId) (request : RelayRequest) (permit : Permit) : Prop where
  isOpen : r.gate.closed = false
  allowed : (r.access.list.decide peer request (r.connections.peerConnections peer)).1 = .allow
  ip_eq : permit.ip = request.source.ip?
  below : request.action = .reserve → ∀ ip, permit.ip = some ip →
    r.gate.reservationsFrom ip peer < r.gate.settings.maxReservationsPerIp

theorem chargeRequest_cases (r : Relay) (peer : PeerId) (memory : Nat) (ip : Option Ip)
    (now : Instant) :
    (∃ permit r', r.chargeRequest peer memory ip now = (.ok permit, r') ∧
      permit.ip = ip ∧ Admitted r r' peer memory permit) ∨
    (∃ e r', r.chargeRequest peer memory ip now = (.error e, r') ∧ Unchanged r r') := by
  unfold chargeRequest
  rcases r.resources.reserveStream_cases peer hopProtocol .inbound memory with
    ⟨-, heq⟩ | ⟨-, m', heq, hm⟩ | ⟨-, m', k, res, heq, hm⟩
  · rw [heq]
    exact .inr ⟨_, _, rfl, ⟨rfl, rfl, rfl⟩, ResourceManager.sameUsage_named ..⟩
  · rw [heq]
    exact .inl ⟨_, _, rfl, rfl, ⟨rfl, rfl, rfl⟩, rfl, hm⟩
  · rw [heq]
    exact .inr ⟨_, _, rfl, ⟨rfl, rfl, rfl⟩, hm.same⟩

/-- The verdict is that of the list in force, and only the count of verdicts changes. -/
theorem consult_eq (r : Relay) (peer : PeerId) (request : RelayRequest) :
    ∃ access, access.list = r.access.list ∧
      r.consult peer request =
        ((r.access.list.decide peer request (r.connections.peerConnections peer)).1,
          { r with access := access }) :=
  ⟨(r.access.evaluate peer request (r.connections.peerConnections peer)).2, rfl, rfl⟩

/-- A reservation is admitted with a charge, or refused without one; after the end it is refused
for that reason. -/
theorem checkReservation_cases (r : Relay) (peer : PeerId) (source : Address) (now : Instant) :
    (∃ permit r', r.checkReservation peer source now = (.ok permit, r') ∧
      Passes r peer (.reserve source) permit ∧ Admitted r r' peer 0 permit) ∨
    (∃ e r', r.checkReservation peer source now = (.error e, r') ∧
      (r.gate.closed = true → e = .closed) ∧ Unchanged r r') := by
  unfold checkReservation
  cases hclosed : r.gate.closed with
  | true => exact .inr ⟨_, r, rfl, fun _ => rfl, ⟨rfl, rfl, rfl⟩, .refl _⟩
  | false =>
    obtain ⟨access, hlist, heq⟩ := consult_eq r peer (.reserve source)
    rw [if_neg Bool.false_ne_true, heq]
    cases hverdict : (r.access.list.decide peer (.reserve source)
        (r.connections.peerConnections peer)).1 with
    | deny => exact .inr ⟨_, _, rfl, nofun, ⟨rfl, hlist, rfl⟩, .refl _⟩
    | allow =>
      have hcharge : ∀ ip, ip = source.ip? →
          (∀ i, ip = some i →
            r.gate.reservationsFrom i peer < r.gate.settings.maxReservationsPerIp) →
          (∃ permit r', { r with access := access }.chargeRequest peer 0 ip now =
            (.ok permit, r') ∧ Passes r peer (.reserve source) permit ∧
              Admitted r r' peer 0 permit) ∨
          (∃ e r', { r with access := access }.chargeRequest peer 0 ip now = (.error e, r') ∧
            (false = true → e = .closed) ∧ Unchanged r r') := by
        intro ip hip hbelow
        rcases chargeRequest_cases { r with access := access } peer 0 ip now with
          ⟨permit, r', heq, hpermit, h⟩ | ⟨e, r', heq, h⟩
        · refine .inl ⟨permit, r', heq, ⟨hclosed, hverdict, hpermit.trans hip, fun _ i hi => ?_⟩,
            ⟨h.gate, h.list.trans hlist, h.connections⟩, h.guard, h.charged⟩
          exact hbelow i (hpermit.symm.trans hi)
        · exact .inr ⟨e, r', heq, nofun, ⟨h.gate, h.list.trans hlist, h.connections⟩, h.usage⟩
      cases hip : source.ip? with
      | none => exact hcharge none hip.symm nofun
      | some ip =>
        show (∃ _ _, ite _ _ _ = _ ∧ _) ∨ (∃ _ _, ite _ _ _ = _ ∧ _)
        split
        · exact .inr ⟨_, _, rfl, nofun, ⟨rfl, hlist, rfl⟩, .refl _⟩
        · rename_i hbelow
          refine hcharge (some ip) hip.symm fun i hi => ?_
          rw [← Option.some.inj hi]
          exact Nat.lt_of_not_le hbelow

/-- The same for a circuit, whose permit takes the memory of its buffers. -/
theorem checkCircuit_cases (r : Relay) (peer : PeerId) (source : Address) (now : Instant) :
    (∃ permit r', r.checkCircuit peer source now = (.ok permit, r') ∧
      Passes r peer (.connect source none) permit ∧
      Admitted r r' peer r.gate.settings.circuitMemory permit) ∨
    (∃ e r', r.checkCircuit peer source now = (.error e, r') ∧
      (r.gate.closed = true → e = .closed) ∧ Unchanged r r') := by
  unfold checkCircuit
  cases hclosed : r.gate.closed with
  | true => exact .inr ⟨_, r, rfl, fun _ => rfl, ⟨rfl, rfl, rfl⟩, .refl _⟩
  | false =>
    obtain ⟨access, hlist, heq⟩ := consult_eq r peer (.connect source none)
    rw [if_neg Bool.false_ne_true, heq]
    cases hverdict : (r.access.list.decide peer (.connect source none)
        (r.connections.peerConnections peer)).1 with
    | deny => exact .inr ⟨_, _, rfl, nofun, ⟨rfl, hlist, rfl⟩, .refl _⟩
    | allow =>
      rcases chargeRequest_cases { r with access := access } peer r.gate.settings.circuitMemory
        source.ip? now with ⟨permit, r', heq, hpermit, h⟩ | ⟨e, r', heq, h⟩
      · exact .inl ⟨permit, r', heq, ⟨hclosed, hverdict, hpermit, nofun⟩,
          ⟨h.gate, h.list.trans hlist, h.connections⟩, h.guard, h.charged⟩
      · exact .inr ⟨e, r', heq, nofun, ⟨h.gate, h.list.trans hlist, h.connections⟩, h.usage⟩

/-- An admitted reservation waits for its outcome. -/
theorem admitReservation_cases (r : Relay) (peer : PeerId) (source : Address) (now : Instant) :
    (∃ permit r', r.checkReservation peer source now = (.ok permit, r') ∧
      r.admitReservation peer source now = (.ok (), r'.mapGate fun g =>
        { g with pendingReservations := g.pendingReservations.push peer permit }) ∧
      Passes r peer (.reserve source) permit ∧ Admitted r r' peer 0 permit) ∨
    (∃ e r', r.admitReservation peer source now = (.error e, r'.recordReservation e.outcome) ∧
      (r.gate.closed = true → e = .closed) ∧ Unchanged r r') := by
  unfold Relay.admitReservation
  rcases r.checkReservation_cases peer source now with
    ⟨permit, r', heq, hpasses, h⟩ | ⟨e, r', heq, hclosed, h⟩
  · rw [heq]
    exact .inl ⟨permit, r', rfl, rfl, hpasses, h⟩
  · rw [heq]
    exact .inr ⟨e, r', rfl, hclosed, h⟩

/-- An admitted circuit waits for its outcome. -/
theorem admitCircuit_cases (r : Relay) (peer : PeerId) (source : Address) (now : Instant) :
    (∃ permit r', r.checkCircuit peer source now = (.ok permit, r') ∧
      r.admitCircuit peer source now = (.ok (), r'.mapGate fun g =>
        { g with pendingCircuits := g.pendingCircuits.push peer permit }) ∧
      Passes r peer (.connect source none) permit ∧
      Admitted r r' peer r.gate.settings.circuitMemory permit) ∨
    (∃ e r', r.admitCircuit peer source now = (.error e, r'.recordCircuit e.outcome) ∧
      (r.gate.closed = true → e = .closed) ∧ Unchanged r r') := by
  unfold Relay.admitCircuit
  rcases r.checkCircuit_cases peer source now with
    ⟨permit, r', heq, hpasses, h⟩ | ⟨e, r', heq, hclosed, h⟩
  · rw [heq]
    exact .inl ⟨permit, r', rfl, rfl, hpasses, h⟩
  · rw [heq]
    exact .inr ⟨e, r', rfl, hclosed, h⟩

/-! ## Outcomes -/

/-- An acceptance takes the oldest pending permit.  After the end the permit is released; before, it
is held if there is one, and the peer is protected in any case. -/
theorem reservationAccepted_cases (r : Relay) (peer : PeerId) (renewed : Bool) :
    let permit := (r.takePendingReservation peer).1
    let taken := (r.takePendingReservation peer).2
    r.gate.closed = true ∧ r.reservationAccepted peer renewed = taken.releaseAll permit.toList ∨
    r.gate.closed = false ∧ ∃ held outcome,
      r.reservationAccepted peer renewed = (held.protect peer).recordReservation outcome ∧
      (permit = none ∧ held = taken ∨
        ∃ p, permit = some p ∧ held = taken.holdReservation peer p renewed) := by
  unfold Relay.reservationAccepted
  rcases r.takePendingReservation peer with ⟨permit, taken⟩
  cases r.gate.closed with
  | true => exact .inl ⟨rfl, rfl⟩
  | false =>
    refine .inr ⟨rfl, _, _, rfl, ?_⟩
    cases permit with
    | none => exact .inl ⟨rfl, rfl⟩
    | some p => exact .inr ⟨p, rfl, rfl⟩

/-- A failed acceptance releases the oldest pending permit, if there is one. -/
theorem reservationFailed_cases (r : Relay) (peer : PeerId) :
    let permit := (r.takePendingReservation peer).1
    let taken := (r.takePendingReservation peer).2
    permit = none ∧ r.reservationFailed peer = taken ∨
    ∃ p, permit = some p ∧
      r.reservationFailed peer = (taken.releaseAll [p]).recordReservation .failed := by
  unfold Relay.reservationFailed
  rcases r.takePendingReservation peer with ⟨permit, taken⟩
  cases permit with
  | none => exact .inl ⟨rfl, rfl⟩
  | some p => exact .inr ⟨p, rfl, rfl⟩

/-- An accepted circuit holds the oldest pending permit of its source, if there is one. -/
theorem circuitAccepted_cases (r : Relay) (source destination : PeerId) :
    let permit := (r.takePendingCircuit source).1
    let taken := (r.takePendingCircuit source).2
    ∃ held, r.circuitAccepted source destination = held.recordCircuit .accepted ∧
      (permit = none ∧ held = taken ∨
        ∃ p, permit = some p ∧ held = taken.mapGate fun g =>
          { g with circuits := g.circuits.push (source, destination) p }) := by
  unfold Relay.circuitAccepted
  rcases r.takePendingCircuit source with ⟨permit, taken⟩
  refine ⟨_, rfl, ?_⟩
  cases permit with
  | none => exact .inl ⟨rfl, rfl⟩
  | some p => exact .inr ⟨p, rfl, rfl⟩

/-- What a reservation that ended releases does not depend on what is counted and protected; the
protection ends with the last one. -/
theorem reservationEnded_cases (r : Relay) (peer : PeerId) :
    let released := (r.takeReservation peer).2.releaseAll (r.takeReservation peer).1.toList
    ∃ counted, (counted = released ∨ counted = released.recordReservation .ended) ∧
      (counted.gate.reservations.queue peer ≠ [] ∧ r.reservationEnded peer = counted ∨
        counted.gate.reservations.queue peer = [] ∧
          r.reservationEnded peer = counted.unprotect peer) := by
  intro released
  let counted :=
    if (r.takeReservation peer).1.isSome then released.recordReservation .ended else released
  refine ⟨counted, ?_, ?_⟩
  · by_cases hsome : (r.takeReservation peer).1.isSome = true
    · exact .inr (if_pos hsome)
    · exact .inl (if_neg hsome)
  · by_cases hempty : (counted.gate.reservations.queue peer).isEmpty = true
    · exact .inr ⟨List.isEmpty_iff.mp hempty, if_pos hempty⟩
    · exact .inl ⟨fun hnil => hempty (List.isEmpty_iff.mpr hnil), if_neg hempty⟩

end Relay

/-! ## A relay among others -/

/-- A relay, and the guards that others keep of its resource manager. -/
structure SharedRelay (ν : Type) where
  relay : Relay
  /-- The guards of the others. -/
  guards : Table ν Guard

namespace SharedRelay

variable {ν : Type} [DecidableEq ν]

/-- A relay before the first request, over managers of which nobody keeps a guard. -/
def start (list : AccessList) (settings : RelaySettings) (connections : ConnectionManager)
    (ceilings : Ceilings) : SharedRelay ν :=
  ⟨⟨.ofList list, connections, .ofCeilings ceilings, .ofSettings settings⟩, .empty⟩

/-- What the others hold. -/
def others (s : SharedRelay ν) : Holdings ν := ⟨s.relay.resources, s.guards⟩

/-- Whatever can happen to the relay or to the managers under it. -/
inductive Step (ν : Type) where
  | gate (operation : Relay.Operation)
  | connections (step : ConnectionManager.Step)
  | others (step : Holdings.Step ν)

/-- The relay and the others after a step. -/
def perform (s : SharedRelay ν) : Step ν → SharedRelay ν
  | .gate operation => { s with relay := s.relay.perform operation }
  | .connections step =>
    { s with relay := { s.relay with connections := s.relay.connections.perform step } }
  | .others step =>
    let held := s.others.perform step
    ⟨{ s.relay with resources := held.manager }, held.guards⟩

/-- The relay and the others after a run. -/
def run (s : SharedRelay ν) (steps : List (Step ν)) : SharedRelay ν := steps.foldl perform s

end SharedRelay

end CircuitRelay
