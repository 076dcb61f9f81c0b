import CircuitRelay.Proofs.Relay.Access
import CircuitRelay.Proofs.Relay.AddressLimit
import CircuitRelay.Proofs.Resource.Decision

/-!
# A request to the relay is one decision

Whether the relay admits a request depends on four components: the gate, the access list with the
connections that the peer has at that time, the permits that carry the address of the request, and
the scopes that would count it.  They are asked in this order, and the first one that is against the
request is the reason for which it is rejected.

Each condition is stated in the terms of its own component and without the order in which that
component goes about it: the rules of the list, the exception for renewals, the walk along a chain
of scopes.

* `AccessList.Allows`, `AccessList.decide_eq_allow_iff`: the rules of the list.
* `RelayGate.HasPlace`, `RelayGate.hasPlace_iff`: the limit on an address.
* `Accepts`, `Rejects`: all conditions, and the first one that fails.
* `Decides`: what an admission answers, and whether the access list was asked.
* `decides_admitReservation`, `decides_admitCircuit`: the two admissions.
* `Tallies`: what is counted of an admission.
* `run_admits`: admissions after any run.
-/

namespace CircuitRelay

/-! ## The rules of the list -/

namespace AccessList

variable {l : AccessList} {peer : PeerId} {request : RelayRequest} {connections : Nat}

/-- Whether the list allows a request of a peer with so many connections. -/
structure Allows (l : AccessList) (peer : PeerId) (request : RelayRequest) (connections : Nat) :
    Prop extends Grants l peer request.source.ip? where
  destination : ∀ d, request.destination? = some d → d ∉ l.denyPeers
  below : ∀ max, l.maxConnections = some max → connections ≤ max

theorem denies_iff : l.denies peer = true ↔ peer ∈ l.denyPeers := List.contains_iff_mem

theorem overLimit_iff :
    l.overLimit connections = true ↔ ∃ max, l.maxConnections = some max ∧ max < connections := by
  unfold overLimit
  cases l.maxConnections with
  | none => exact ⟨nofun, fun ⟨_, h, _⟩ => nomatch h⟩
  | some max =>
    rw [decide_eq_true_eq]
    exact ⟨fun h => ⟨max, rfl, h⟩, fun ⟨_, hmax, h⟩ => Option.some.inj hmax ▸ h⟩

/-- The order of the rules does not show in the verdict. -/
theorem decide_eq_allow_iff :
    (l.decide peer request connections).1 = .allow ↔ l.Allows peer request connections := by
  constructor
  · intro h
    have hgrants : l.Grants peer request.source.ip? := grants_of_decide h
    have hdenied : ¬l.denies peer = true := fun hd => hgrants.not_denied (denies_iff.mp hd)
    rw [decide, if_neg hdenied] at h
    split at h
    · cases h
    · rename_i hdestination
      split at h
      · cases h
      · rename_i hlimit
        refine ⟨hgrants, fun d hd hmem => ?_, fun max hmax => ?_⟩
        · rw [hd] at hdestination
          exact hdestination (denies_iff.mpr hmem)
        · by_contra hover
          exact hlimit (overLimit_iff.mpr ⟨max, hmax, Nat.lt_of_not_le hover⟩)
  · intro h
    have hdenied : ¬l.denies peer = true := fun hd => h.not_denied (denies_iff.mp hd)
    have hdestination : ¬request.destination?.any l.denies = true := by
      intro hd
      obtain ⟨d, hsome, hdenies⟩ := (Option.any_eq_true ..).mp hd
      exact h.destination d hsome (denies_iff.mp hdenies)
    have hlimit : ¬l.overLimit connections = true := by
      intro hover
      obtain ⟨max, hmax, hlt⟩ := overLimit_iff.mp hover
      exact Nat.not_le_of_lt hlt (h.below max hmax)
    rw [decide, if_neg hdenied, if_neg hdestination, if_neg hlimit]
    split
    · rfl
    · rename_i hpeer
      split
      · rfl
      · rename_i hsource
        rcases h.reason with hallowed | hsubnet | hdefault
        · exact absurd (List.contains_iff_mem.mpr hallowed) hpeer
        · exact absurd (allowsSource_iff.mpr hsubnet) hsource
        · exact hdefault

end AccessList

/-! ## The limit on an address -/

namespace RelayGate

/-- Whether a peer may reserve from an address: fewer than the limit are recorded with it, where one
that the peer holds is not counted. -/
def HasPlace (g : RelayGate) (peer : PeerId) (ip : Ip) : Prop :=
  let renewable := if ∃ permit ∈ g.reservations.queue peer, permit.ip = some ip then 1 else 0
  g.recordedFrom ip - renewable < g.settings.maxReservationsPerIp

theorem hasPlace_iff (g : RelayGate) (peer : PeerId) (ip : Ip) :
    g.HasPlace peer ip ↔ g.reservationsFrom ip peer < g.settings.maxReservationsPerIp := by
  have hadd := g.reservationsFrom_add ip peer
  have hown : 0 < (g.reservations.queue peer).countP (fun permit => decide (permit.ip = some ip)) ↔
      ∃ permit ∈ g.reservations.queue peer, permit.ip = some ip := by
    simp only [List.countP_pos_iff, decide_eq_true_eq]
  unfold HasPlace
  split
  · rename_i hheld
    have hpos := hown.mpr hheld
    omega
  · rename_i hnone
    have hzero := mt hown.mp hnone
    omega

/-- The outcomes of one kind of requests. -/
def outcomes (g : RelayGate) : RelayRequest.Action → Tally RelayOutcome
  | .reserve => g.reservationOutcomes
  | .connect => g.circuitOutcomes

end RelayGate

namespace Relay

variable {r r' : Relay} {peer : PeerId} {request : RelayRequest} {e : Rejection} {γ : Type}

/-! ## The conditions -/

/-- Whether the access list allows a request, at the number of connections that the peer has. -/
def Allows (r : Relay) (peer : PeerId) (request : RelayRequest) : Prop :=
  r.access.list.Allows peer request (r.connections.peerConnections peer)

/-- Whether the address of a request is below its limit.  Only reservations are limited, and only
those that come from an address. -/
def IsBelow (r : Relay) (peer : PeerId) (request : RelayRequest) : Prop :=
  request.action = .reserve → ∀ ip, request.source.ip? = some ip → r.gate.HasPlace peer ip

/-- The scopes that count the relayed streams of a peer, as they are found. -/
def hopLinks (r : Relay) (peer : PeerId) : List Link := (hopChain peer).map r.resources.link

/-- What a request takes: an inbound stream, and for a circuit the memory of its buffers. -/
def hopAmount (r : Relay) : RelayRequest.Action → Amounts
  | .reserve => .stream .inbound 0
  | .connect => .stream .inbound r.gate.settings.circuitMemory

/-- Whether the resource manager is open, and every scope has room for a request. -/
structure HasRoom (r : Relay) (peer : PeerId) (request : RelayRequest) : Prop where
  isOpen : r.resources.closed = false
  admits : ∀ l ∈ r.hopLinks peer, ∀ res,
    l.Admits r.resources.ceilings (r.hopAmount request.action) res

/-- All conditions under which a request is admitted. -/
structure Accepts (r : Relay) (peer : PeerId) (request : RelayRequest) : Prop where
  isOpen : r.gate.closed = false
  allowed : r.Allows peer request
  below : r.IsBelow peer request
  room : r.HasRoom peer request

/-- The reason for which a request is rejected: the first condition that fails, and for the scopes
the first resource that the first of them without room lacks. -/
inductive Rejects (r : Relay) (peer : PeerId) (request : RelayRequest) : Rejection → Prop
  | closed (hclosed : r.gate.closed = true) : Rejects r peer request .closed
  | access (hopen : r.gate.closed = false) (hdenied : ¬r.Allows peer request) :
    Rejects r peer request .access
  | perIp {ip : Ip} (hopen : r.gate.closed = false) (hallowed : r.Allows peer request)
    (hreserve : request.action = .reserve) (hip : request.source.ip? = some ip)
    (hfull : ¬r.gate.HasPlace peer ip) : Rejects r peer request (.perIp ip)
  | stopped (hopen : r.gate.closed = false) (hallowed : r.Allows peer request)
    (hbelow : r.IsBelow peer request) (hclosed : r.resources.closed = true) :
    Rejects r peer request (.resources .closed)
  | lacking {k : ScopeKind} {res : Resource} (hopen : r.gate.closed = false)
    (hallowed : r.Allows peer request) (hbelow : r.IsBelow peer request)
    (hrunning : r.resources.closed = false)
    (hlack : FirstLack r.resources.ceilings (r.hopAmount request.action) (r.hopLinks peer) k res) :
    Rejects r peer request (.resources (.exceeded k res))

/-- A reason for a rejection contradicts one of the conditions. -/
theorem Rejects.not_accepts (h : r.Rejects peer request e) : ¬r.Accepts peer request := by
  intro haccepts
  cases h with
  | closed hclosed => exact Bool.noConfusion (haccepts.isOpen.symm.trans hclosed)
  | access _ hdenied => exact hdenied haccepts.allowed
  | perIp _ _ hreserve hip hfull => exact hfull (haccepts.below hreserve _ hip)
  | stopped _ _ _ hclosed => exact Bool.noConfusion (haccepts.room.isOpen.symm.trans hclosed)
  | lacking _ _ _ _ hlack => exact hlack.not_admits haccepts.room.admits

/-! ## Decisions -/

/-- The access list is asked once, unless the gate is closed, and its verdict is counted. -/
structure Asks (r : Relay) (peer : PeerId) (request : RelayRequest) (access : AccessControl) :
    Prop where
  asked : r.gate.closed = false → ∃ verdict, (verdict = .allow ↔ r.Allows peer request) ∧
    ∀ pair, access.verdicts.count pair =
      r.access.verdicts.count pair + if (request.action, verdict) = pair then 1 else 0
  unasked : r.gate.closed = true → access.verdicts = r.access.verdicts

/-- A request is decided by the conditions. -/
structure Decides (r : Relay) (peer : PeerId) (request : RelayRequest)
    (outcome : Except Rejection γ × Relay) : Prop where
  accepted_iff : (∃ a, outcome.1 = .ok a) ↔ r.Accepts peer request
  rejected : ∀ e, outcome.1 = .error e → r.Rejects peer request e
  asks : r.Asks peer request outcome.2.access

theorem decides_of_rejects (h : r.Rejects peer request e) (hasks : r.Asks peer request r'.access) :
    r.Decides peer request ((.error e, r') : Except Rejection γ × Relay) where
  accepted_iff := by
    refine iff_of_false (fun hok => ?_) h.not_accepts
    obtain ⟨_, heq⟩ := hok
    cases heq
  rejected e' he := by
    cases he
    exact h
  asks := hasks

theorem decides_of_accepts {a : γ} (h : r.Accepts peer request)
    (hasks : r.Asks peer request r'.access) :
    r.Decides peer request ((.ok a, r') : Except Rejection γ × Relay) where
  accepted_iff := iff_of_true ⟨a, rfl⟩ h
  rejected e he := by cases he
  asks := hasks

/-- The verdict of the access list on a request. -/
def verdict (r : Relay) (peer : PeerId) (request : RelayRequest) : Verdict :=
  (r.access.list.decide peer request (r.connections.peerConnections peer)).1

theorem verdict_eq_allow_iff : r.verdict peer request = .allow ↔ r.Allows peer request :=
  AccessList.decide_eq_allow_iff

/-- The relay after its access list was asked. -/
def consulted (r : Relay) (peer : PeerId) (request : RelayRequest) : Relay :=
  { r with access := { r.access with
      verdicts := r.access.verdicts.record (request.action, r.verdict peer request) } }

theorem consult_eq_consulted (r : Relay) (peer : PeerId) (request : RelayRequest) :
    r.consult peer request = (r.verdict peer request, r.consulted peer request) := rfl

theorem asks_of_closed (hclosed : r.gate.closed = true) : r.Asks peer request r.access where
  asked hopen := Bool.noConfusion (hopen.symm.trans hclosed)
  unasked _ := rfl

theorem asks_of_open (hopen : r.gate.closed = false) :
    r.Asks peer request (r.consulted peer request).access where
  asked _ := ⟨r.verdict peer request, verdict_eq_allow_iff, fun _ => Tally.count_record ..⟩
  unasked hclosed := Bool.noConfusion (hopen.symm.trans hclosed)

theorem decides_of_denied (hopen : r.gate.closed = false)
    (hdeny : r.verdict peer request = .deny) :
    r.Decides peer request
      ((.error .access, r.consulted peer request) : Except Rejection γ × Relay) := by
  refine decides_of_rejects (.access hopen fun hallows => ?_) (asks_of_open hopen)
  rw [verdict_eq_allow_iff.mpr hallows] at hdeny
  cases hdeny

/-- The last condition is left to the resource manager. -/
theorem decides_chargeRequest (hwords : r.resources.ceilings.AreWords)
    (hopen : r.gate.closed = false) (hallowed : r.Allows peer request)
    (hbelow : r.IsBelow peer request) {memory : Nat}
    (hmemory : .stream .inbound memory = r.hopAmount request.action) (ip : Option Ip)
    (now : Instant) :
    r.Decides peer request ((r.consulted peer request).chargeRequest peer memory ip now) := by
  have hstream : r.resources.Decides (r.hopLinks peer) (hopChain peer) (.stream .inbound memory)
      (hopGuard memory peer)
      ((r.consulted peer request).resources.reserveStream peer hopProtocol .inbound memory) :=
    ResourceManager.decides_reserveStream hwords peer hopProtocol .inbound memory
  rw [hmemory] at hstream
  unfold chargeRequest
  generalize (r.consulted peer request).resources.reserveStream peer hopProtocol .inbound memory =
    outcome at hstream ⊢
  obtain ⟨e | guard, m⟩ := outcome
  · refine decides_of_rejects ?_ (asks_of_open hopen)
    rcases (hstream.refused e rfl).2 with ⟨hclosed, rfl, -⟩ | ⟨hrunning, k, res, rfl, hlack, -⟩
    · exact .stopped hopen hallowed hbelow hclosed
    · exact .lacking hopen hallowed hbelow hrunning hlack
  · obtain ⟨hrunning, hadmits⟩ := hstream.granted_iff.mp ⟨guard, rfl⟩
    exact decides_of_accepts ⟨hopen, hallowed, hbelow, hrunning, hadmits⟩
      (asks_of_open hopen)

theorem decides_checkReservation (hwords : r.resources.ceilings.AreWords) (peer : PeerId)
    (source : Address) (now : Instant) :
    r.Decides peer (.reserve source) (r.checkReservation peer source now) := by
  unfold checkReservation
  cases hclosed : r.gate.closed with
  | true => exact decides_of_rejects (.closed hclosed) (asks_of_closed hclosed)
  | false =>
    rw [if_neg Bool.false_ne_true, consult_eq_consulted]
    cases hverdict : r.verdict peer (.reserve source) with
    | deny => exact decides_of_denied hclosed hverdict
    | allow =>
      have hallowed : r.Allows peer (.reserve source) := verdict_eq_allow_iff.mp hverdict
      cases hip : source.ip? with
      | none =>
        have hbelow : r.IsBelow peer (.reserve source) := by
          intro _ ip hsome
          cases hip.symm.trans hsome
        exact decides_chargeRequest hwords hclosed hallowed hbelow rfl none now
      | some ip =>
        show r.Decides _ _ (ite _ _ _)
        split
        · rename_i hfull
          refine decides_of_rejects (.perIp hclosed hallowed rfl hip fun hplace => ?_)
            (asks_of_open hclosed)
          exact Nat.not_le_of_lt ((r.gate.hasPlace_iff peer ip).mp hplace) hfull
        · rename_i hroom
          have hbelow : r.IsBelow peer (.reserve source) := by
            intro _ ip' hsome
            cases hip.symm.trans hsome
            exact (r.gate.hasPlace_iff peer ip).mpr (Nat.lt_of_not_le hroom)
          exact decides_chargeRequest hwords hclosed hallowed hbelow rfl (some ip) now

theorem decides_checkCircuit (hwords : r.resources.ceilings.AreWords) (peer : PeerId)
    (source : Address) (now : Instant) :
    r.Decides peer (.connect source none) (r.checkCircuit peer source now) := by
  unfold checkCircuit
  cases hclosed : r.gate.closed with
  | true => exact decides_of_rejects (.closed hclosed) (asks_of_closed hclosed)
  | false =>
    rw [if_neg Bool.false_ne_true, consult_eq_consulted]
    cases hverdict : r.verdict peer (.connect source none) with
    | deny => exact decides_of_denied hclosed hverdict
    | allow =>
      have hallowed : r.Allows peer (.connect source none) := verdict_eq_allow_iff.mp hverdict
      exact decides_chargeRequest hwords hclosed hallowed nofun rfl source.ip? now

theorem decides_admitReservation (hwords : r.resources.ceilings.AreWords) (peer : PeerId)
    (source : Address) (now : Instant) :
    r.Decides peer (.reserve source) (r.admitReservation peer source now) := by
  have hcheck := decides_checkReservation hwords peer source now
  unfold admitReservation
  generalize r.checkReservation peer source now = outcome at hcheck ⊢
  obtain ⟨e | permit, n⟩ := outcome
  · exact decides_of_rejects (hcheck.rejected e rfl) hcheck.asks
  · exact decides_of_accepts (hcheck.accepted_iff.mp ⟨permit, rfl⟩) hcheck.asks

theorem decides_admitCircuit (hwords : r.resources.ceilings.AreWords) (peer : PeerId)
    (source : Address) (now : Instant) :
    r.Decides peer (.connect source none) (r.admitCircuit peer source now) := by
  have hcheck := decides_checkCircuit hwords peer source now
  unfold admitCircuit
  generalize r.checkCircuit peer source now = outcome at hcheck ⊢
  obtain ⟨e | permit, n⟩ := outcome
  · exact decides_of_rejects (hcheck.rejected e rfl) hcheck.asks
  · exact decides_of_accepts (hcheck.accepted_iff.mp ⟨permit, rfl⟩) hcheck.asks

/-! ## Outcomes -/

/-- A rejection is counted once among the outcomes of its kind of requests; an admitted request is
not counted before its own outcome is known. -/
structure Tallies (r : Relay) (request : RelayRequest) (outcome : Except Rejection γ × Relay) :
    Prop where
  rejected : ∀ e, outcome.1 = .error e → ∀ action o,
    (outcome.2.gate.outcomes action).count o =
      (r.gate.outcomes action).count o + if (request.action, e.outcome) = (action, o) then 1 else 0
  accepted : ∀ a, outcome.1 = .ok a → ∀ action,
    outcome.2.gate.outcomes action = r.gate.outcomes action

theorem tallies_of_ok {a : γ}
    (h : ∀ action, r'.gate.outcomes action = r.gate.outcomes action) :
    r.Tallies request ((.ok a, r') : Except Rejection γ × Relay) where
  rejected e he := by cases he
  accepted _ _ := h

theorem tallies_of_error
    (h : ∀ action o, (r'.gate.outcomes action).count o = (r.gate.outcomes action).count o +
      if (request.action, e.outcome) = (action, o) then 1 else 0) :
    r.Tallies request ((.error e, r') : Except Rejection γ × Relay) where
  rejected e' he := by
    cases he
    exact h
  accepted a ha := by cases ha

theorem count_recordReservation (r : Relay) (o : RelayOutcome) (action : RelayRequest.Action)
    (o' : RelayOutcome) :
    ((r.recordReservation o).gate.outcomes action).count o' =
      (r.gate.outcomes action).count o' +
        if (RelayRequest.Action.reserve, o) = (action, o') then 1 else 0 := by
  cases action with
  | reserve =>
    refine (Tally.count_record ..).trans ?_
    simp [RelayGate.outcomes]
  | connect => rfl

theorem count_recordCircuit (r : Relay) (o : RelayOutcome) (action : RelayRequest.Action)
    (o' : RelayOutcome) :
    ((r.recordCircuit o).gate.outcomes action).count o' =
      (r.gate.outcomes action).count o' +
        if (RelayRequest.Action.connect, o) = (action, o') then 1 else 0 := by
  cases action with
  | reserve => rfl
  | connect =>
    refine (Tally.count_record ..).trans ?_
    simp [RelayGate.outcomes]

theorem tallies_admitReservation (r : Relay) (peer : PeerId) (source : Address) (now : Instant) :
    r.Tallies (.reserve source) (r.admitReservation peer source now) := by
  rcases r.admitReservation_cases peer source now with
    ⟨permit, n, -, heq, -, hadmitted⟩ | ⟨e, n, heq, -, hsame⟩
  · rw [heq]
    refine tallies_of_ok fun action => ?_
    rw [← hadmitted.gate]
    cases action with
    | reserve | connect => rfl
  · rw [heq]
    refine tallies_of_error fun action o => ?_
    rw [← hsame.gate]
    exact n.count_recordReservation e.outcome action o

theorem tallies_admitCircuit (r : Relay) (peer : PeerId) (source : Address) (now : Instant) :
    r.Tallies (.connect source none) (r.admitCircuit peer source now) := by
  rcases r.admitCircuit_cases peer source now with
    ⟨permit, n, -, heq, -, hadmitted⟩ | ⟨e, n, heq, -, hsame⟩
  · rw [heq]
    refine tallies_of_ok fun action => ?_
    rw [← hadmitted.gate]
    cases action with
    | reserve | connect => rfl
  · rw [heq]
    refine tallies_of_error fun action o => ?_
    rw [← hsame.gate]
    exact n.count_recordCircuit e.outcome action o

end Relay

/-! ## Runs -/

namespace SharedRelay

variable {ν : Type} [DecidableEq ν]

/-- No run changes the list in force. -/
theorem list_run (s : SharedRelay ν) (steps : List (Step ν)) :
    (s.run steps).relay.access.list = s.relay.access.list := by
  induction steps generalizing s with
  | nil => rfl
  | cons step rest ih => exact (ih (s.perform step)).trans (list_step s step)

/-- At any time an admission is one decision on the gate, the access list, the connections and the
resource manager as they are then.  The request is admitted exactly when the gate is open, the list
allows it at the number of connections of the peer, its address is below the limit if it is a
reservation with an address, and every scope has room for the stream and its memory.  Otherwise it
is rejected for the first of these that fails, and this is counted once.  The list is asked, and its
verdict counted, unless the gate is closed. -/
theorem run_admits (list : AccessList) (settings : RelaySettings) (connections : ConnectionManager)
    (ceilings : Ceilings) (hwords : ceilings.AreWords) (steps : List (Step ν)) :
    let r := ((start list settings connections ceilings).run steps).relay
    r.gate.settings = settings ∧ r.access.list = list ∧ r.resources.ceilings = ceilings ∧
    (∀ peer source now,
      r.Decides peer (.reserve source) (r.admitReservation peer source now) ∧
      r.Tallies (.reserve source) (r.admitReservation peer source now)) ∧
    (∀ peer source now,
      r.Decides peer (.connect source none) (r.admitCircuit peer source now) ∧
      r.Tallies (.connect source none) (r.admitCircuit peer source now)) := by
  intro r
  have hkeeps := keeps_run (fun r _ => r.admits_true)
    (keeps_start list settings connections ceilings _ _) steps
  have hceilings : r.resources.ceilings = ceilings := hkeeps.balanced.ceilings_eq
  have hlist : r.access.list = list := list_run _ steps
  rw [← hceilings] at hwords
  exact ⟨hkeeps.settings_eq, hlist, hceilings,
    fun peer source now => ⟨Relay.decides_admitReservation hwords peer source now,
      r.tallies_admitReservation peer source now⟩,
    fun peer source now => ⟨Relay.decides_admitCircuit hwords peer source now,
      r.tallies_admitCircuit peer source now⟩⟩

/-- Under a limit of one, the peer that has the only place of its address renews, and another peer
is told that the address is full; a denied peer is told nothing about the address. -/
theorem run_admits_at_limit :
    let a : PeerId := ⟨.sha256, [1]⟩
    let b : PeerId := ⟨.sha256, [2]⟩
    let denied : PeerId := ⟨.sha256, [3]⟩
    let ip : Ip := .v4 (.ofOctets 10 1 2 3)
    let source : Address := ⟨[.ip4 (.ofOctets 10 1 2 3), .tcp 4001]⟩
    let settings : RelaySettings := { RelaySettings.standard with maxReservationsPerIp := 1 }
    let list : AccessList := { AccessList.open with denyPeers := [denied] }
    let steps : List (Step Nat) :=
      [.gate (.admitReservation a source 0), .gate (.reservationAccepted a false)]
    let r := ((start list settings (.ofMarks .standard) .unlimited).run steps).relay
    Ceilings.unlimited.AreWords ∧
    r.Accepts a (.reserve source) ∧ r.Rejects b (.reserve source) (.perIp ip) ∧
    r.Rejects denied (.reserve source) .access ∧ r.Accepts b (.connect source none) := by
  intro a b denied ip source settings list steps r
  have hrenewed : (r.admitReservation a source 1).1 = .ok () := by decide +kernel
  have hfull : (r.admitReservation b source 1).1 = .error (.perIp ip) := by decide +kernel
  have hdenied : (r.admitReservation denied source 1).1 = .error .access := by decide +kernel
  have hcircuit : (r.admitCircuit b source 1).1 = .ok () := by decide +kernel
  obtain ⟨-, -, -, hreserve, hconnect⟩ := run_admits list settings (.ofMarks .standard) .unlimited
    Ceilings.areWords_unlimited steps
  exact ⟨Ceilings.areWords_unlimited, (hreserve a source 1).1.accepted_iff.mp ⟨(), hrenewed⟩,
    (hreserve b source 1).1.rejected _ hfull, (hreserve denied source 1).1.rejected _ hdenied,
    (hconnect b source 1).1.accepted_iff.mp ⟨(), hcircuit⟩⟩

end SharedRelay

end CircuitRelay
