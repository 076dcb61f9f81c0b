import CircuitRelay.Proofs.Relay.Permits

/-!
# Whom the access list lets hold permits

The access list is asked once, when a request arrives, and later events move permits by their owner
alone.  `Grants l peer ip` says, without the order of the rules, whom the list `l` may let in from
an address: a peer that is not denied and that is allowed, or comes from an allowed network, or
falls under a default that allows.  A request that the list allows is granted, and the permit that
it gets keeps both its owner and its address, so every permit of the gate is granted at any time.

* `grants_of_decide`: the decision on a request respects `Grants`.
* `list_perform`: no operation changes the list in force.
* `run_grants`: every permit along a run is granted to its owner.
-/

namespace CircuitRelay

namespace AccessList

variable {l : AccessList} {peer : PeerId}

/-- Whom the list may let in from an address; a request without an address is in no network. -/
structure Grants (l : AccessList) (peer : PeerId) (ip : Option Ip) : Prop where
  not_denied : peer ∉ l.denyPeers
  reason : peer ∈ l.allowPeers ∨ (∃ i, ip = some i ∧ ∃ s ∈ l.allowSubnets, s.contains i = true) ∨
    l.defaultVerdict = .allow

theorem allowsSource_iff {source : Address} :
    l.allowsSource source = true ↔
      ∃ i, source.ip? = some i ∧ ∃ s ∈ l.allowSubnets, s.contains i = true := by
  unfold allowsSource
  cases source.ip? with
  | none => exact ⟨nofun, fun ⟨_, h, _⟩ => nomatch h⟩
  | some ip =>
    constructor
    · intro h
      obtain ⟨s, hs, hmem⟩ := List.any_eq_true.mp h
      exact ⟨ip, rfl, s, hs, hmem⟩
    · rintro ⟨i, hi, s, hs, hmem⟩
      rw [Option.some.inj hi]
      exact List.any_eq_true.mpr ⟨s, hs, hmem⟩

/-- Whatever rule decides, an allowed request is granted. -/
theorem grants_of_decide {request : RelayRequest} {connections : Nat}
    (h : (l.decide peer request connections).1 = .allow) : l.Grants peer request.source.ip? := by
  have hnever : ∀ {rule : Rule}, (Verdict.deny, rule).1 ≠ Verdict.allow := nofun
  unfold decide at h
  split at h
  · exact absurd h hnever
  · rename_i hdenied
    have hnot : peer ∉ l.denyPeers := fun hmem => hdenied (List.contains_iff_mem.mpr hmem)
    split at h
    · exact absurd h hnever
    · split at h
      · exact absurd h hnever
      · split at h
        · rename_i hallowed
          exact ⟨hnot, .inl (List.contains_iff_mem.mp hallowed)⟩
        · split at h
          · rename_i hsource
            exact ⟨hnot, .inr (.inl (allowsSource_iff.mp hsource))⟩
          · exact ⟨hnot, .inr (.inr h)⟩

end AccessList

namespace RelayGate

/-- The permits, pending or held, for reservations of a peer and for circuits with it as source. -/
def permitsOf (g : RelayGate) (peer : PeerId) : List Permit :=
  g.pendingReservations.queue peer ++ g.reservations.queue peer ++ g.pendingCircuits.queue peer ++
    PermitQueues.permits (g.circuits.filter fun k _ => decide (k.1 = peer))

/-- What the permits for reservations and for circuits satisfy with their owner, the permits of a
peer satisfy with it. -/
theorem Holds.of_mem_permitsOf {g : RelayGate} {P : PeerId → Permit → Prop} (h : g.Holds P P)
    {peer : PeerId} {p : Permit} (hp : p ∈ g.permitsOf peer) : P peer p := by
  rw [permitsOf, List.mem_append, List.mem_append, List.mem_append] at hp
  rcases hp with ((hp | hp) | hp) | hp
  · exact h.pendingReservations.all peer p hp
  · exact h.reservations.all peer p hp
  · exact h.pendingCircuits.all peer p hp
  · obtain ⟨permits, hpermits, hmem⟩ := List.mem_flatten.mp hp
    obtain ⟨⟨k, l⟩, he, rfl⟩ := List.mem_map.mp hpermits
    obtain ⟨hentry, hpeer⟩ := List.mem_filter.mp he
    have hk : k.1 = peer := of_decide_eq_true hpeer
    rw [← hk]
    refine h.circuits.all k p ?_
    rwa [PermitQueues.queue_of_get? (Table.get?_eq_some_iff.mpr hentry)]

end RelayGate

namespace Relay

variable {r : Relay} {list : AccessList}

theorem access_reservationAccepted (r : Relay) (peer : PeerId) (renewed : Bool) :
    (r.reservationAccepted peer renewed).access = r.access := by
  rcases r.reservationAccepted_cases peer renewed with ⟨-, heq⟩ | ⟨-, held, outcome, heq, hheld⟩
  · rw [heq]
    rfl
  · rw [heq]
    rcases hheld with ⟨-, rfl⟩ | ⟨p, -, rfl⟩
    · rfl
    · cases renewed with
      | false => rfl
      | true => rfl

theorem access_reservationEnded (r : Relay) (peer : PeerId) :
    (r.reservationEnded peer).access = r.access := by
  obtain ⟨counted, hcounted, hended⟩ := r.reservationEnded_cases peer
  have haccess : counted.access = r.access := by
    rcases hcounted with rfl | rfl
    · rfl
    · rfl
  rcases hended with ⟨-, heq⟩ | ⟨-, heq⟩
  · rw [heq]
    exact haccess
  · rw [heq]
    exact haccess

/-- No operation changes the list in force; an admission counts its verdict. -/
theorem list_perform (r : Relay) (operation : Operation) :
    (r.perform operation).access.list = r.access.list := by
  cases operation with
  | admitReservation peer source now =>
    show (r.admitReservation peer source now).2.access.list = _
    rcases r.admitReservation_cases peer source now with
      ⟨permit, r', -, heq, -, h⟩ | ⟨e, r', heq, -, h⟩
    · rw [heq]
      exact h.list
    · rw [heq]
      exact h.list
  | admitCircuit peer source now =>
    show (r.admitCircuit peer source now).2.access.list = _
    rcases r.admitCircuit_cases peer source now with
      ⟨permit, r', -, heq, -, h⟩ | ⟨e, r', heq, -, h⟩
    · rw [heq]
      exact h.list
    · rw [heq]
      exact h.list
  | reservationAccepted peer renewed =>
    exact congrArg AccessControl.list (access_reservationAccepted r peer renewed)
  | reservationFailed peer =>
    show (r.reservationFailed peer).access.list = _
    rcases r.reservationFailed_cases peer with ⟨-, heq⟩ | ⟨p, -, heq⟩
    · rw [heq]
      rfl
    · rw [heq]
      rfl
  | reservationEnded peer => exact congrArg AccessControl.list (access_reservationEnded r peer)
  | circuitAccepted source destination =>
    show (r.circuitAccepted source destination).access.list = _
    obtain ⟨held, heq, hheld⟩ := r.circuitAccepted_cases source destination
    rw [heq]
    rcases hheld with ⟨-, rfl⟩ | ⟨p, -, rfl⟩
    · rfl
    · rfl
  | circuitDenied source status =>
    show (ite _ _ _ : Relay).access.list = _
    split
    · rfl
    · rfl
  | peerDisconnected peer =>
    show (ite _ _ _ : Relay).access.list = _
    split
    · rfl
    · rfl
  | stop =>
    show (r.stop).access.list = _
    unfold Relay.stop
    split
    · rfl
    · exact congrArg AccessControl.list (access_foldl_unprotect r _)
  | reservationDenied | circuitFailed | circuitClosed | expirePending => rfl

/-- A check under a list gives a permit that it grants to its owner. -/
theorem admits_granted (h : r.access.list = list) :
    r.Admits (fun peer p => list.Grants peer p.ip) fun peer p => list.Grants peer p.ip := by
  have hgrants : ∀ {peer request permit}, r.Passes peer request permit →
      list.Grants peer permit.ip := by
    intro peer request permit hpasses
    rw [hpasses.ip_eq, ← h]
    exact AccessList.grants_of_decide hpasses.allowed
  exact admits_of_passes (fun hpasses _ => hgrants hpasses) fun hpasses _ => hgrants hpasses

end Relay

/-! ## Runs -/

namespace SharedRelay

variable {ν : Type} [DecidableEq ν] {s : SharedRelay ν} {ceilings : Ceilings}
  {settings : RelaySettings} {list : AccessList}

/-- The gate keeps permits that a list grants to their owner. -/
abbrev KeepsGranted (ceilings : Ceilings) (settings : RelaySettings) (list : AccessList)
    (s : SharedRelay ν) : Prop :=
  s.Keeps ceilings settings (fun peer p => list.Grants peer p.ip)
    fun peer p => list.Grants peer p.ip

theorem list_step (s : SharedRelay ν) (step : Step ν) :
    (s.perform step).relay.access.list = s.relay.access.list := by
  cases step with
  | gate operation => exact Relay.list_perform s.relay operation
  | connections step => rfl
  | others step => rfl

theorem granted_run (hlist : s.relay.access.list = list)
    (h : s.KeepsGranted ceilings settings list) (steps : List (Step ν)) :
    (s.run steps).KeepsGranted ceilings settings list := by
  induction steps generalizing s with
  | nil => exact h
  | cons step rest ih =>
    exact ih ((list_step s step).trans hlist) (keeps_perform (Relay.admits_granted hlist) h step)

/-- At any time every permit that the gate keeps, pending or held, for a reservation or as the
source of a circuit, is granted to its owner from the address that it carries.  So a denied peer has
none, and when the default denies, a peer that is not allowed by name has none but from an allowed
network. -/
theorem run_grants (list : AccessList) (settings : RelaySettings) (connections : ConnectionManager)
    (ceilings : Ceilings) (steps : List (Step ν)) :
    let g := ((start list settings connections ceilings).run steps).relay.gate
    (∀ peer, ∀ permit ∈ g.permitsOf peer, list.Grants peer permit.ip) ∧
    (∀ peer ∈ list.denyPeers, g.permitsOf peer = []) ∧
    (list.defaultVerdict = .deny → ∀ peer, peer ∉ list.allowPeers →
      ∀ permit ∈ g.permitsOf peer, ∃ i, permit.ip = some i ∧
        ∃ s ∈ list.allowSubnets, s.contains i = true) := by
  intro g
  have hstart : (start list settings connections ceilings : SharedRelay ν).KeepsGranted ceilings
      settings list := keeps_start list settings connections ceilings _ _
  have hgrants : ∀ peer, ∀ permit ∈ g.permitsOf peer, list.Grants peer permit.ip :=
    fun peer permit hpermit => (granted_run rfl hstart steps).holds.of_mem_permitsOf hpermit
  refine ⟨hgrants, fun peer hdenied => ?_, fun hdeny peer hunlisted permit hpermit => ?_⟩
  · rw [List.eq_nil_iff_forall_not_mem]
    intro permit hpermit
    exact (hgrants peer permit hpermit).not_denied hdenied
  · rcases (hgrants peer permit hpermit).reason with hallowed | hsubnet | hdefault
    · exact absurd hallowed hunlisted
    · exact hsubnet
    · rw [hdeny] at hdefault
      exact Verdict.noConfusion hdefault

/-- From an allowed network a peer reserves and opens a circuit, and renews its reservation; the
destination of the circuit is denied itself. -/
theorem run_grants_subnet :
    let a : PeerId := ⟨.sha256, [1]⟩
    let b : PeerId := ⟨.sha256, [2]⟩
    let list : AccessList :=
      ⟨[], [b], [.v4 (.ofOctets 10 0 0 0) 8], none, some 4, true⟩
    let source : Address := ⟨[.ip4 (.ofOctets 10 1 2 3), .tcp 4001]⟩
    let steps : List (Step Nat) := [
      .gate (.admitReservation a source 0), .gate (.reservationAccepted a false),
      .gate (.admitReservation b source 1), .gate (.admitCircuit a source 2),
      .gate (.circuitAccepted a b), .gate (.admitReservation a source 3),
      .gate (.reservationAccepted a true)]
    let g := ((start list .standard (.ofMarks .standard) .unlimited).run steps).relay.gate
    let permit : Permit := ⟨some (.v4 (.ofOctets 10 1 2 3)), 3, Relay.hopGuard 0 a⟩
    permit ∈ g.permitsOf a ∧ list.Grants a permit.ip ∧ g.permitsOf b = [] := by
  intro a b list source steps g permit
  have hpermit : permit ∈ g.permitsOf a := by
    decide +kernel
  obtain ⟨hgrants, hdenied, -⟩ := run_grants list .standard (.ofMarks .standard) .unlimited steps
  exact ⟨hpermit, hgrants a permit hpermit, hdenied b (List.mem_singleton_self b)⟩

end SharedRelay

end CircuitRelay
