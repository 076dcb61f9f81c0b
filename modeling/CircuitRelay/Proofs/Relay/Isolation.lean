import CircuitRelay.Proofs.Relay.Protection

/-!
# A request leaves the other peers alone

The tables of the gate have a peer in every key, a protection is part of the standing of its peer,
and every operation but the passing of time and the end of the relay looks at one peer only.  What
could still reach another one is a permit that is released, since it gives back to the scope that it
was charged to.  But a permit is charged to the peer under whose key it is queued.

A request that is refused is refused at one of four places, the last of which comes after some
scopes of a chain were charged.  They give back what they got, so nothing remains but counts, and
scopes that were named and count nothing.

* `Touches`: what a charge along a chain of scopes reaches.
* `Share`: everything that the relay keeps for one peer.
* `share_perform`, `share_handle`: an operation or a report that names another peer keeps the share.
* `Refrains`, `refrains_admitReservation`, `refrains_admitCircuit`: refused requests.
* `run_isolates`: all of this after any run.
-/

namespace CircuitRelay

/-! ## What a charge reaches -/

namespace ResourceManager

variable {m m' m'' : ResourceManager} {amount : Amounts} {chain l : List ScopeName}
  {s : ScopeName}

/-- Beyond the scopes of a chain every scope is as it was, and no scope ceases to exist. -/
structure Touches (chain : List ScopeName) (m m' : ResourceManager) : Prop where
  beyond : ∀ s, s ∉ chain → m'.usage? s = m.usage? s
  found : ∀ s, (m.usage? s).isSome → (m'.usage? s).isSome

theorem Touches.refl (chain : List ScopeName) (m : ResourceManager) : Touches chain m m :=
  ⟨fun _ _ => rfl, fun _ => id⟩

theorem Touches.trans (h : Touches chain m m') (h' : Touches chain m' m'') :
    Touches chain m m'' :=
  ⟨fun s hs => (h'.beyond s hs).trans (h.beyond s hs), fun s hs => h'.found s (h.found s hs)⟩

theorem touches_setUsage (m : ResourceManager) (hs : s ∈ chain) (a : Amounts) :
    Touches chain m (m.setUsage s a) where
  beyond t ht := by
    have hne : s ≠ t := by
      rintro rfl
      exact ht hs
    rw [usage?_setUsage, if_neg hne]
  found t ht := by
    rw [usage?_setUsage]
    split
    · rfl
    · exact ht

theorem touches_recordRefusal (chain : List ScopeName) (m : ResourceManager) (k : ScopeKind)
    (r : Resource) : Touches chain m (m.recordRefusal k r) := by
  have hsame : ∀ s, (m.recordRefusal k r).usage? s = m.usage? s := by
    intro s
    cases s with
    | system | transient | peer | protocol => rfl
  exact ⟨fun s _ => hsame s, fun s hs => by rwa [hsame]⟩

theorem touches_discharge (m : ResourceManager) (amount : Amounts) (hs : s ∈ chain) :
    Touches chain m (m.discharge amount s) := by
  unfold discharge
  split
  · exact .refl chain m
  · exact touches_setUsage m hs _

theorem touches_dischargeAll (m : ResourceManager) (amount : Amounts) (hl : l ⊆ chain) :
    Touches chain m (m.dischargeAll amount l) := by
  induction l generalizing m with
  | nil => exact .refl chain m
  | cons s l ih =>
    rw [List.cons_subset] at hl
    exact (touches_discharge m amount hl.1).trans (ih (m.discharge amount s) hl.2)

/-- The walk along a chain, from any scope on. -/
theorem touches_chargeChain (m : ResourceManager) (amount : Amounts) {charged rest : List ScopeName}
    (hcharged : charged ⊆ chain) (hrest : rest ⊆ chain) :
    Touches chain m (m.chargeChain amount charged rest).2 := by
  induction rest generalizing m charged with
  | nil => exact .refl chain m
  | cons s rest ih =>
    rw [List.cons_subset] at hrest
    have hcharge : Touches chain m (m.charge amount s).2 := touches_setUsage m hrest.1 _
    rw [chargeChain]
    generalize m.charge amount s = outcome at hcharge ⊢
    obtain ⟨_ | r, n⟩ := outcome
    · have hnext : charged ++ [s] ⊆ chain :=
        List.append_subset.mpr ⟨hcharged, List.cons_subset.mpr ⟨hrest.1, List.nil_subset chain⟩⟩
      exact hcharge.trans (ih n hnext hrest.2)
    · exact hcharge.trans ((touches_dischargeAll n amount hcharged).trans
        (touches_recordRefusal chain _ s.kind r))

theorem touches_reserveStream (m : ResourceManager) (peer : PeerId) (protocol : String)
    (direction : Direction) (memory : Nat) :
    Touches [.peer peer, .protocol protocol, .system] m
      (m.reserveStream peer protocol direction memory).2 := by
  have htouch : ∀ s ∈ [ScopeName.peer peer, .protocol protocol, .system], ∀ m : ResourceManager,
      Touches [.peer peer, .protocol protocol, .system] m (m.touch s) :=
    fun s hs m => touches_setUsage m hs (m.usage s)
  have hnamed : Touches [.peer peer, .protocol protocol, .system] m (m.named peer protocol) :=
    (htouch (.peer peer) (by simp) m).trans (htouch (.protocol protocol) (by simp) _)
  refine hnamed.trans ?_
  show Touches _ _ ((m.named peer protocol).chargeAll _ _).2
  unfold chargeAll
  split
  · exact .refl ..
  · exact touches_chargeChain _ _ (List.nil_subset _) (List.Subset.refl _)

end ResourceManager

namespace Relay

open ResourceManager (Touches)

variable {r r' : Relay} {p q : PeerId}

/-! ## The share of a peer -/

/-- Everything that the relay and the managers under it keep for a peer. -/
structure Share where
  /-- Its reservations without an outcome, in the order of arrival. -/
  pendingReservations : List Permit
  /-- Its held reservations, oldest first. -/
  reservations : List Permit
  /-- The circuits that it asked for, without an outcome. -/
  pendingCircuits : List Permit
  /-- The running circuits of which it is the source, by destination. -/
  circuits : PeerId → List Permit
  /-- What is known about it, with the tags that protect it. -/
  standing : Connection.Standing
  /-- What its scope counts, if it exists. -/
  usage? : Option Amounts

/-- What the relay keeps for a peer. -/
def share (r : Relay) (peer : PeerId) : Share where
  pendingReservations := r.gate.pendingReservations.queue peer
  reservations := r.gate.reservations.queue peer
  pendingCircuits := r.gate.pendingCircuits.queue peer
  circuits destination := r.gate.circuits.queue (peer, destination)
  standing := r.connections.standing peer
  usage? := r.resources.usage? (.peer peer)

/-- The protection of a peer is part of its share. -/
theorem protects_of_share_eq (h : r'.share q = r.share q) : r'.Protects q ↔ r.Protects q := by
  have hstanding : r'.connections.standing q = r.connections.standing q :=
    congrArg Share.standing h
  rw [Protects, ConnectionManager.ProtectedBy, hstanding]
  exact Iff.rfl

/-- Whether a permit was charged to a peer. -/
def ChargedTo (peer : PeerId) (permit : Permit) : Prop := permit.guard.peer = peer

theorem admits_chargedTo (r : Relay) : r.Admits ChargedTo ChargedTo := by
  have hcharged : ∀ {r' peer memory permit}, Admitted r r' peer memory permit →
      ChargedTo peer permit := fun h => congrArg StreamGuard.peer h.guard
  exact admits_of_passes (fun _ h => hcharged h) fun _ h => hcharged h

/-! ## Helpers -/

@[simp] theorem share_recordReservation (o : RelayOutcome) :
    (r.recordReservation o).share q = r.share q := rfl

@[simp] theorem share_recordCircuit (o : RelayOutcome) :
    (r.recordCircuit o).share q = r.share q := rfl

theorem share_protect (hpq : p ≠ q) : (r.protect p).share q = r.share q := by
  have hstanding : (r.protect p).connections.standing q = r.connections.standing q :=
    (ConnectionManager.standing_changeStanding _ p _ q).trans (if_neg hpq)
  exact congrArg (fun standing => { r.share q with standing := standing }) hstanding

theorem share_unprotect (hpq : p ≠ q) : (r.unprotect p).share q = r.share q := by
  have hstanding : (r.unprotect p).connections.standing q = r.connections.standing q :=
    (ConnectionManager.standing_reduceStanding _ p rfl q).trans (if_neg hpq)
  exact congrArg (fun standing => { r.share q with standing := standing }) hstanding

/-- Permits give back to the peer that they were charged to. -/
theorem share_releaseAll (hpq : p ≠ q) {permits : List Permit}
    (h : ∀ permit ∈ permits, ChargedTo p permit) : (r.releaseAll permits).share q = r.share q := by
  induction permits generalizing r with
  | nil => rfl
  | cons permit permits ih =>
    have hbeyond : ScopeName.peer q ∉ permit.guard.scopes := by
      have hp : permit.guard.peer = p := h permit List.mem_cons_self
      simp [StreamGuard.scopes, hp, hpq.symm]
    have husage : (r.resources.releaseStream permit.guard).usage? (.peer q) =
        r.resources.usage? (.peer q) :=
      (ResourceManager.touches_dischargeAll _ _ (List.Subset.refl _)).beyond _ hbeyond
    have hfirst : { r with resources := r.resources.releaseStream permit.guard }.share q =
        r.share q := congrArg (fun usage => { r.share q with usage? := usage }) husage
    exact (ih fun permit' h' => h permit' (List.mem_cons_of_mem permit h')).trans hfirst

theorem share_pendingReservations {queues : PermitQueues PeerId}
    (h : queues.queue q = r.gate.pendingReservations.queue q) :
    (r.mapGate fun g => { g with pendingReservations := queues }).share q = r.share q :=
  congrArg (fun l => { r.share q with pendingReservations := l }) h

theorem share_reservations {queues : PermitQueues PeerId}
    (h : queues.queue q = r.gate.reservations.queue q) :
    (r.mapGate fun g => { g with reservations := queues }).share q = r.share q :=
  congrArg (fun l => { r.share q with reservations := l }) h

theorem share_pendingCircuits {queues : PermitQueues PeerId}
    (h : queues.queue q = r.gate.pendingCircuits.queue q) :
    (r.mapGate fun g => { g with pendingCircuits := queues }).share q = r.share q :=
  congrArg (fun l => { r.share q with pendingCircuits := l }) h

theorem share_circuits {queues : PermitQueues (PeerId × PeerId)}
    (h : ∀ d, queues.queue (q, d) = r.gate.circuits.queue (q, d)) :
    (r.mapGate fun g => { g with circuits := queues }).share q = r.share q :=
  congrArg (fun l => { r.share q with circuits := l }) (funext h)

theorem share_takePendingReservation (hpq : p ≠ q) :
    (r.takePendingReservation p).2.share q = r.share q :=
  share_pendingReservations ((PermitQueues.queue_takeOldest _ p q).trans (if_neg hpq))

theorem share_takeReservation (hpq : p ≠ q) : (r.takeReservation p).2.share q = r.share q :=
  share_reservations ((PermitQueues.queue_takeOldest _ p q).trans (if_neg hpq))

theorem share_takePendingCircuit (hpq : p ≠ q) :
    (r.takePendingCircuit p).2.share q = r.share q :=
  share_pendingCircuits ((PermitQueues.queue_takeOldest _ p q).trans (if_neg hpq))

/-- A renewal releases the oldest reservation of the same peer. -/
theorem share_holdReservation (hpq : p ≠ q) (howned : r.gate.reservations.Holds ChargedTo)
    (permit : Permit) (renewed : Bool) :
    (r.holdReservation p permit renewed).share q = r.share q := by
  have hpush : ∀ n : Relay, (n.mapGate fun g =>
      { g with reservations := g.reservations.push p permit }).share q = n.share q :=
    fun n => share_reservations ((PermitQueues.queue_push _ p q permit).trans (if_neg hpq))
  cases renewed with
  | false => exact hpush r
  | true =>
    have hreplaced : ∀ replaced ∈ (r.takeReservation p).1.toList, ChargedTo p replaced :=
      fun replaced h => howned.of_takeOldest (Option.mem_toList.mp h)
    exact (hpush _).trans ((share_releaseAll hpq hreplaced).trans (share_takeReservation hpq))

/-! ## Admission -/

theorem touches_chargeRequest (r : Relay) (peer : PeerId) (memory : Nat) (ip : Option Ip)
    (now : Instant) :
    Touches (hopChain peer) r.resources (r.chargeRequest peer memory ip now).2.resources := by
  have hstream : Touches (hopChain peer) r.resources _ :=
    ResourceManager.touches_reserveStream r.resources peer hopProtocol .inbound memory
  unfold chargeRequest
  generalize r.resources.reserveStream peer hopProtocol .inbound memory = outcome at hstream ⊢
  obtain ⟨e | guard, m⟩ := outcome
  · exact hstream
  · exact hstream

theorem touches_admitReservation (r : Relay) (peer : PeerId) (source : Address) (now : Instant) :
    Touches (hopChain peer) r.resources (r.admitReservation peer source now).2.resources := by
  have hcheck : Touches (hopChain peer) r.resources
      (r.checkReservation peer source now).2.resources := by
    unfold checkReservation
    obtain ⟨access, -, heq⟩ := consult_eq r peer (.reserve source)
    have hcharge : ∀ ip, Touches (hopChain peer) r.resources
        ({ r with access := access }.chargeRequest peer 0 ip now).2.resources :=
      fun ip => touches_chargeRequest { r with access := access } peer 0 ip now
    rw [heq]
    split
    · exact .refl ..
    · cases (r.access.list.decide peer (.reserve source)
        (r.connections.peerConnections peer)).1 with
      | deny => exact .refl ..
      | allow =>
        cases source.ip? with
        | none => exact hcharge none
        | some ip =>
          dsimp only
          split
          · exact .refl ..
          · exact hcharge (some ip)
  unfold admitReservation
  generalize r.checkReservation peer source now = outcome at hcheck ⊢
  obtain ⟨e | permit, r'⟩ := outcome
  · exact hcheck
  · exact hcheck

theorem touches_admitCircuit (r : Relay) (peer : PeerId) (source : Address) (now : Instant) :
    Touches (hopChain peer) r.resources (r.admitCircuit peer source now).2.resources := by
  have hcheck : Touches (hopChain peer) r.resources
      (r.checkCircuit peer source now).2.resources := by
    unfold checkCircuit
    obtain ⟨access, -, heq⟩ := consult_eq r peer (.connect source none)
    rw [heq]
    split
    · exact .refl ..
    · cases (r.access.list.decide peer (.connect source none)
        (r.connections.peerConnections peer)).1 with
      | deny => exact .refl ..
      | allow => exact touches_chargeRequest { r with access := access } ..
  unfold admitCircuit
  generalize r.checkCircuit peer source now = outcome at hcheck ⊢
  obtain ⟨e | permit, r'⟩ := outcome
  · exact hcheck
  · exact hcheck

/-- A check charges the peer that asks, and no other one. -/
theorem Surroundings.share_eq (h : Surroundings r r') (hpq : p ≠ q)
    (htouches : Touches (hopChain p) r.resources r'.resources) : r'.share q = r.share q := by
  have hbeyond : ScopeName.peer q ∉ hopChain p := by simp [hopChain, hpq.symm]
  rw [share, share, h.gate, h.connections, htouches.beyond _ hbeyond]

theorem share_admitReservation (hpq : p ≠ q) (source : Address) (now : Instant) :
    (r.admitReservation p source now).2.share q = r.share q := by
  have htouches := r.touches_admitReservation p source now
  rcases r.admitReservation_cases p source now with
    ⟨permit, r', -, heq, -, hadmitted⟩ | ⟨e, r', heq, -, hsame⟩
  · rw [heq] at htouches ⊢
    refine .trans ?_ (hadmitted.share_eq hpq htouches)
    exact share_pendingReservations ((PermitQueues.queue_push _ p q permit).trans (if_neg hpq))
  · rw [heq] at htouches ⊢
    exact hsame.share_eq hpq htouches

theorem share_admitCircuit (hpq : p ≠ q) (source : Address) (now : Instant) :
    (r.admitCircuit p source now).2.share q = r.share q := by
  have htouches := r.touches_admitCircuit p source now
  rcases r.admitCircuit_cases p source now with
    ⟨permit, r', -, heq, -, hadmitted⟩ | ⟨e, r', heq, -, hsame⟩
  · rw [heq] at htouches ⊢
    refine .trans ?_ (hadmitted.share_eq hpq htouches)
    exact share_pendingCircuits ((PermitQueues.queue_push _ p q permit).trans (if_neg hpq))
  · rw [heq] at htouches ⊢
    exact hsame.share_eq hpq htouches

/-- What a refused request leaves of the relay.  The gate may differ in its counts of outcomes, the
access control in its count of verdicts; no usage differs, and a scope that is new counts
nothing. -/
structure Refrains (r r' : Relay) : Prop where
  gate : ∃ reservations circuits,
    r'.gate = { r.gate with reservationOutcomes := reservations, circuitOutcomes := circuits }
  list : r'.access.list = r.access.list
  connections : r'.connections = r.connections
  usage : ∀ s, r'.resources.usage s = r.resources.usage s
  usage? : ∀ s, r'.resources.usage? s = r.resources.usage? s ∨
    r.resources.usage? s = none ∧ r'.resources.usage? s = some .zero
  ceilings : r'.resources.ceilings = r.resources.ceilings
  closed : r'.resources.closed = r.resources.closed

theorem Unchanged.refrains (h : Unchanged r r') {chain : List ScopeName}
    (htouches : Touches chain r.resources r'.resources) : Refrains r r' where
  gate := ⟨r.gate.reservationOutcomes, r.gate.circuitOutcomes, h.gate⟩
  list := h.list
  connections := h.connections
  usage := h.usage.usage
  usage? s := (h.usage.symm.usage?_eq (htouches.found s)).imp_left Eq.symm
  ceilings := h.usage.ceilings
  closed := h.usage.closed

theorem Refrains.recordReservation (h : Refrains r r') (o : RelayOutcome) :
    Refrains r (r'.recordReservation o) := by
  obtain ⟨reservations, circuits, hgate⟩ := h.gate
  refine ⟨⟨reservations.record o, circuits, ?_⟩, h.list, h.connections, h.usage, h.usage?,
    h.ceilings, h.closed⟩
  rw [Relay.recordReservation, gate_mapGate, hgate]

theorem Refrains.recordCircuit (h : Refrains r r') (o : RelayOutcome) :
    Refrains r (r'.recordCircuit o) := by
  obtain ⟨reservations, circuits, hgate⟩ := h.gate
  refine ⟨⟨reservations, circuits.record o, ?_⟩, h.list, h.connections, h.usage, h.usage?,
    h.ceilings, h.closed⟩
  rw [Relay.recordCircuit, gate_mapGate, hgate]

theorem refrains_admitReservation {peer : PeerId} {source : Address} {now : Instant} {e : Rejection}
    (h : r.admitReservation peer source now = (.error e, r')) : Refrains r r' := by
  have htouches := r.touches_admitReservation peer source now
  rcases r.admitReservation_cases peer source now with
    ⟨permit, n, -, heq, -⟩ | ⟨e', n, heq, -, hsame⟩
  · cases h.symm.trans heq
  · cases h.symm.trans heq
    rw [heq] at htouches
    exact Refrains.recordReservation (hsame.refrains htouches) e.outcome

theorem refrains_admitCircuit {peer : PeerId} {source : Address} {now : Instant} {e : Rejection}
    (h : r.admitCircuit peer source now = (.error e, r')) : Refrains r r' := by
  have htouches := r.touches_admitCircuit peer source now
  rcases r.admitCircuit_cases peer source now with
    ⟨permit, n, -, heq, -⟩ | ⟨e', n, heq, -, hsame⟩
  · cases h.symm.trans heq
  · cases h.symm.trans heq
    rw [heq] at htouches
    exact Refrains.recordCircuit (hsame.refrains htouches) e.outcome

/-! ## Outcomes -/

theorem share_reservationAccepted (hpq : p ≠ q) (howned : r.gate.Holds ChargedTo ChargedTo)
    (renewed : Bool) : (r.reservationAccepted p renewed).share q = r.share q := by
  have htaken := share_takePendingReservation (r := r) hpq
  rcases r.reservationAccepted_cases p renewed with ⟨-, heq⟩ | ⟨-, held, outcome, heq, hheld⟩
  · rw [heq]
    refine (share_releaseAll hpq fun permit h => ?_).trans htaken
    exact howned.pendingReservations.of_takeOldest (Option.mem_toList.mp h)
  · rw [heq, share_recordReservation, share_protect hpq]
    rcases hheld with ⟨-, rfl⟩ | ⟨permit, -, rfl⟩
    · exact htaken
    · have hkept : (r.takePendingReservation p).2.gate.reservations.Holds ChargedTo :=
        howned.reservations
      exact (share_holdReservation hpq hkept permit renewed).trans htaken

theorem share_reservationFailed (hpq : p ≠ q) (howned : r.gate.Holds ChargedTo ChargedTo) :
    (r.reservationFailed p).share q = r.share q := by
  have htaken := share_takePendingReservation (r := r) hpq
  rcases r.reservationFailed_cases p with ⟨-, heq⟩ | ⟨permit, hsome, heq⟩
  · rw [heq]
    exact htaken
  · have hpermit : ChargedTo p permit := howned.pendingReservations.of_takeOldest hsome
    rw [heq, share_recordReservation]
    refine (share_releaseAll hpq fun permit' h => ?_).trans htaken
    rwa [List.mem_singleton.mp h]

theorem share_reservationEnded (hpq : p ≠ q) (howned : r.gate.Holds ChargedTo ChargedTo) :
    (r.reservationEnded p).share q = r.share q := by
  have hreleased : ((r.takeReservation p).2.releaseAll (r.takeReservation p).1.toList).share q =
      r.share q := by
    refine (share_releaseAll hpq fun permit h => ?_).trans (share_takeReservation hpq)
    exact howned.reservations.of_takeOldest (Option.mem_toList.mp h)
  obtain ⟨counted, hcounted, hended⟩ := r.reservationEnded_cases p
  have hshare : counted.share q = r.share q := by
    rcases hcounted with rfl | rfl
    · exact hreleased
    · exact hreleased
  rcases hended with ⟨-, heq⟩ | ⟨-, heq⟩
  · rw [heq, hshare]
  · rw [heq, share_unprotect hpq, hshare]

theorem share_circuitAccepted (hpq : p ≠ q) (destination : PeerId) :
    (r.circuitAccepted p destination).share q = r.share q := by
  have htaken := share_takePendingCircuit (r := r) hpq
  obtain ⟨held, heq, hheld⟩ := r.circuitAccepted_cases p destination
  rw [heq, share_recordCircuit]
  rcases hheld with ⟨-, rfl⟩ | ⟨permit, -, rfl⟩
  · exact htaken
  · refine .trans (share_circuits fun d => ?_) htaken
    have hkey : (p, destination) ≠ (q, d) := fun h => hpq (congrArg Prod.fst h)
    exact (PermitQueues.queue_push _ _ _ permit).trans (if_neg hkey)

theorem share_circuitFailed (hpq : p ≠ q) (howned : r.gate.Holds ChargedTo ChargedTo) :
    (r.circuitFailed p).share q = r.share q := by
  refine (share_releaseAll hpq fun permit h => ?_).trans (share_takePendingCircuit hpq)
  exact howned.pendingCircuits.of_takeOldest (Option.mem_toList.mp h)

theorem share_circuitDenied (hpq : p ≠ q) (howned : r.gate.Holds ChargedTo ChargedTo)
    (status : Status) : (r.circuitDenied p status).share q = r.share q := by
  have hfailed : ((r.recordCircuit .denied).circuitFailed p).share q = r.share q :=
    share_circuitFailed hpq ⟨howned.1, howned.2, howned.3, howned.4⟩
  unfold circuitDenied
  show Relay.share (ite _ _ _) q = _
  split
  · rfl
  · exact hfailed

theorem share_circuitClosed (hpq : p ≠ q) (howned : r.gate.Holds ChargedTo ChargedTo)
    (destination : PeerId) : (r.circuitClosed p destination).share q = r.share q := by
  refine .trans (share_releaseAll hpq fun permit h => ?_) (share_circuits fun d => ?_)
  · exact howned.circuits.of_takeNewest (k := (p, destination)) (Option.mem_toList.mp h)
  · have hkey : (p, destination) ≠ (q, d) := fun h => hpq (congrArg Prod.fst h)
    exact (PermitQueues.queue_takeNewest _ _ _).trans (if_neg hkey)

theorem share_peerDisconnected (hpq : p ≠ q) (howned : r.gate.Holds ChargedTo ChargedTo) :
    (r.peerDisconnected p).share q = r.share q := by
  have herased : ∀ queues : PermitQueues PeerId,
      PermitQueues.queue (queues.erase p) q = queues.queue q :=
    fun queues => (PermitQueues.queue_erase queues p q).trans (if_neg hpq)
  let emptied := r.mapGate fun g =>
    { g with
      pendingReservations := g.pendingReservations.erase p
      pendingCircuits := g.pendingCircuits.erase p
      reservations := g.reservations.erase p }
  have hemptied : emptied.share q = r.share q := by
    rw [share, share, gate_mapGate, herased, herased, herased]
    rfl
  have hcharged : ∀ permit ∈ r.gate.pendingReservations.queue p ++
      r.gate.pendingCircuits.queue p ++ r.gate.reservations.queue p, ChargedTo p permit := by
    intro permit hpermit
    rw [List.mem_append, List.mem_append] at hpermit
    rcases hpermit with (hpermit | hpermit) | hpermit
    · exact howned.pendingReservations.all p permit hpermit
    · exact howned.pendingCircuits.all p permit hpermit
    · exact howned.reservations.all p permit hpermit
  have hreleased := (share_releaseAll (r := emptied) hpq hcharged).trans hemptied
  unfold peerDisconnected
  show Relay.share (ite _ _ _) q = _
  split
  · exact (share_unprotect hpq).trans hreleased
  · exact hreleased

/-! ## Operations -/

/-- The peer that an operation is about: who asks, holds a reservation, or is the source of a
circuit. -/
def Operation.peer? : Operation → Option PeerId
  | .admitReservation peer _ _ | .admitCircuit peer _ _ => some peer
  | .reservationAccepted peer _ | .reservationFailed peer | .reservationEnded peer => some peer
  | .circuitAccepted source _ | .circuitDenied source _ => some source
  | .circuitFailed source | .circuitClosed source _ => some source
  | .peerDisconnected peer => some peer
  | .reservationDenied | .expirePending _ | .stop => none

/-- An operation on one peer keeps the shares of all others. -/
theorem share_perform (howned : r.gate.Holds ChargedTo ChargedTo) {operation : Operation}
    (hp : operation.peer? = some p) (hpq : p ≠ q) :
    (r.perform operation).share q = r.share q := by
  cases operation with
  | reservationDenied | expirePending | stop => cases hp
  | admitReservation peer source now =>
    cases hp
    exact share_admitReservation hpq source now
  | admitCircuit peer source now =>
    cases hp
    exact share_admitCircuit hpq source now
  | reservationAccepted peer renewed =>
    cases hp
    exact share_reservationAccepted hpq howned renewed
  | reservationFailed peer =>
    cases hp
    exact share_reservationFailed hpq howned
  | reservationEnded peer =>
    cases hp
    exact share_reservationEnded hpq howned
  | circuitAccepted source destination =>
    cases hp
    exact share_circuitAccepted hpq destination
  | circuitDenied source status =>
    cases hp
    exact share_circuitDenied hpq howned status
  | circuitFailed source =>
    cases hp
    exact share_circuitFailed hpq howned
  | circuitClosed source destination =>
    cases hp
    exact share_circuitClosed hpq howned destination
  | peerDisconnected peer =>
    cases hp
    exact share_peerDisconnected hpq howned

/-- The peer whose request a report is about. -/
def Event.peer : Event → PeerId
  | .reservationAccepted peer _ | .reservationAcceptFailed peer => peer
  | .reservationDenied peer | .reservationDenyFailed peer => peer
  | .reservationClosed peer | .reservationTimedOut peer => peer
  | .circuitDenied peer _ _ | .circuitDenyFailed peer _ => peer
  | .circuitAccepted peer _ | .circuitOutboundFailed peer _ => peer
  | .circuitAcceptFailed peer _ | .circuitClosed peer _ => peer

/-- So does a report of the relay protocol. -/
theorem share_handle (howned : r.gate.Holds ChargedTo ChargedTo) {event : Event}
    (hpq : event.peer ≠ q) : (r.handle event).share q = r.share q := by
  cases event with
  | reservationAccepted peer renewed => exact share_reservationAccepted hpq howned renewed
  | reservationAcceptFailed peer => exact share_reservationFailed hpq howned
  | reservationClosed peer | reservationTimedOut peer => exact share_reservationEnded hpq howned
  | circuitDenied peer destination status => exact share_circuitDenied hpq howned status
  | circuitAccepted peer destination => exact share_circuitAccepted hpq destination
  | circuitAcceptFailed peer destination => exact share_circuitFailed hpq howned
  | circuitClosed peer destination => exact share_circuitClosed hpq howned destination
  | reservationDenied | reservationDenyFailed | circuitDenyFailed | circuitOutboundFailed => rfl

end Relay

/-! ## Runs -/

namespace SharedRelay

variable {ν : Type} [DecidableEq ν]

/-- At any time the relay keeps the requests of different peers apart.  An operation on one peer, or
a report about it, keeps whatever the relay has of another one: the permits for its reservations and
its circuits with their addresses and in their order, its standing, by which it is or is not
protected, and the usage of its scope.  A request that is refused leaves all permits, all standings
and the usage of every scope as they were, of its own peer and of all others. -/
theorem run_isolates (list : AccessList) (settings : RelaySettings)
    (connections : ConnectionManager) (ceilings : Ceilings) (steps : List (Step ν)) :
    let r := ((start list settings connections ceilings).run steps).relay
    (∀ operation p q, Relay.Operation.peer? operation = some p → p ≠ q →
      (r.perform operation).share q = r.share q ∧
      ((r.perform operation).Protects q ↔ r.Protects q)) ∧
    (∀ event q, Relay.Event.peer event ≠ q →
      (r.handle event).share q = r.share q ∧ ((r.handle event).Protects q ↔ r.Protects q)) ∧
    (∀ peer source now e r', r.admitReservation peer source now = (.error e, r') →
      r.Refrains r') ∧
    (∀ peer source now e r', r.admitCircuit peer source now = (.error e, r') →
      r.Refrains r') := by
  intro r
  have hkeeps := keeps_run (fun r _ => r.admits_chargedTo)
    (keeps_start list settings connections ceilings _ _) steps
  have howned : r.gate.Holds Relay.ChargedTo Relay.ChargedTo := hkeeps.holds
  refine ⟨fun operation p q hp hpq => ?_, fun event q hpq => ?_,
    fun _ _ _ _ _ h => Relay.refrains_admitReservation h,
    fun _ _ _ _ _ h => Relay.refrains_admitCircuit h⟩
  · have hshare := Relay.share_perform howned hp hpq
    exact ⟨hshare, Relay.protects_of_share_eq hshare⟩
  · have hshare := Relay.share_handle howned hpq
    exact ⟨hshare, Relay.protects_of_share_eq hshare⟩

end SharedRelay

end CircuitRelay
