import CircuitRelay.Proofs.Relay.Operation

/-!
# No permit is lost and none is released twice

A permit owns a charge in three scopes of the resource manager.  It enters the gate when a request
is admitted, moves between the four tables, and leaves when it is released; only then is its charge
given back.

`Keeps` is the invariant.  It says that the resource manager has the books of exactly the permits in
the tables and of some further guards, the `hand`.  A permit that an operation has taken out of a
table and not put back yet is in the hand, and so are the guards of others.  Each helper of the gate
is one lemma about how it moves permits between the tables and the hand, and an operation is a
sequence of helpers that ends with the hand it began with.

* `Keeps.take`, `Keeps.put`, `Keeps.releaseAll`: permits between the tables and the hand.
* `keeps_perform`, `keeps_run`: the invariant along a run.
-/

namespace CircuitRelay

/-- The guards of permits. -/
def Permit.guards (permits : List Permit) : List Guard := permits.map fun p => .stream p.guard

namespace RelayGate

/-- All permits of the gate. -/
def permits (g : RelayGate) : List Permit :=
  g.pendingReservations.permits ++ g.reservations.permits ++ g.pendingCircuits.permits ++
    g.circuits.permits

/-- Every permit for a reservation of a peer satisfies `R` with that peer, every permit for a
circuit satisfies `C` with its source, and no table keeps an empty queue. -/
structure Holds (R C : PeerId → Permit → Prop) (g : RelayGate) : Prop where
  pendingReservations : g.pendingReservations.Holds R
  reservations : g.reservations.Holds R
  pendingCircuits : g.pendingCircuits.Holds C
  circuits : g.circuits.Holds fun k => C k.1

/-- Permits that leave the four tables leave the gate. -/
theorem permits_perm {g g' : RelayGate} {a b c d : List Permit}
    (ha : g.pendingReservations.permits.Perm (a ++ g'.pendingReservations.permits))
    (hb : g.reservations.permits.Perm (b ++ g'.reservations.permits))
    (hc : g.pendingCircuits.permits.Perm (c ++ g'.pendingCircuits.permits))
    (hd : g.circuits.permits.Perm (d ++ g'.circuits.permits)) :
    g.permits.Perm (a ++ b ++ c ++ d ++ g'.permits) := by
  rw [List.perm_iff_count]
  intro p
  have hca := ha.count_eq p
  have hcb := hb.count_eq p
  have hcc := hc.count_eq p
  have hcd := hd.count_eq p
  rw [List.count_append] at hca hcb hcc hcd
  simp only [permits, List.count_append]
  omega

theorem permits_of_pendingReservations {g : RelayGate} {q : PermitQueues PeerId} {l : List Permit}
    (h : g.pendingReservations.permits.Perm (l ++ q.permits)) :
    g.permits.Perm (l ++ { g with pendingReservations := q }.permits) := by
  have hmove : g.permits.Perm
      (l ++ [] ++ [] ++ [] ++ { g with pendingReservations := q }.permits) :=
    permits_perm h (.refl _) (.refl _) (.refl _)
  rwa [List.append_nil, List.append_nil, List.append_nil] at hmove

theorem permits_of_reservations {g : RelayGate} {q : PermitQueues PeerId} {l : List Permit}
    (h : g.reservations.permits.Perm (l ++ q.permits)) :
    g.permits.Perm (l ++ { g with reservations := q }.permits) := by
  have hmove : g.permits.Perm ([] ++ l ++ [] ++ [] ++ { g with reservations := q }.permits) :=
    permits_perm (.refl _) h (.refl _) (.refl _)
  rwa [List.append_nil, List.append_nil] at hmove

theorem permits_of_pendingCircuits {g : RelayGate} {q : PermitQueues PeerId} {l : List Permit}
    (h : g.pendingCircuits.permits.Perm (l ++ q.permits)) :
    g.permits.Perm (l ++ { g with pendingCircuits := q }.permits) := by
  have hmove : g.permits.Perm ([] ++ [] ++ l ++ [] ++ { g with pendingCircuits := q }.permits) :=
    permits_perm (.refl _) (.refl _) h (.refl _)
  rwa [List.append_nil] at hmove

theorem permits_of_circuits {g : RelayGate} {q : PermitQueues (PeerId × PeerId)} {l : List Permit}
    (h : g.circuits.permits.Perm (l ++ q.permits)) :
    g.permits.Perm (l ++ { g with circuits := q }.permits) := by
  exact permits_perm (a := []) (b := []) (c := []) (.refl _) (.refl _) (.refl _) h

end RelayGate

namespace Relay

variable {r r' : Relay} {ceilings : Ceilings} {settings : RelaySettings}
  {R C : PeerId → Permit → Prop} {hand : List Guard} {moved : List Permit}

/-- The books of the resource manager are those of the permits in the tables and of the hand. -/
structure Keeps (ceilings : Ceilings) (settings : RelaySettings) (R C : PeerId → Permit → Prop)
    (hand : List Guard) (r : Relay) : Prop where
  settings_eq : r.gate.settings = settings
  holds : r.gate.Holds R C
  balanced : r.resources.Balanced ceilings (Permit.guards r.gate.permits ++ hand)

/-! ## Between the tables and the hand -/

/-- Permits leave the tables. -/
theorem Keeps.take (h : Keeps ceilings settings R C hand r)
    (hsettings : r'.gate.settings = r.gate.settings) (hresources : r'.resources = r.resources)
    (hholds : r'.gate.Holds R C) (hperm : r.gate.permits.Perm (moved ++ r'.gate.permits)) :
    Keeps ceilings settings R C (Permit.guards moved ++ hand) r' where
  settings_eq := hsettings.trans h.settings_eq
  holds := hholds
  balanced := by
    rw [hresources]
    refine h.balanced.perm ?_
    have hguards := (hperm.map fun p : Permit => Guard.stream p.guard).append_right hand
    rw [List.map_append] at hguards
    refine hguards.trans ?_
    rw [← List.append_assoc]
    exact List.perm_append_comm.append_right hand

/-- Permits enter the tables. -/
theorem Keeps.put (h : Keeps ceilings settings R C (Permit.guards moved ++ hand) r)
    (hsettings : r'.gate.settings = r.gate.settings) (hresources : r'.resources = r.resources)
    (hholds : r'.gate.Holds R C) (hperm : r'.gate.permits.Perm (moved ++ r.gate.permits)) :
    Keeps ceilings settings R C hand r' where
  settings_eq := hsettings.trans h.settings_eq
  holds := hholds
  balanced := by
    rw [hresources]
    refine h.balanced.perm ?_
    have hguards := (hperm.map fun p : Permit => Guard.stream p.guard).append_right hand
    rw [List.map_append] at hguards
    refine .trans ?_ hguards.symm
    rw [← List.append_assoc]
    exact List.perm_append_comm.append_right hand

/-- Nothing but the settings, the tables and the resource manager matters. -/
theorem Keeps.congr (h : Keeps ceilings settings R C hand r)
    (hsettings : r'.gate.settings = r.gate.settings) (hresources : r'.resources = r.resources)
    (hholds : r'.gate.Holds R C) (hpermits : r'.gate.permits = r.gate.permits) :
    Keeps ceilings settings R C hand r' := by
  refine ⟨hsettings.trans h.settings_eq, hholds, ?_⟩
  rw [hresources, hpermits]
  exact h.balanced

/-- A check that refused changes nothing that matters. -/
theorem Keeps.of_unchanged (h : Keeps ceilings settings R C hand r) (hr : Unchanged r r') :
    Keeps ceilings settings R C hand r' := by
  refine ⟨?_, ?_, ?_⟩
  · rw [hr.gate]
    exact h.settings_eq
  · rw [hr.gate]
    exact h.holds
  · rw [hr.gate]
    exact h.balanced.of_sameUsage hr.usage

/-- A check that admitted puts its permit into the hand. -/
theorem Keeps.of_admitted {peer : PeerId} {memory : Nat} {permit : Permit}
    (h : Keeps ceilings settings R C hand r) (hr : Admitted r r' peer memory permit) :
    Keeps ceilings settings R C (Permit.guards [permit] ++ hand) r' := by
  refine ⟨?_, ?_, ?_⟩
  · rw [hr.gate]
    exact h.settings_eq
  · rw [hr.gate]
    exact h.holds
  · rw [hr.gate]
    have hcharge : permit.guard.amount.IsCharge := by
      rw [hr.guard]
      exact Amounts.isCharge_stream .inbound memory
    have hfront : r'.resources.Balanced ceilings
        (.stream permit.guard :: (Permit.guards r.gate.permits ++ hand)) :=
      h.balanced.charged hr.charged hcharge nofun
    exact hfront.perm List.perm_middle.symm

/-- The order of the hand does not matter. -/
theorem Keeps.perm {hand' : List Guard} (h : Keeps ceilings settings R C hand r)
    (hp : hand.Perm hand') : Keeps ceilings settings R C hand' r :=
  ⟨h.settings_eq, h.holds, h.balanced.perm (hp.append_left _)⟩

/-- What permits of the hand took is given back. -/
theorem Keeps.releaseAll (h : Keeps ceilings settings R C (Permit.guards moved ++ hand) r) :
    Keeps ceilings settings R C hand (r.releaseAll moved) := by
  refine ⟨h.settings_eq, h.holds, ?_⟩
  have hfront : r.resources.Balanced ceilings
      (Permit.guards moved ++ (Permit.guards r.gate.permits ++ hand)) := by
    refine h.balanced.perm ?_
    rw [← List.append_assoc, ← List.append_assoc]
    exact List.perm_append_comm.append_right hand
  have hrelease : ∀ {m : ResourceManager} {gs : List Guard} (ps : List Permit),
      m.Balanced ceilings (Permit.guards ps ++ gs) →
        (ps.foldl (fun m p => m.releaseStream p.guard) m).Balanced ceilings gs := by
    intro m gs ps
    induction ps generalizing m with
    | nil => exact id
    | cons p ps ih => exact fun hm => ih (ResourceManager.Balanced.releaseIn hm)
  exact hrelease moved hfront

/-! ## Helpers -/

theorem Keeps.recordReservation (h : Keeps ceilings settings R C hand r) (o : RelayOutcome) :
    Keeps ceilings settings R C hand (r.recordReservation o) :=
  h.congr rfl rfl ⟨h.holds.1, h.holds.2, h.holds.3, h.holds.4⟩ rfl

theorem Keeps.recordCircuit (h : Keeps ceilings settings R C hand r) (o : RelayOutcome) :
    Keeps ceilings settings R C hand (r.recordCircuit o) :=
  h.congr rfl rfl ⟨h.holds.1, h.holds.2, h.holds.3, h.holds.4⟩ rfl

theorem Keeps.protect (h : Keeps ceilings settings R C hand r) (peer : PeerId) :
    Keeps ceilings settings R C hand (r.protect peer) :=
  h.congr rfl rfl h.holds rfl

theorem Keeps.unprotect (h : Keeps ceilings settings R C hand r) (peer : PeerId) :
    Keeps ceilings settings R C hand (r.unprotect peer) :=
  h.congr rfl rfl h.holds rfl

theorem Keeps.takePendingReservation (h : Keeps ceilings settings R C hand r) (peer : PeerId) :
    Keeps ceilings settings R C
      (Permit.guards (r.takePendingReservation peer).1.toList ++ hand)
      (r.takePendingReservation peer).2 := by
  refine h.take rfl rfl ⟨h.holds.1.takeOldest peer, h.holds.2, h.holds.3, h.holds.4⟩ ?_
  exact RelayGate.permits_of_pendingReservations (PermitQueues.permits_takeOldest _ peer)

theorem Keeps.takeReservation (h : Keeps ceilings settings R C hand r) (peer : PeerId) :
    Keeps ceilings settings R C
      (Permit.guards (r.takeReservation peer).1.toList ++ hand) (r.takeReservation peer).2 := by
  refine h.take rfl rfl ⟨h.holds.1, h.holds.2.takeOldest peer, h.holds.3, h.holds.4⟩ ?_
  exact RelayGate.permits_of_reservations (PermitQueues.permits_takeOldest _ peer)

theorem Keeps.takePendingCircuit (h : Keeps ceilings settings R C hand r) (peer : PeerId) :
    Keeps ceilings settings R C
      (Permit.guards (r.takePendingCircuit peer).1.toList ++ hand)
      (r.takePendingCircuit peer).2 := by
  refine h.take rfl rfl ⟨h.holds.1, h.holds.2, h.holds.3.takeOldest peer, h.holds.4⟩ ?_
  exact RelayGate.permits_of_pendingCircuits (PermitQueues.permits_takeOldest _ peer)

/-- A permit of the hand is held as a reservation. -/
theorem Keeps.holdReservation {peer : PeerId} {permit : Permit}
    (h : Keeps ceilings settings R C (Permit.guards [permit] ++ hand) r) (hpermit : R peer permit)
    (renewed : Bool) :
    Keeps ceilings settings R C hand (r.holdReservation peer permit renewed) := by
  have hpush : ∀ {n : Relay}, Keeps ceilings settings R C (Permit.guards [permit] ++ hand) n →
      Keeps ceilings settings R C hand
        (n.mapGate fun g => { g with reservations := g.reservations.push peer permit }) := by
    intro n hn
    refine hn.put rfl rfl ⟨hn.holds.1, hn.holds.2.push hpermit, hn.holds.3, hn.holds.4⟩ ?_
    exact RelayGate.permits_of_reservations (PermitQueues.permits_push _ peer permit)
  cases renewed with
  | false => exact hpush h
  | true => exact hpush (h.takeReservation peer).releaseAll

/-! ## Operations -/

theorem Keeps.admitReservation (h : Keeps ceilings settings R C hand r) {peer : PeerId}
    {source : Address} {now : Instant}
    (hR : ∀ permit r', r.checkReservation peer source now = (.ok permit, r') → R peer permit) :
    Keeps ceilings settings R C hand (r.admitReservation peer source now).2 := by
  rcases r.admitReservation_cases peer source now with
    ⟨permit, r', hcheck, heq, -, hadmitted⟩ | ⟨e, r', heq, -, hsame⟩
  · have hheld : Keeps ceilings settings R C (Permit.guards [permit] ++ hand) r' :=
      h.of_admitted hadmitted
    rw [heq]
    refine hheld.put rfl rfl
      ⟨hheld.holds.1.push (hR permit r' hcheck), hheld.holds.2, hheld.holds.3, hheld.holds.4⟩ ?_
    exact RelayGate.permits_of_pendingReservations (PermitQueues.permits_push _ peer permit)
  · rw [heq]
    exact (h.of_unchanged hsame).recordReservation e.outcome

theorem Keeps.admitCircuit (h : Keeps ceilings settings R C hand r) {peer : PeerId}
    {source : Address} {now : Instant}
    (hC : ∀ permit r', r.checkCircuit peer source now = (.ok permit, r') → C peer permit) :
    Keeps ceilings settings R C hand (r.admitCircuit peer source now).2 := by
  rcases r.admitCircuit_cases peer source now with
    ⟨permit, r', hcheck, heq, -, hadmitted⟩ | ⟨e, r', heq, -, hsame⟩
  · have hheld : Keeps ceilings settings R C (Permit.guards [permit] ++ hand) r' :=
      h.of_admitted hadmitted
    rw [heq]
    refine hheld.put rfl rfl
      ⟨hheld.holds.1, hheld.holds.2, hheld.holds.3.push (hC permit r' hcheck), hheld.holds.4⟩ ?_
    exact RelayGate.permits_of_pendingCircuits (PermitQueues.permits_push _ peer permit)
  · rw [heq]
    exact (h.of_unchanged hsame).recordCircuit e.outcome

theorem Keeps.reservationAccepted (h : Keeps ceilings settings R C hand r) (peer : PeerId)
    (renewed : Bool) :
    Keeps ceilings settings R C hand (r.reservationAccepted peer renewed) := by
  have htaken := h.takePendingReservation peer
  rcases r.reservationAccepted_cases peer renewed with ⟨-, heq⟩ | ⟨-, held, outcome, heq, hheld⟩
  · rw [heq]
    exact htaken.releaseAll
  · rw [heq]
    refine (Keeps.protect ?_ peer).recordReservation outcome
    rcases hheld with ⟨hnone, rfl⟩ | ⟨p, hsome, rfl⟩
    · rw [hnone] at htaken
      exact htaken
    · rw [hsome] at htaken
      exact htaken.holdReservation (h.holds.1.of_takeOldest hsome) renewed

theorem Keeps.reservationFailed (h : Keeps ceilings settings R C hand r) (peer : PeerId) :
    Keeps ceilings settings R C hand (r.reservationFailed peer) := by
  have htaken := h.takePendingReservation peer
  rcases r.reservationFailed_cases peer with ⟨hnone, heq⟩ | ⟨p, hsome, heq⟩
  · rw [hnone] at htaken
    rw [heq]
    exact htaken
  · rw [hsome] at htaken
    rw [heq]
    exact htaken.releaseAll.recordReservation .failed

theorem Keeps.reservationEnded (h : Keeps ceilings settings R C hand r) (peer : PeerId) :
    Keeps ceilings settings R C hand (r.reservationEnded peer) := by
  have hreleased := (h.takeReservation peer).releaseAll
  obtain ⟨counted, hcounted, hended⟩ := r.reservationEnded_cases peer
  have hkeeps : Keeps ceilings settings R C hand counted := by
    rcases hcounted with rfl | rfl
    · exact hreleased
    · exact hreleased.recordReservation .ended
  rcases hended with ⟨-, heq⟩ | ⟨-, heq⟩
  · rw [heq]
    exact hkeeps
  · rw [heq]
    exact hkeeps.unprotect peer

theorem Keeps.circuitAccepted (h : Keeps ceilings settings R C hand r)
    (source destination : PeerId) :
    Keeps ceilings settings R C hand (r.circuitAccepted source destination) := by
  have htaken := h.takePendingCircuit source
  obtain ⟨held, heq, hheld⟩ := r.circuitAccepted_cases source destination
  rw [heq]
  refine Keeps.recordCircuit ?_ .accepted
  rcases hheld with ⟨hnone, rfl⟩ | ⟨p, hsome, rfl⟩
  · rw [hnone] at htaken
    exact htaken
  · rw [hsome] at htaken
    refine htaken.put rfl rfl ⟨htaken.holds.1, htaken.holds.2, htaken.holds.3,
      htaken.holds.4.push (h.holds.3.of_takeOldest hsome)⟩ ?_
    exact RelayGate.permits_of_circuits (PermitQueues.permits_push _ _ p)

theorem Keeps.circuitFailed (h : Keeps ceilings settings R C hand r) (source : PeerId) :
    Keeps ceilings settings R C hand (r.circuitFailed source) :=
  (h.takePendingCircuit source).releaseAll

theorem Keeps.circuitDenied (h : Keeps ceilings settings R C hand r) (source : PeerId)
    (status : Status) : Keeps ceilings settings R C hand (r.circuitDenied source status) := by
  have hcounted := h.recordCircuit .denied
  unfold Relay.circuitDenied
  show Keeps _ _ _ _ _ (ite _ _ _)
  split
  · exact hcounted
  · exact hcounted.circuitFailed source

theorem Keeps.circuitClosed (h : Keeps ceilings settings R C hand r)
    (source destination : PeerId) :
    Keeps ceilings settings R C hand (r.circuitClosed source destination) := by
  have htaken : Keeps ceilings settings R C
      (Permit.guards (r.gate.circuits.takeNewest (source, destination)).1.toList ++ hand)
      (r.mapGate fun g =>
        { g with circuits := (r.gate.circuits.takeNewest (source, destination)).2 }) := by
    refine h.take rfl rfl ⟨h.holds.1, h.holds.2, h.holds.3, h.holds.4.takeNewest _⟩ ?_
    exact RelayGate.permits_of_circuits (PermitQueues.permits_takeNewest _ _)
  exact htaken.releaseAll.recordCircuit .closed

theorem Keeps.peerDisconnected (h : Keeps ceilings settings R C hand r) (peer : PeerId) :
    Keeps ceilings settings R C hand (r.peerDisconnected peer) := by
  have hemptied : Keeps ceilings settings R C
      (Permit.guards (r.gate.pendingReservations.queue peer ++
        r.gate.pendingCircuits.queue peer ++ r.gate.reservations.queue peer) ++ hand)
      (r.mapGate fun g =>
        { g with
          pendingReservations := g.pendingReservations.erase peer
          pendingCircuits := g.pendingCircuits.erase peer
          reservations := g.reservations.erase peer }) := by
    refine h.take rfl rfl
      ⟨h.holds.1.erase peer, h.holds.2.erase peer, h.holds.3.erase peer, h.holds.4⟩ ?_
    have horder : (r.gate.pendingReservations.queue peer ++ r.gate.reservations.queue peer ++
        r.gate.pendingCircuits.queue peer ++ []).Perm (r.gate.pendingReservations.queue peer ++
          r.gate.pendingCircuits.queue peer ++ r.gate.reservations.queue peer) := by
      rw [List.append_nil, List.append_assoc, List.append_assoc]
      exact List.perm_append_comm.append_left _
    refine .trans ?_ (horder.append_right _)
    exact RelayGate.permits_perm (PermitQueues.permits_erase _ peer)
      (PermitQueues.permits_erase _ peer) (PermitQueues.permits_erase _ peer) (.refl _)
  unfold Relay.peerDisconnected
  show Keeps _ _ _ _ _ (ite _ _ _)
  split
  · exact hemptied.releaseAll.unprotect peer
  · exact hemptied.releaseAll

theorem Keeps.expirePending (h : Keeps ceilings settings R C hand r) (now : Instant) :
    Keeps ceilings settings R C hand (r.expirePending now).2 := by
  have hkept : Keeps ceilings settings R C
      (Permit.guards ((r.gate.pendingReservations.retain (isFresh now)).1 ++
        (r.gate.pendingCircuits.retain (isFresh now)).1) ++ hand)
      (r.mapGate fun g =>
        { g with
          pendingReservations := (r.gate.pendingReservations.retain (isFresh now)).2
          pendingCircuits := (r.gate.pendingCircuits.retain (isFresh now)).2 }) := by
    refine h.take rfl rfl
      ⟨h.holds.1.retain _, h.holds.2, h.holds.3.retain _, h.holds.4⟩ ?_
    have hmoved : ((r.gate.pendingReservations.retain (isFresh now)).1 ++ [] ++
        (r.gate.pendingCircuits.retain (isFresh now)).1 ++ []) =
        (r.gate.pendingReservations.retain (isFresh now)).1 ++
          (r.gate.pendingCircuits.retain (isFresh now)).1 := by
      rw [List.append_nil, List.append_nil]
    rw [← hmoved]
    exact RelayGate.permits_perm (PermitQueues.permits_retain _ _) (.refl _)
      (PermitQueues.permits_retain _ _) (.refl _)
  exact hkept.releaseAll

theorem Keeps.stop (h : Keeps ceilings settings R C hand r) :
    Keeps ceilings settings R C hand r.stop := by
  unfold Relay.stop
  split
  · exact h
  · have hemptied : Keeps ceilings settings R C
        (Permit.guards (r.gate.reservations.permits ++ r.gate.pendingReservations.permits ++
          r.gate.circuits.permits ++ r.gate.pendingCircuits.permits) ++ hand)
        ((r.gate.reservations.keys.foldl Relay.unprotect r).mapGate fun g =>
          { g with
            closed := true
            pendingReservations := .empty
            reservations := .empty
            pendingCircuits := .empty
            circuits := .empty }) := by
      refine h.take ?_ (resources_foldl_unprotect r _) ⟨PermitQueues.holds_empty R,
        PermitQueues.holds_empty R, PermitQueues.holds_empty C, PermitQueues.holds_empty _⟩ ?_
      · rw [gate_mapGate, gate_foldl_unprotect]
      · rw [List.perm_iff_count]
        intro p
        show (RelayGate.permits _).count p = (_ ++ []).count p
        simp only [RelayGate.permits, List.count_append, List.append_nil]
        omega
    exact hemptied.releaseAll

/-- What the permits of admitted requests satisfy. -/
structure Admits (R C : PeerId → Permit → Prop) (r : Relay) : Prop where
  reservation : ∀ {peer source now permit r'},
    r.checkReservation peer source now = (.ok permit, r') → R peer permit
  circuit : ∀ {peer source now permit r'},
    r.checkCircuit peer source now = (.ok permit, r') → C peer permit

theorem admits_true (r : Relay) : r.Admits (fun _ _ => True) fun _ _ => True :=
  ⟨fun _ => trivial, fun _ => trivial⟩

/-- It is enough to know what a check found and what it charged. -/
theorem admits_of_passes
    (hR : ∀ {peer source permit r'}, Passes r peer (.reserve source) permit →
      Admitted r r' peer 0 permit → R peer permit)
    (hC : ∀ {peer source permit r'}, Passes r peer (.connect source none) permit →
      Admitted r r' peer r.gate.settings.circuitMemory permit → C peer permit) : r.Admits R C := by
  refine ⟨?_, ?_⟩
  · intro peer source now permit r' heq
    rcases r.checkReservation_cases peer source now with
      ⟨permit', r'', heq', hpasses, hadmitted⟩ | ⟨e, r'', heq', -⟩
    · rw [heq] at heq'
      cases heq'
      exact hR hpasses hadmitted
    · rw [heq] at heq'
      cases heq'
  · intro peer source now permit r' heq
    rcases r.checkCircuit_cases peer source now with
      ⟨permit', r'', heq', hpasses, hadmitted⟩ | ⟨e, r'', heq', -⟩
    · rw [heq] at heq'
      cases heq'
      exact hC hpasses hadmitted
    · rw [heq] at heq'
      cases heq'

/-- Every operation ends with the hand it began with. -/
theorem Keeps.perform (h : Keeps ceilings settings R C hand r) (hadmits : r.Admits R C)
    (operation : Operation) : Keeps ceilings settings R C hand (r.perform operation) := by
  cases operation with
  | admitReservation peer source now => exact h.admitReservation fun _ _ => hadmits.reservation
  | admitCircuit peer source now => exact h.admitCircuit fun _ _ => hadmits.circuit
  | reservationAccepted peer renewed => exact h.reservationAccepted peer renewed
  | reservationFailed peer => exact h.reservationFailed peer
  | reservationDenied => exact h.recordReservation .denied
  | reservationEnded peer => exact h.reservationEnded peer
  | circuitAccepted source destination => exact h.circuitAccepted source destination
  | circuitDenied source status => exact h.circuitDenied source status
  | circuitFailed source => exact h.circuitFailed source
  | circuitClosed source destination => exact h.circuitClosed source destination
  | peerDisconnected peer => exact h.peerDisconnected peer
  | expirePending now => exact h.expirePending now
  | stop => exact h.stop

end Relay

/-! ## Runs -/

namespace SharedRelay

variable {ν : Type} [DecidableEq ν] {s : SharedRelay ν} {ceilings : Ceilings}
  {settings : RelaySettings} {R C : PeerId → Permit → Prop}

/-- The relay keeps its permits beside the guards of the others. -/
def Keeps (ceilings : Ceilings) (settings : RelaySettings) (R C : PeerId → Permit → Prop)
    (s : SharedRelay ν) : Prop :=
  s.relay.Keeps ceilings settings R C s.guards.values

omit [DecidableEq ν] in
theorem keeps_start (list : AccessList) (settings : RelaySettings)
    (connections : ConnectionManager) (ceilings : Ceilings) (R C : PeerId → Permit → Prop) :
    Keeps ceilings settings R C (start list settings connections ceilings : SharedRelay ν) where
  settings_eq := rfl
  holds := ⟨PermitQueues.holds_empty R, PermitQueues.holds_empty R, PermitQueues.holds_empty C,
    PermitQueues.holds_empty _⟩
  balanced := ResourceManager.balanced_ofCeilings ceilings

theorem keeps_perform (hadmits : s.relay.Admits R C) (h : s.Keeps ceilings settings R C)
    (step : Step ν) : (s.perform step).Keeps ceilings settings R C := by
  cases step with
  | gate operation => exact Relay.Keeps.perform h hadmits operation
  | connections step => exact Relay.Keeps.congr h rfl rfl h.holds rfl
  | others step =>
    have hbefore : s.others.Balanced ceilings (Permit.guards s.relay.gate.permits) :=
      h.balanced.perm List.perm_append_comm
    have hafter := Holdings.balanced_perform hbefore step
    exact ⟨h.settings_eq, h.holds, hafter.perm List.perm_append_comm⟩

theorem keeps_run (hadmits : ∀ r : Relay, r.gate.settings = settings → r.Admits R C)
    (h : s.Keeps ceilings settings R C) (steps : List (Step ν)) :
    (s.run steps).Keeps ceilings settings R C := by
  induction steps generalizing s with
  | nil => exact h
  | cons step steps ih => exact ih (keeps_perform (hadmits s.relay h.settings_eq) h step)

end SharedRelay

end CircuitRelay
