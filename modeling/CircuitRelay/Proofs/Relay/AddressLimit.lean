import CircuitRelay.Proofs.Relay.Permits
import Mathlib.Data.List.Perm.Subperm

/-!
# How many reservations one address has

A reservation is refused when its address has reached the limit.  The number that is compared with
the limit leaves out one held reservation of the asking peer, because the request may be a renewal.
So a peer that holds a reservation may be admitted at the limit, and its address then has one permit
more than the limit.  It never has two more: however many peers are behind the address, each of them
is refused once the number without its own one reaches the limit.

* `Loses`, `Reserves`: what an operation does to the permits for reservations.  It adds none, or
  one that a check gave.
* `reserves_perform`: one case for each operation.
* `run_recordedFrom`: the limit along a run, and what an admission found.
-/

namespace CircuitRelay

/-- What is left of some permits is part of them. -/
theorem Permit.subperm_of_perm {l l' taken : List Permit} (h : l.Perm (taken ++ l')) :
    l'.Subperm l :=
  (List.sublist_append_right taken l').subperm.trans h.symm.subperm

/-- The permits of one key with an address are among all permits with it. -/
theorem PermitQueues.countP_queue_le {κ : Type} [DecidableEq κ] (q : PermitQueues κ) (k : κ)
    (ip : Ip) : (q.queue k).countP (fun p => decide (p.ip = some ip)) ≤ q.countFrom ip := by
  rw [countFrom, (permits_erase q k).countP_eq, List.countP_append]
  exact Nat.le_add_right _ _

namespace RelayGate

/-- All permits for reservations, held and pending. -/
def reservationPermits (g : RelayGate) : List Permit :=
  g.reservations.permits ++ g.pendingReservations.permits

/-- How many permits for reservations, held and pending, carry an address. -/
def recordedFrom (g : RelayGate) (ip : Ip) : Nat :=
  g.reservations.countFrom ip + g.pendingReservations.countFrom ip

theorem recordedFrom_eq (g : RelayGate) (ip : Ip) :
    g.recordedFrom ip = g.reservationPermits.countP fun p => decide (p.ip = some ip) :=
  List.countP_append.symm

/-- One held reservation of a peer can be left out without going below zero. -/
theorem reservationsFrom_add (g : RelayGate) (ip : Ip) (peer : PeerId) :
    g.reservationsFrom ip peer +
      min ((g.reservations.queue peer).countP fun p => decide (p.ip = some ip)) 1 =
        g.recordedFrom ip := by
  have hown := g.reservations.countP_queue_le peer ip
  rw [reservationsFrom, recordedFrom]
  omega

end RelayGate

namespace Relay

variable {r r' : Relay}

/-! ## What an operation does to the permits for reservations -/

/-- Every permit for a reservation of `r'` is one of `r`, and as often. -/
def Loses (r r' : Relay) : Prop :=
  r'.gate.reservationPermits.Subperm r.gate.reservationPermits

theorem Loses.of_tables
    (hheld : r'.gate.reservations.permits.Subperm r.gate.reservations.permits)
    (hpending : r'.gate.pendingReservations.permits.Subperm r.gate.pendingReservations.permits) :
    Loses r r' :=
  hheld.append hpending

theorem Loses.of_eq (h : r'.gate.reservationPermits = r.gate.reservationPermits) : Loses r r' := by
  rw [Loses, h]

/-- The relay `r'` has no new permit for a reservation, or one that a check gave. -/
def Reserves (r r' : Relay) : Prop :=
  Loses r r' ∨ ∃ peer source permit, Passes r peer (.reserve source) permit ∧
    r'.gate.reservationPermits.Perm (permit :: r.gate.reservationPermits)

theorem reserves_admitReservation (r : Relay) (peer : PeerId) (source : Address) (now : Instant) :
    Reserves r (r.admitReservation peer source now).2 := by
  rcases r.admitReservation_cases peer source now with
    ⟨permit, r', -, heq, hpasses, h⟩ | ⟨e, r', heq, -, h⟩
  · rw [heq]
    refine .inr ⟨peer, source, permit, hpasses, ?_⟩
    rw [← h.gate]
    have hpush := PermitQueues.permits_push r'.gate.pendingReservations peer permit
    exact (hpush.append_left _).trans List.perm_middle
  · have hsame : Loses r r' := .of_eq (congrArg RelayGate.reservationPermits h.gate)
    rw [heq]
    exact .inl hsame

theorem loses_admitCircuit (r : Relay) (peer : PeerId) (source : Address) (now : Instant) :
    Loses r (r.admitCircuit peer source now).2 := by
  rcases r.admitCircuit_cases peer source now with
    ⟨permit, r', -, heq, -, h⟩ | ⟨e, r', heq, -, h⟩
  · have hsame : Loses r r' := .of_eq (congrArg RelayGate.reservationPermits h.gate)
    rw [heq]
    exact hsame
  · have hsame : Loses r r' := .of_eq (congrArg RelayGate.reservationPermits h.gate)
    rw [heq]
    exact hsame

theorem perm_takePendingReservation (r : Relay) (peer : PeerId) :
    r.gate.reservationPermits.Perm ((r.takePendingReservation peer).1.toList ++
      (r.takePendingReservation peer).2.gate.reservationPermits) := by
  have htaken := PermitQueues.permits_takeOldest r.gate.pendingReservations peer
  refine (htaken.append_left r.gate.reservations.permits).trans ?_
  rw [← List.append_assoc]
  refine (List.perm_append_comm.append_right _).trans ?_
  rw [List.append_assoc]
  exact .refl _

theorem loses_takeReservation (r : Relay) (peer : PeerId) :
    Loses r (r.takeReservation peer).2 :=
  .of_tables (Permit.subperm_of_perm (PermitQueues.permits_takeOldest _ peer)) (.refl _)

/-- Holding a permit adds it; a renewal loses another one. -/
theorem subperm_holdReservation (r : Relay) (peer : PeerId) (permit : Permit) (renewed : Bool) :
    (r.holdReservation peer permit renewed).gate.reservationPermits.Subperm
      (permit :: r.gate.reservationPermits) := by
  have hpush : ∀ n : Relay, Loses r n → (n.mapGate fun g =>
      { g with reservations := g.reservations.push peer permit }).gate.reservationPermits.Subperm
        (permit :: r.gate.reservationPermits) := by
    intro n hn
    have hadded := PermitQueues.permits_push n.gate.reservations peer permit
    exact (hadded.append_right _).subperm.trans ((List.subperm_cons permit).mpr hn)
  cases renewed with
  | false => exact hpush r (.refl _)
  | true => exact hpush _ (loses_takeReservation r peer)

/-- An accepted permit moves, so that nothing is added. -/
theorem loses_reservationAccepted (r : Relay) (peer : PeerId) (renewed : Bool) :
    Loses r (r.reservationAccepted peer renewed) := by
  have htaken := perm_takePendingReservation r peer
  rcases r.reservationAccepted_cases peer renewed with ⟨-, heq⟩ | ⟨-, held, outcome, heq, hheld⟩
  · rw [heq]
    exact Permit.subperm_of_perm htaken
  · have hloses : Loses r held := by
      rcases hheld with ⟨-, rfl⟩ | ⟨p, hsome, rfl⟩
      · exact Permit.subperm_of_perm htaken
      · rw [hsome] at htaken
        exact (subperm_holdReservation _ peer p renewed).trans htaken.symm.subperm
    rw [heq]
    exact hloses

theorem loses_reservationFailed (r : Relay) (peer : PeerId) :
    Loses r (r.reservationFailed peer) := by
  have hloses : Loses r (r.takePendingReservation peer).2 :=
    Permit.subperm_of_perm (perm_takePendingReservation r peer)
  rcases r.reservationFailed_cases peer with ⟨-, heq⟩ | ⟨p, -, heq⟩
  · rw [heq]
    exact hloses
  · rw [heq]
    exact hloses

theorem loses_reservationEnded (r : Relay) (peer : PeerId) :
    Loses r (r.reservationEnded peer) := by
  obtain ⟨counted, hcounted, hended⟩ := r.reservationEnded_cases peer
  have hloses : Loses r counted := by
    rcases hcounted with rfl | rfl
    · exact loses_takeReservation r peer
    · exact loses_takeReservation r peer
  rcases hended with ⟨-, heq⟩ | ⟨-, heq⟩
  · rw [heq]
    exact hloses
  · rw [heq]
    exact hloses

theorem loses_circuitAccepted (r : Relay) (source destination : PeerId) :
    Loses r (r.circuitAccepted source destination) := by
  obtain ⟨held, heq, hheld⟩ := r.circuitAccepted_cases source destination
  rw [heq]
  rcases hheld with ⟨-, rfl⟩ | ⟨p, -, rfl⟩
  · exact .refl _
  · exact .refl _

theorem loses_circuitDenied (r : Relay) (source : PeerId) (status : Status) :
    Loses r (r.circuitDenied source status) := by
  show Loses r (ite _ _ _)
  split
  · exact .refl _
  · exact .refl _

theorem loses_peerDisconnected (r : Relay) (peer : PeerId) :
    Loses r (r.peerDisconnected peer) := by
  have herased : ∀ q : PermitQueues PeerId,
      (PermitQueues.permits (q.erase peer)).Subperm q.permits := fun q =>
    Permit.subperm_of_perm (PermitQueues.permits_erase q peer)
  unfold Relay.peerDisconnected
  show Loses r (ite _ _ _)
  split
  · exact .of_tables (herased _) (herased _)
  · exact .of_tables (herased _) (herased _)

theorem loses_stop (r : Relay) : Loses r r.stop := by
  unfold Relay.stop
  split
  · exact .refl _
  · exact .of_tables List.nil_subperm List.nil_subperm

/-- Only an admission adds a permit for a reservation. -/
theorem reserves_perform (r : Relay) (operation : Operation) :
    Reserves r (r.perform operation) := by
  cases operation with
  | admitReservation peer source now => exact reserves_admitReservation r peer source now
  | admitCircuit source address now => exact .inl (loses_admitCircuit r source address now)
  | reservationAccepted peer renewed => exact .inl (loses_reservationAccepted r peer renewed)
  | reservationFailed peer => exact .inl (loses_reservationFailed r peer)
  | reservationEnded peer => exact .inl (loses_reservationEnded r peer)
  | circuitAccepted source destination => exact .inl (loses_circuitAccepted r source destination)
  | circuitDenied source status => exact .inl (loses_circuitDenied r source status)
  | peerDisconnected peer => exact .inl (loses_peerDisconnected r peer)
  | expirePending now =>
    exact .inl (.of_tables (.refl _)
      (Permit.subperm_of_perm (PermitQueues.permits_retain _ (isFresh now))))
  | stop => exact .inl (loses_stop r)
  | reservationDenied | circuitFailed | circuitClosed => exact .inl (.refl _)

/-- An admission leaves out at most one permit when it compares with the limit, so that with its own
permit the address has at most one more than the limit. -/
theorem recordedFrom_perform (r : Relay) (operation : Operation) (ip : Ip) :
    (r.perform operation).gate.recordedFrom ip ≤
      max (r.gate.recordedFrom ip) (r.gate.settings.maxReservationsPerIp + 1) := by
  rw [RelayGate.recordedFrom_eq, RelayGate.recordedFrom_eq]
  rcases reserves_perform r operation with hloses | ⟨peer, source, permit, hpasses, hperm⟩
  · exact Nat.le_trans (hloses.countP_le _) (Nat.le_max_left _ _)
  · rw [hperm.countP_eq, List.countP_cons, ← RelayGate.recordedFrom_eq]
    split
    · rename_i hip
      have hbelow := hpasses.below rfl ip (of_decide_eq_true hip)
      have hadd := r.gate.reservationsFrom_add ip peer
      omega
    · exact Nat.le_max_left _ _

/-- A peer that holds no reservation from an address is admitted from it only below the limit. -/
theorem recordedFrom_lt_of_admitted {peer : PeerId} {source : Address} {now : Instant} {ip : Ip}
    (hsource : source.ip? = some ip) (hnone : ∀ p ∈ r.gate.reservations.queue peer, p.ip ≠ some ip)
    (hok : (r.admitReservation peer source now).1 = .ok ()) :
    r.gate.recordedFrom ip < r.gate.settings.maxReservationsPerIp := by
  rcases r.admitReservation_cases peer source now with
    ⟨permit, r', -, -, hpasses, -⟩ | ⟨e, r', heq, -⟩
  · have hbelow := hpasses.below rfl ip (hpasses.ip_eq.trans hsource)
    have hown : (r.gate.reservations.queue peer).countP (fun p => decide (p.ip = some ip)) = 0 := by
      rw [List.countP_eq_zero]
      intro p hp
      rw [decide_eq_true_eq]
      exact hnone p hp
    have hadd := r.gate.reservationsFrom_add ip peer
    omega
  · rw [heq] at hok
    cases hok

end Relay

/-! ## Runs -/

namespace SharedRelay

variable {ν : Type} [DecidableEq ν] {s : SharedRelay ν} {ceilings : Ceilings}
  {settings : RelaySettings}

/-- An address never has more than one permit above the limit. -/
theorem recordedFrom_run (h : s.Keeps ceilings settings (fun _ _ => True) fun _ _ => True) (ip : Ip)
    (hle : s.relay.gate.recordedFrom ip ≤ settings.maxReservationsPerIp + 1)
    (steps : List (Step ν)) :
    (s.run steps).relay.gate.recordedFrom ip ≤ settings.maxReservationsPerIp + 1 := by
  induction steps generalizing s with
  | nil => exact hle
  | cons step rest ih =>
    have hkeeps := keeps_perform s.relay.admits_true h step
    refine ih hkeeps ?_
    cases step with
    | gate operation =>
      have hstep := Relay.recordedFrom_perform s.relay operation ip
      rw [h.settings_eq] at hstep
      exact Nat.le_trans hstep (Nat.max_le.mpr ⟨hle, Nat.le_refl _⟩)
    | connections step => exact hle
    | others step => exact hle

/-- Along every run: no address ever carries more permits for reservations, held and pending and of
all peers, than the limit and one; a peer that holds none from an address is admitted from it only
while fewer than the limit are there; and the number that a check compares with the limit is the
true one, less one if the peer holds a reservation from the address. -/
theorem run_recordedFrom (list : AccessList) (settings : RelaySettings)
    (connections : ConnectionManager) (ceilings : Ceilings) (steps : List (Step ν)) :
    let r := ((start list settings connections ceilings).run steps).relay
    (∀ ip, r.gate.recordedFrom ip ≤ settings.maxReservationsPerIp + 1) ∧
    (∀ peer source now ip, source.ip? = some ip →
      (∀ permit ∈ r.gate.reservations.queue peer, permit.ip ≠ some ip) →
      (r.admitReservation peer source now).1 = .ok () →
        r.gate.recordedFrom ip < settings.maxReservationsPerIp) ∧
    (∀ ip peer, r.gate.reservationsFrom ip peer +
      min ((r.gate.reservations.queue peer).countP fun permit => decide (permit.ip = some ip)) 1 =
        r.gate.recordedFrom ip) := by
  intro r
  have hstart : (start list settings connections ceilings : SharedRelay ν).Keeps ceilings settings
      (fun _ _ => True) fun _ _ => True := keeps_start list settings connections ceilings _ _
  have hkeeps := keeps_run (fun r _ => r.admits_true) hstart steps
  refine ⟨fun ip => recordedFrom_run hstart ip (Nat.zero_le _) steps, ?_, ?_⟩
  · intro peer source now ip hsource hnone hok
    rw [← hkeeps.settings_eq]
    exact Relay.recordedFrom_lt_of_admitted hsource hnone hok
  · exact fun ip peer => r.gate.reservationsFrom_add ip peer

/-- Under a limit of one, a peer that holds a reservation and asks twice more is admitted once: its
address then carries two permits. -/
example :
    let a : PeerId := ⟨.sha256, [1]⟩
    let source : Address := ⟨[.ip4 (.ofOctets 10 1 2 3)]⟩
    let settings : RelaySettings := { RelaySettings.standard with maxReservationsPerIp := 1 }
    let steps : List (Step Nat) := [
      .gate (.admitReservation a source 0), .gate (.reservationAccepted a false),
      .gate (.admitReservation a source 1), .gate (.admitReservation a source 2)]
    ((start .open settings (.ofMarks .standard) .unlimited).run steps).relay.gate.recordedFrom
      (.v4 (.ofOctets 10 1 2 3)) = 2 := by
  decide +kernel

end SharedRelay

end CircuitRelay
