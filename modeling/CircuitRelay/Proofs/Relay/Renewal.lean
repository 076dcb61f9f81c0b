import CircuitRelay.Proofs.Relay.Operation

/-!
# What a renewal does to the addresses of the held reservations

A renewal leaves the number of held reservations as it was: the fresh permit takes the place of an
old one.  The old one is the oldest of the peer, while the check before it left out one from the
address of the request.  These are the same as long as a peer reserves from one address.  A peer
with reservations from two addresses that renews the younger one loses the permit of the other
address, so that one address is counted too low from then on and the other one too high.

* `countFrom_push`, `countFrom_takeOldest`: the permits with an address.
* `reservations_renewed`: the held reservations after a renewal.
* `countFrom_renewed`: how many of them carry each address.
-/

namespace CircuitRelay

namespace PermitQueues

variable {κ : Type} [DecidableEq κ]

theorem countFrom_push (q : PermitQueues κ) (k : κ) (p : Permit) (ip : Ip) :
    (q.push k p).countFrom ip = q.countFrom ip + if p.ip = some ip then 1 else 0 := by
  rw [countFrom, (permits_push q k p).countP_eq, List.countP_cons, countFrom]
  simp only [decide_eq_true_eq]

theorem countFrom_takeOldest {q : PermitQueues κ} {k : κ} {p : Permit} {rest : List Permit}
    (h : q.queue k = p :: rest) (ip : Ip) :
    (q.takeOldest k).2.countFrom ip + (if p.ip = some ip then 1 else 0) = q.countFrom ip := by
  have hpermits : q.permits.Perm (p :: (q.takeOldest k).2.permits) := by
    have htaken := permits_takeOldest q k
    rwa [fst_takeOldest, h] at htaken
  rw [countFrom, countFrom, hpermits.countP_eq, List.countP_cons]
  simp only [decide_eq_true_eq]

end PermitQueues

namespace Relay

variable {r : Relay} {peer : PeerId} {source : Address} {now : Instant}

/-- Admits a reservation, and accepts it as a renewal at once. -/
def renew (r : Relay) (peer : PeerId) (source : Address) (now : Instant) : Relay :=
  (r.admitReservation peer source now).2.reservationAccepted peer true

/-- When nothing else is pending, the permit of an admitted renewal is held in the place of the
oldest one. -/
theorem reservations_renewed (hpending : r.gate.pendingReservations.queue peer = [])
    (hok : (r.admitReservation peer source now).1 = .ok ()) :
    ∃ permit, permit.ip = source.ip? ∧ (r.renew peer source now).gate.reservations =
      (r.gate.reservations.takeOldest peer).2.push peer permit := by
  rcases r.admitReservation_cases peer source now with
    ⟨permit, n, -, heq, hpasses, hadmitted⟩ | ⟨e, n, heq, -⟩
  · refine ⟨permit, hpasses.ip_eq, ?_⟩
    rw [renew, heq]
    let admitted := n.mapGate fun g =>
      { g with pendingReservations := g.pendingReservations.push peer permit }
    show (admitted.reservationAccepted peer true).gate.reservations = _
    have hopen : admitted.gate.closed = false :=
      (congrArg RelayGate.closed hadmitted.gate).trans hpasses.isOpen
    have htaken : (admitted.takePendingReservation peer).1 = some permit := by
      refine (PermitQueues.fst_takeOldest _ peer).trans ?_
      show (PermitQueues.queue (n.gate.pendingReservations.push peer permit) peer).head? = _
      rw [PermitQueues.queue_push, if_pos rfl, hadmitted.gate, hpending]
      rfl
    rcases admitted.reservationAccepted_cases peer true with
      ⟨hclosed, -⟩ | ⟨-, held, outcome, hrenewed, ⟨hnone, -⟩ | ⟨p, hsome, rfl⟩⟩
    · exact Bool.noConfusion (hopen.symm.trans hclosed)
    · cases htaken.symm.trans hnone
    · cases htaken.symm.trans hsome
      rw [hrenewed]
      show (n.gate.reservations.takeOldest peer).2.push peer permit = _
      rw [hadmitted.gate]
  · rw [heq] at hok
    cases hok

/-- A renewal moves one held reservation from the address of the oldest one of the peer to that of
the request.  So the held reservations of every address are as many as before exactly when the two
are the same. -/
theorem countFrom_renewed {oldest : Permit} {rest : List Permit}
    (hheld : r.gate.reservations.queue peer = oldest :: rest)
    (hpending : r.gate.pendingReservations.queue peer = [])
    (hok : (r.admitReservation peer source now).1 = .ok ()) :
    let renewed := r.renew peer source now
    (∀ ip, renewed.gate.reservations.countFrom ip + (if oldest.ip = some ip then 1 else 0) =
      r.gate.reservations.countFrom ip + if source.ip? = some ip then 1 else 0) ∧
    ((∀ ip, renewed.gate.reservations.countFrom ip = r.gate.reservations.countFrom ip) ↔
      oldest.ip = source.ip?) := by
  intro renewed
  have hcount : ∀ ip, renewed.gate.reservations.countFrom ip +
      (if oldest.ip = some ip then 1 else 0) =
        r.gate.reservations.countFrom ip + if source.ip? = some ip then 1 else 0 := by
    intro ip
    obtain ⟨permit, hip, hreservations⟩ := reservations_renewed hpending hok
    have htaken := PermitQueues.countFrom_takeOldest hheld ip
    show PermitQueues.countFrom _ ip + _ = _
    rw [hreservations, PermitQueues.countFrom_push, hip]
    omega
  refine ⟨hcount, fun hsame => ?_, fun heq ip => ?_⟩
  · refine Option.ext fun ip => ?_
    have hip := hcount ip
    rw [hsame] at hip
    have hone := Nat.add_left_cancel hip
    constructor
    · intro holdest
      by_contra hsource
      rw [if_pos holdest, if_neg hsource] at hone
      cases hone
    · intro hsource
      by_contra holdest
      rw [if_neg holdest, if_pos hsource] at hone
      cases hone
  · have hip := hcount ip
    rw [heq] at hip
    exact Nat.add_right_cancel hip

end Relay

/-! ## Runs -/

namespace SharedRelay

/-- A peer that reserves from one address only renews in place. -/
theorem countFrom_renewed_home :
    let a : PeerId := ⟨.sha256, [1]⟩
    let home : Ip := .v4 (.ofOctets 10 1 2 3)
    let fromHome : Address := ⟨[.ip4 (.ofOctets 10 1 2 3)]⟩
    let steps : List (Step Nat) := [
      .gate (.admitReservation a fromHome 0), .gate (.reservationAccepted a false),
      .gate (.admitReservation a fromHome 1), .gate (.reservationAccepted a false)]
    let r := ((start .open .standard (.ofMarks .standard) .unlimited).run steps).relay
    let oldest : Permit := ⟨some home, 0, Relay.hopGuard 0 a⟩
    r.gate.reservations.queue a = [oldest, ⟨some home, 1, Relay.hopGuard 0 a⟩] ∧
    r.gate.pendingReservations.queue a = [] ∧ (r.admitReservation a fromHome 2).1 = .ok () ∧
    ∀ ip, (r.renew a fromHome 2).gate.reservations.countFrom ip =
      r.gate.reservations.countFrom ip := by
  intro a home fromHome steps r oldest
  have hheld : r.gate.reservations.queue a =
      [oldest, ⟨some home, 1, Relay.hopGuard 0 a⟩] := by decide +kernel
  have hpending : r.gate.pendingReservations.queue a = [] := by decide +kernel
  have hok : (r.admitReservation a fromHome 2).1 = .ok () := by decide +kernel
  obtain ⟨-, hsame⟩ := Relay.countFrom_renewed hheld hpending hok
  have haddress : oldest.ip = fromHome.ip? := rfl
  exact ⟨hheld, hpending, hok, hsame.mpr haddress⟩

/-- A peer that reserves at home and then away renews away.  Its reservation from home is no longer
counted, and the one away is counted twice. -/
theorem renewal_miscounts :
    let a : PeerId := ⟨.sha256, [1]⟩
    let home : Ip := .v4 (.ofOctets 10 1 2 3)
    let away : Ip := .v4 (.ofOctets 192 168 7 9)
    let fromHome : Address := ⟨[.ip4 (.ofOctets 10 1 2 3)]⟩
    let fromAway : Address := ⟨[.ip4 (.ofOctets 192 168 7 9)]⟩
    let steps : List (Step Nat) := [
      .gate (.admitReservation a fromHome 0), .gate (.reservationAccepted a false),
      .gate (.admitReservation a fromAway 1), .gate (.reservationAccepted a false)]
    let r := ((start .open .standard (.ofMarks .standard) .unlimited).run steps).relay
    let renewed := r.renew a fromAway 2
    r.gate.closed = false ∧ (∃ permit ∈ r.gate.reservations.queue a, permit.ip = some away) ∧
    r.gate.pendingReservations.queue a = [] ∧ fromAway.ip? = some away ∧
    (r.admitReservation a fromAway 2).1 = .ok () ∧
    (r.gate.reservations.countFrom home = 1 ∧ r.gate.reservations.countFrom away = 1) ∧
    (renewed.gate.reservations.countFrom home = 0 ∧
      renewed.gate.reservations.countFrom away = 2) ∧
    ¬∀ ip, renewed.gate.reservations.countFrom ip = r.gate.reservations.countFrom ip := by
  intro a home away fromHome fromAway steps r renewed
  have hopen : r.gate.closed = false := by decide +kernel
  have hheld : ∃ permit ∈ r.gate.reservations.queue a, permit.ip = some away := by decide +kernel
  have hpending : r.gate.pendingReservations.queue a = [] := by decide +kernel
  have hok : (r.admitReservation a fromAway 2).1 = .ok () := by decide +kernel
  have hhome : r.gate.reservations.countFrom home = 1 := by decide +kernel
  have haway : r.gate.reservations.countFrom away = 1 := by decide +kernel
  have hhome' : renewed.gate.reservations.countFrom home = 0 := by decide +kernel
  have haway' : renewed.gate.reservations.countFrom away = 2 := by decide +kernel
  refine ⟨hopen, hheld, hpending, rfl, hok, ⟨hhome, haway⟩, ⟨hhome', haway'⟩, fun hsame => ?_⟩
  have hzero := (hsame home).symm.trans hhome'
  cases hhome.symm.trans hzero

end SharedRelay

end CircuitRelay
