import CircuitRelay.Proofs.Connection.Protection
import CircuitRelay.Proofs.Relay.Counters
import CircuitRelay.Proofs.Relay.Permits

/-!
# Whom the gate protects from pruning

The gate protects a peer when the relay accepts a reservation of it, and ends the protection with
its last held reservation.  The tag is one for all reservations of a peer, and the permits are in
another component, so the two can differ.

They differ in one way only.  The relay may accept a reservation whose permit is gone: it expired,
or another acceptance took it.  The peer is then protected although the gate holds no permit of it.
Such a peer is *unbacked*.  `unbacked` follows it along a run: an acceptance that finds neither a
pending nor a held permit starts it, and the next acceptance with a permit or the end of a
reservation stops it.  A disconnect and the end of the relay look at the held permits, find none,
and leave the protection in place.

* `Explained`: a peer is protected when it holds a reservation or is unbacked, and not otherwise.
* `explained_perform`, `explained_run`: the invariant, for one operation and along a run.
* `run_protects`: who holds a reservation is protected and no pass closes its connections.
* `run_unbacked`: who is protected after a disconnect, and after the end.
-/

namespace CircuitRelay

namespace PermitQueues

variable {κ : Type} [DecidableEq κ] {q : PermitQueues κ} {k : κ}

theorem lengths_eq_zero_iff : q.lengths k = 0 ↔ q.queue k = [] :=
  List.length_eq_zero_iff

/-- A tidy table has the keys that have permits. -/
theorem mem_keys_iff (h : ∀ k, q.get? k ≠ some []) : k ∈ q.keys ↔ q.lengths k ≠ 0 := by
  rw [Ne, lengths_eq_zero_iff, queue]
  cases hk : q.get? k with
  | none =>
    rw [Table.get?_eq_none_iff] at hk
    exact ⟨fun hmem => absurd hmem hk, fun hne => absurd rfl hne⟩
  | some l =>
    have hl : l ≠ [] := by
      rintro rfl
      exact h k hk
    refine ⟨fun _ => hl, fun _ => ?_⟩
    exact List.mem_map.mpr ⟨(k, l), Table.get?_eq_some_iff.mp hk, rfl⟩

end PermitQueues

namespace RelayCounters

variable {c : RelayCounters} {peer p : PeerId} {renewed : Bool}

theorem reservations_accepted_of_ne (hp : p ≠ peer) :
    (c.step (.reservationAccepted peer renewed)).reservations p = c.reservations p := by
  rw [step]
  split
  · rfl
  · exact Function.update_of_ne hp ..

/-- A peer without a reservation after an acceptance had none, neither pending nor held. -/
theorem reservations_accepted_eq_zero_iff :
    (c.step (.reservationAccepted peer renewed)).reservations peer = 0 ↔
      c.pendingReservations peer = 0 ∧ c.reservations peer = 0 := by
  rw [step]
  split
  · rename_i hzero
    exact (and_iff_right hzero).symm
  · rename_i hpending
    rw [reservations_setReservations]
    split
    · omega
    · omega

end RelayCounters

namespace Relay

open Function (update)

variable {r r' : Relay} {peer p : PeerId} {unbacked : PeerId → Bool}

/-! ## What the operations do to the protection -/

/-- Whether the gate protects a peer. -/
def Protects (r : Relay) (peer : PeerId) : Prop := r.connections.ProtectedBy peer protectionTag

theorem protects_protect : (r.protect peer).Protects p ↔ p = peer ∨ r.Protects p := by
  refine ConnectionManager.protectedBy_protect.trans ?_
  rw [and_iff_left rfl, eq_comm]
  exact Iff.rfl

theorem protects_unprotect : (r.unprotect peer).Protects p ↔ p ≠ peer ∧ r.Protects p := by
  refine ConnectionManager.protectedBy_unprotect.trans ?_
  rw [and_iff_left rfl, eq_comm]
  exact Iff.rfl

theorem protects_foldl_unprotect (peers : List PeerId) :
    (peers.foldl unprotect r).Protects p ↔ p ∉ peers ∧ r.Protects p := by
  induction peers generalizing r with
  | nil => exact (and_iff_right List.not_mem_nil).symm
  | cons peer peers ih =>
    refine ih.trans ?_
    rw [protects_unprotect, List.mem_cons, not_or, ← and_assoc, and_comm (a := p ∉ peers)]

/-- Only the connections matter. -/
theorem protects_congr (h : r'.connections = r.connections) : r'.Protects p ↔ r.Protects p := by
  rw [Protects, h]
  exact Iff.rfl

/-- While the relay runs, an acceptance protects the peer, whether or not a permit was pending. -/
theorem protects_reservationAccepted {renewed : Bool} (hopen : r.gate.closed = false) :
    (r.reservationAccepted peer renewed).Protects p ↔ p = peer ∨ r.Protects p := by
  rcases r.reservationAccepted_cases peer renewed with
    ⟨hclosed, -⟩ | ⟨-, held, outcome, heq, hheld⟩
  · exact Bool.noConfusion (hopen.symm.trans hclosed)
  · have hsame : held.Protects p ↔ r.Protects p := by
      rcases hheld with ⟨-, rfl⟩ | ⟨permit, -, rfl⟩
      · exact Iff.rfl
      · cases renewed with
        | false => exact Iff.rfl
        | true => exact Iff.rfl
    rw [heq]
    exact protects_protect.trans (or_congr_right hsame)

theorem connections_reservationAccepted_of_closed (hclosed : r.gate.closed = true) (peer : PeerId)
    (renewed : Bool) : (r.reservationAccepted peer renewed).connections = r.connections := by
  rcases r.reservationAccepted_cases peer renewed with ⟨-, heq⟩ | ⟨hopen, -⟩
  · rw [heq]
    rfl
  · exact Bool.noConfusion (hclosed.symm.trans hopen)

/-- The last reservation that ends takes the protection along; so does the end of one that the gate
never had. -/
theorem protects_reservationEnded :
    (r.reservationEnded peer).Protects p ↔
      ¬(p = peer ∧ r.counters.reservations peer - 1 = 0) ∧ r.Protects p := by
  obtain ⟨counted, hcounted, hended⟩ := r.reservationEnded_cases peer
  have hheld : counted.counters.reservations peer = r.counters.reservations peer - 1 := by
    have htaken := congrArg (·.reservations peer) (counters_takeReservation r peer)
    rw [RelayCounters.reservations_setReservations] at htaken
    rcases hcounted with rfl | rfl
    · exact htaken
    · exact htaken
  have hsame : counted.Protects p ↔ r.Protects p := by
    rcases hcounted with rfl | rfl
    · exact Iff.rfl
    · exact Iff.rfl
  rw [← hheld, ← hsame]
  rcases hended with ⟨hqueue, heq⟩ | ⟨hqueue, heq⟩
  · have hne : ¬counted.counters.reservations peer = 0 := fun hzero =>
      hqueue (PermitQueues.lengths_eq_zero_iff.mp hzero)
    rw [heq]
    exact (and_iff_right fun h => hne h.2).symm
  · have hzero : counted.counters.reservations peer = 0 :=
      PermitQueues.lengths_eq_zero_iff.mpr hqueue
    rw [heq, protects_unprotect, and_iff_left hzero]

/-- A disconnect ends the protection of a peer that holds a reservation, and of no other. -/
theorem protects_peerDisconnected (htidy : ∀ k, r.gate.reservations.get? k ≠ some []) :
    (r.peerDisconnected peer).Protects p ↔
      ¬(p = peer ∧ r.counters.reservations peer ≠ 0) ∧ r.Protects p := by
  have hheld : r.gate.reservations.contains peer = true ↔ r.counters.reservations peer ≠ 0 :=
    decide_eq_true_iff.trans (PermitQueues.mem_keys_iff htidy)
  unfold Relay.peerDisconnected
  show (ite _ _ _ : Relay).Protects p ↔ _
  split
  · rename_i hcontains
    rw [and_iff_left (hheld.mp hcontains)]
    exact protects_unprotect
  · rename_i hcontains
    exact (and_iff_right fun h => hcontains (hheld.mpr h.2)).symm

/-- The end of the relay ends the protection of the peers that hold a reservation, and of no
others. -/
theorem protects_stop (htidy : ∀ k, r.gate.reservations.get? k ≠ some [])
    (hopen : r.gate.closed = false) :
    r.stop.Protects p ↔ r.counters.reservations p = 0 ∧ r.Protects p := by
  unfold Relay.stop
  rw [hopen, if_neg Bool.false_ne_true]
  refine (protects_foldl_unprotect r.gate.reservations.keys).trans ?_
  rw [PermitQueues.mem_keys_iff htidy, not_not]
  exact Iff.rfl

/-! ## Unbacked peers -/

/-- Who is unbacked after an operation, if `unbacked` was before it. -/
def unbackedAfter (r : Relay) (unbacked : PeerId → Bool) : Operation → PeerId → Bool
  | .reservationAccepted peer _ =>
    if r.gate.closed then unbacked
    else update unbacked peer ((r.gate.pendingReservations.queue peer).isEmpty &&
      (r.gate.reservations.queue peer).isEmpty)
  | .reservationEnded peer => update unbacked peer false
  | _ => unbacked

/-- The gate protects the peers that hold a reservation and the unbacked ones, which hold none. -/
structure Explained (r : Relay) (unbacked : PeerId → Bool) : Prop where
  protects_iff : ∀ p, r.Protects p ↔ r.counters.reservations p ≠ 0 ∨ unbacked p = true
  held_eq_zero : ∀ p, unbacked p = true → r.counters.reservations p = 0

/-- Who is protected without a reservation is unbacked. -/
theorem Explained.unbacked_iff (h : r.Explained unbacked) (p : PeerId) :
    unbacked p = true ↔ r.counters.reservations p = 0 ∧ r.Protects p := by
  rw [h.protects_iff]
  constructor
  · exact fun hunbacked => ⟨h.held_eq_zero p hunbacked, .inr hunbacked⟩
  · rintro ⟨hnone, hheld | hunbacked⟩
    · exact absurd hnone hheld
    · exact hunbacked

/-- An operation that leaves the protection and the held reservations alone. -/
theorem Explained.congr (h : r.Explained unbacked)
    (hprotects : ∀ p, r'.Protects p ↔ r.Protects p)
    (hheld : r'.counters.reservations = r.counters.reservations) : r'.Explained unbacked := by
  refine ⟨fun p => ?_, fun p hp => ?_⟩
  · rw [hprotects, hheld]
    exact h.protects_iff p
  · rw [hheld]
    exact h.held_eq_zero p hp

/-- An operation on one peer. -/
theorem Explained.update (h : r.Explained unbacked) {b : Bool}
    (hprotects : ∀ p, p ≠ peer → (r'.Protects p ↔ r.Protects p))
    (hheld : ∀ p, p ≠ peer → r'.counters.reservations p = r.counters.reservations p)
    (hpeer : r'.Protects peer ↔ r'.counters.reservations peer ≠ 0 ∨ b = true)
    (hzero : b = true → r'.counters.reservations peer = 0) :
    r'.Explained (Function.update unbacked peer b) := by
  refine ⟨fun p => ?_, fun p hp => ?_⟩
  · rw [Function.update_apply]
    split
    · rename_i hp
      rw [hp]
      exact hpeer
    · rename_i hp
      rw [hprotects p hp, hheld p hp]
      exact h.protects_iff p
  · rw [Function.update_apply] at hp
    split at hp
    · rename_i hpeer'
      rw [hpeer']
      exact hzero hp
    · rename_i hne
      rw [hheld p hne]
      exact h.held_eq_zero p hp

theorem explained_reservationAccepted (h : r.Explained unbacked) (hempty : r.Emptied)
    (peer : PeerId) (renewed : Bool) :
    (r.reservationAccepted peer renewed).Explained
      (r.unbackedAfter unbacked (.reservationAccepted peer renewed)) := by
  have hcounters := congrArg RelayCounters.reservations
    (counters_reservationAccepted hempty peer renewed)
  rw [unbackedAfter]
  split
  · rename_i hclosed
    have hsame := connections_reservationAccepted_of_closed hclosed peer renewed
    refine h.congr (fun p => protects_congr hsame) ?_
    rw [hcounters, hempty hclosed]
    rfl
  · rename_i hopen
    rw [Bool.not_eq_true] at hopen
    have hnone : ((r.gate.pendingReservations.queue peer).isEmpty &&
        (r.gate.reservations.queue peer).isEmpty) = true ↔
          (r.reservationAccepted peer renewed).counters.reservations peer = 0 := by
      rw [hcounters, RelayCounters.reservations_accepted_eq_zero_iff, Bool.and_eq_true,
        List.isEmpty_iff, List.isEmpty_iff]
      exact and_congr PermitQueues.lengths_eq_zero_iff.symm PermitQueues.lengths_eq_zero_iff.symm
    refine h.update (fun p hp => ?_) (fun p hp => ?_) ?_ hnone.mp
    · exact (protects_reservationAccepted hopen).trans (or_iff_right hp)
    · rw [hcounters]
      exact RelayCounters.reservations_accepted_of_ne hp
    · rw [hnone]
      exact iff_of_true ((protects_reservationAccepted hopen).mpr (.inl rfl)) (ne_or_eq _ _)

theorem explained_reservationEnded (h : r.Explained unbacked) (peer : PeerId) :
    (r.reservationEnded peer).Explained (update unbacked peer false) := by
  have hcounters : (r.reservationEnded peer).counters.reservations =
      update r.counters.reservations peer (r.counters.reservations peer - 1) :=
    congrArg RelayCounters.reservations (counters_reservationEnded r peer)
  refine h.update (fun p hp => ?_) (fun p hp => ?_) ?_ nofun
  · exact protects_reservationEnded.trans (and_iff_right fun hboth => hp hboth.1)
  · rw [hcounters, Function.update_of_ne hp]
  · rw [hcounters, Function.update_self, protects_reservationEnded]
    constructor
    · rintro ⟨hleft, -⟩
      exact .inl fun hzero => hleft ⟨rfl, hzero⟩
    · rintro (hleft | hfalse)
      · have hheld : r.counters.reservations peer ≠ 0 := by
          omega
        exact ⟨fun hboth => hleft hboth.2, (h.protects_iff peer).mpr (.inl hheld)⟩
      · exact Bool.noConfusion hfalse

/-- An unbacked peer stays so when it disconnects. -/
theorem explained_peerDisconnected (h : r.Explained unbacked)
    (htidy : ∀ k, r.gate.reservations.get? k ≠ some []) (peer : PeerId) :
    (r.peerDisconnected peer).Explained unbacked := by
  have hcounters : (r.peerDisconnected peer).counters.reservations =
      update r.counters.reservations peer 0 :=
    congrArg RelayCounters.reservations (counters_peerDisconnected r peer)
  rw [← Function.update_eq_self peer unbacked]
  refine h.update (fun p hp => ?_) (fun p hp => ?_) ?_ fun _ => ?_
  · exact (protects_peerDisconnected htidy).trans (and_iff_right fun hboth => hp hboth.1)
  · rw [hcounters, Function.update_of_ne hp]
  · rw [hcounters, Function.update_self, protects_peerDisconnected htidy, and_iff_right rfl,
      not_not, h.unbacked_iff]
    exact (or_iff_right fun hne => hne rfl).symm
  · rw [hcounters, Function.update_self]

/-- So it does when the relay ends. -/
theorem explained_stop (h : r.Explained unbacked) (hempty : r.Emptied)
    (htidy : ∀ k, r.gate.reservations.get? k ≠ some []) : r.stop.Explained unbacked := by
  cases hclosed : r.gate.closed with
  | true =>
    have hsame : r.stop = r := if_pos hclosed
    rw [hsame]
    exact h
  | false =>
    have hzero : ∀ p, r.stop.counters.reservations p = 0 := fun p => by
      rw [counters_stop hempty]
      rfl
    refine ⟨fun p => ?_, fun p _ => hzero p⟩
    rw [protects_stop htidy hclosed, ← h.unbacked_iff, hzero]
    exact (or_iff_right fun hne => hne rfl).symm

/-- A check leaves the gate and the connections alone, and what follows it does not touch the held
reservations. -/
theorem Explained.of_surroundings {n : Relay} (h : r.Explained unbacked) (hn : Surroundings r n)
    (hconnections : r'.connections = n.connections)
    (hheld : r'.counters.reservations = n.counters.reservations) : r'.Explained unbacked := by
  refine h.congr (fun p => protects_congr (hconnections.trans hn.connections)) ?_
  rw [hheld]
  exact congrArg (·.counters.reservations) hn.gate

/-- Whom the gate protects after an operation, by whom it protected before. -/
theorem explained_perform (h : r.Explained unbacked) (hempty : r.Emptied)
    (htidy : ∀ k, r.gate.reservations.get? k ≠ some []) (operation : Operation) :
    (r.perform operation).Explained (r.unbackedAfter unbacked operation) := by
  cases operation with
  | admitReservation peer source now =>
    show (r.admitReservation peer source now).2.Explained unbacked
    rcases r.admitReservation_cases peer source now with
      ⟨permit, r', -, heq, -, hadmitted⟩ | ⟨e, r', heq, -, hsame⟩
    · rw [heq]
      exact h.of_surroundings hadmitted.toSurroundings rfl rfl
    · rw [heq]
      exact h.of_surroundings hsame.toSurroundings rfl rfl
  | admitCircuit peer source now =>
    show (r.admitCircuit peer source now).2.Explained unbacked
    rcases r.admitCircuit_cases peer source now with
      ⟨permit, r', -, heq, -, hadmitted⟩ | ⟨e, r', heq, -, hsame⟩
    · rw [heq]
      exact h.of_surroundings hadmitted.toSurroundings rfl rfl
    · rw [heq]
      exact h.of_surroundings hsame.toSurroundings rfl rfl
  | reservationAccepted peer renewed => exact explained_reservationAccepted h hempty peer renewed
  | reservationFailed peer =>
    show (r.reservationFailed peer).Explained unbacked
    rcases r.reservationFailed_cases peer with ⟨-, heq⟩ | ⟨permit, -, heq⟩
    · rw [heq]
      exact h.congr (fun _ => Iff.rfl) rfl
    · rw [heq]
      exact h.congr (fun _ => Iff.rfl) rfl
  | reservationEnded peer => exact explained_reservationEnded h peer
  | circuitAccepted source destination =>
    show (r.circuitAccepted source destination).Explained unbacked
    obtain ⟨held, heq, hheld⟩ := r.circuitAccepted_cases source destination
    rw [heq]
    rcases hheld with ⟨-, rfl⟩ | ⟨permit, -, rfl⟩
    · exact h.congr (fun _ => Iff.rfl) rfl
    · exact h.congr (fun _ => Iff.rfl) rfl
  | circuitDenied source status =>
    show (ite _ _ _ : Relay).Explained unbacked
    split
    · exact h.congr (fun _ => Iff.rfl) rfl
    · exact h.congr (fun _ => Iff.rfl) rfl
  | peerDisconnected peer => exact explained_peerDisconnected h htidy peer
  | stop => exact explained_stop h hempty htidy
  | reservationDenied | circuitFailed | circuitClosed | expirePending =>
    exact h.congr (fun _ => Iff.rfl) rfl

end Relay

/-! ## Runs -/

namespace SharedRelay

variable {ν : Type} [DecidableEq ν] {s : SharedRelay ν} {ceilings : Ceilings}
  {settings : RelaySettings} {u : PeerId → Bool} {R C : PeerId → Permit → Prop}

/-- Whether a step of others sets or clears the tag of the gate. -/
def Step.namesTag : Step ν → Bool
  | .connections step => step.names Relay.protectionTag
  | _ => false

/-- Who is unbacked after a step. -/
def unbackedAfter (s : SharedRelay ν) (u : PeerId → Bool) : Step ν → PeerId → Bool
  | .gate operation => s.relay.unbackedAfter u operation
  | _ => u

/-- Who is unbacked after a run. -/
def unbackedBy (s : SharedRelay ν) (u : PeerId → Bool) : List (Step ν) → PeerId → Bool
  | [] => u
  | step :: rest => (s.perform step).unbackedBy (s.unbackedAfter u step) rest

/-- Who is unbacked after a run that begins with nobody unbacked. -/
abbrev unbacked (s : SharedRelay ν) (steps : List (Step ν)) : PeerId → Bool :=
  s.unbackedBy (fun _ => false) steps

/-- Whether a step that accepts a reservation finds a pending permit of its peer; after the end none
is needed. -/
def Step.isExpected (s : SharedRelay ν) : Step ν → Bool
  | .gate (.reservationAccepted peer _) =>
    s.relay.gate.closed || !(s.relay.gate.pendingReservations.queue peer).isEmpty
  | _ => true

/-- Whether every acceptance of a run finds a pending permit. -/
def isExpected (s : SharedRelay ν) : List (Step ν) → Bool
  | [] => true
  | step :: rest => step.isExpected s && (s.perform step).isExpected rest

theorem explained_step (hkeeps : s.Keeps ceilings settings R C) (hempty : s.relay.Emptied)
    (h : s.relay.Explained u) {step : Step ν} (hstep : step.namesTag = false) :
    (s.perform step).relay.Explained (s.unbackedAfter u step) := by
  cases step with
  | gate operation =>
    exact Relay.explained_perform h hempty hkeeps.holds.reservations.tidy operation
  | connections step =>
    exact h.congr (fun _ => ConnectionManager.protectedBy_perform hstep) rfl
  | others step => exact h.congr (fun _ => Iff.rfl) rfl

theorem explained_run (hadmits : ∀ r : Relay, r.gate.settings = settings → r.Admits R C)
    (hkeeps : s.Keeps ceilings settings R C) (hempty : s.relay.Emptied)
    (h : s.relay.Explained u) (steps : List (Step ν))
    (hsteps : ∀ step ∈ steps, step.namesTag = false) :
    (s.run steps).relay.Explained (s.unbackedBy u steps) := by
  induction steps generalizing s u with
  | nil => exact h
  | cons step rest ih =>
    have hstep := explained_step hkeeps hempty h (hsteps step List.mem_cons_self)
    exact ih (keeps_perform (hadmits s.relay hkeeps.settings_eq) hkeeps step)
      (emptied_step hempty step) hstep fun step' hstep' =>
        hsteps step' (List.mem_cons_of_mem step hstep')

/-- In a run of expected acceptances nobody becomes unbacked. -/
theorem unbackedBy_of_expected (hnone : ∀ p, u p = false) {steps : List (Step ν)}
    (h : s.isExpected steps = true) (p : PeerId) : s.unbackedBy u steps p = false := by
  induction steps generalizing s u with
  | nil => exact hnone p
  | cons step rest ih =>
    obtain ⟨hstep, hrest⟩ := Bool.and_eq_true_iff.mp h
    refine ih (fun p' => ?_) hrest
    cases step with
    | gate operation =>
      cases operation with
      | reservationAccepted peer renewed =>
        show (if s.relay.gate.closed then _ else _ : PeerId → Bool) p' = false
        split
        · exact hnone p'
        · rename_i hopen
          have hpending := (Bool.or_eq_true_iff.mp hstep).resolve_left hopen
          rw [Bool.not_eq_true'] at hpending
          rw [Function.update_apply, hpending, Bool.false_and]
          split
          · rfl
          · exact hnone p'
      | reservationEnded peer =>
        show Function.update u peer false p' = false
        rw [Function.update_apply]
        split
        · rfl
        · exact hnone p'
      | _ => exact hnone p'
    | connections step => exact hnone p'
    | others step => exact hnone p'

omit [DecidableEq ν] in
theorem explained_start (list : AccessList) (settings : RelaySettings) (marks : Watermarks)
    (ceilings : Ceilings) :
    (start list settings (.ofMarks marks) ceilings : SharedRelay ν).relay.Explained
      fun _ => false := by
  refine ⟨fun p => ?_, nofun⟩
  constructor
  · exact fun hprotects => absurd hprotects List.not_mem_nil
  · rintro (hheld | hfalse)
    · exact absurd rfl hheld
    · exact Bool.noConfusion hfalse

/-- A run of a relay that alone uses its tag. -/
theorem explained_run_start (list : AccessList) (settings : RelaySettings) (marks : Watermarks)
    (ceilings : Ceilings) (steps : List (Step ν))
    (hsteps : ∀ step ∈ steps, step.namesTag = false) :
    let before : SharedRelay ν := start list settings (.ofMarks marks) ceilings
    let r := (before.run steps).relay
    r.Explained (before.unbacked steps) ∧ r.Emptied ∧
      ∀ k, r.gate.reservations.get? k ≠ some [] := by
  intro before r
  have hkeeps : before.Keeps ceilings settings (fun _ _ => True) fun _ _ => True :=
    keeps_start list settings (.ofMarks marks) ceilings _ _
  have hempty : before.relay.Emptied := fun hclosed => Bool.noConfusion hclosed
  have hexplained := explained_run (fun r _ => r.admits_true) hkeeps hempty
    (explained_start list settings marks ceilings) steps hsteps
  exact ⟨hexplained, emptied_run hempty steps,
    (keeps_run (fun r _ => r.admits_true) hkeeps steps).holds.reservations.tidy⟩

/-- While only the gate uses its tag, every peer that holds a reservation is protected at any time,
so that no pass returns or marks a connection of it.  If in addition every acceptance finds a
pending permit, the peers with the tag are exactly those that hold a reservation. -/
theorem run_protects (list : AccessList) (settings : RelaySettings) (marks : Watermarks)
    (ceilings : Ceilings) (steps : List (Step ν))
    (hsteps : ∀ step ∈ steps, step.namesTag = false) :
    let before : SharedRelay ν := start list settings (.ofMarks marks) ceilings
    let r := (before.run steps).relay
    (∀ peer, r.gate.reservations.queue peer ≠ [] →
      r.connections.isProtected peer = true ∧ ∀ now, r.connections.Spares now peer) ∧
    (before.isExpected steps = true → ∀ peer, r.connections.ProtectedBy peer Relay.protectionTag ↔
      r.gate.reservations.queue peer ≠ []) := by
  intro before r
  obtain ⟨hexplained, -, -⟩ := explained_run_start list settings marks ceilings steps hsteps
  have hheld : ∀ peer, r.counters.reservations peer ≠ 0 ↔ r.gate.reservations.queue peer ≠ [] :=
    fun peer => not_congr PermitQueues.lengths_eq_zero_iff
  refine ⟨fun peer hqueue => ?_, fun hexpected peer => ?_⟩
  · have hprotected : r.connections.isProtected peer = true :=
      ConnectionManager.isProtected_of_protectedBy
        ((hexplained.protects_iff peer).mpr (.inl ((hheld peer).mpr hqueue)))
    exact ⟨hprotected, ConnectionManager.spares_of_isProtected hprotected⟩
  · have hnone : before.unbacked steps peer = false :=
      unbackedBy_of_expected (fun _ => rfl) hexpected peer
    refine (hexplained.protects_iff peer).trans ((or_iff_left ?_).trans (hheld peer))
    rw [Bool.not_eq_true]
    exact hnone

/-- A pass under pressure closes the connection of the peer without a reservation. -/
theorem run_protects_trim :
    let a : PeerId := ⟨.sha256, [1]⟩
    let b : PeerId := ⟨.sha256, [2]⟩
    let marks : Watermarks := ⟨1, 2, .zero, .zero, by decide, by decide⟩
    let source : Address := ⟨[.ip4 (.ofOctets 10 1 2 3), .tcp 4001]⟩
    let steps : List (Step Nat) := [
      .connections (.connect 1 a .inbound 0), .connections (.connect 2 b .inbound 1),
      .gate (.admitReservation a source 2), .gate (.reservationAccepted a false),
      .connections (.protect b "dht"), .connections (.unprotect b "dht")]
    let r := ((start .open .standard (.ofMarks marks) .unlimited).run steps).relay
    (r.connections.trim 3).1 = [(b, 2)] ∧ r.connections.Spares 3 a ∧
      ¬r.connections.ProtectedBy b Relay.protectionTag := by
  intro a b marks source steps r
  have hheld : r.gate.reservations.queue a ≠ [] := by
    decide +kernel
  have hnone : ¬r.gate.reservations.queue b ≠ [] := by
    decide +kernel
  obtain ⟨hprotected, hexact⟩ := run_protects .open .standard marks .unlimited steps (by decide)
  exact ⟨by decide +kernel, (hprotected a hheld).2 3,
    fun htag => hnone ((hexact (by decide +kernel) b).mp htag)⟩

/-- While only the gate uses its tag, exactly the unbacked peers are still protected after their
disconnect, and after the end of the relay; and where every acceptance finds a pending permit,
nobody is unbacked. -/
theorem run_unbacked (list : AccessList) (settings : RelaySettings) (marks : Watermarks)
    (ceilings : Ceilings) (steps : List (Step ν))
    (hsteps : ∀ step ∈ steps, step.namesTag = false) :
    let before : SharedRelay ν := start list settings (.ofMarks marks) ceilings
    let r := (before.run steps).relay
    (∀ peer, (r.peerDisconnected peer).connections.ProtectedBy peer Relay.protectionTag ↔
      before.unbacked steps peer = true) ∧
    (r.gate.closed = false → ∀ peer, r.stop.connections.ProtectedBy peer Relay.protectionTag ↔
      before.unbacked steps peer = true) ∧
    (before.isExpected steps = true → ∀ peer, before.unbacked steps peer = false) := by
  intro before r
  obtain ⟨hexplained, hempty, htidy⟩ :=
    explained_run_start list settings marks ceilings steps hsteps
  refine ⟨fun peer => ?_, fun hopen peer => ?_, fun hexpected peer => ?_⟩
  · have hafter := Relay.explained_peerDisconnected hexplained htidy peer
    refine (hafter.protects_iff peer).trans (or_iff_right fun hheld => hheld ?_)
    rw [Relay.counters_peerDisconnected]
    exact Function.update_self ..
  · have hafter := Relay.explained_stop hexplained hempty htidy
    refine (hafter.protects_iff peer).trans (or_iff_right fun hheld => hheld ?_)
    rw [Relay.counters_stop hempty]
    rfl
  · exact unbackedBy_of_expected (fun _ => rfl) hexpected peer

/-- Two peers are accepted after half a minute, one of them after its permit expired. -/
theorem run_unbacked_expired :
    let a : PeerId := ⟨.sha256, [1]⟩
    let b : PeerId := ⟨.sha256, [2]⟩
    let source : Address := ⟨[.ip4 (.ofOctets 10 1 2 3), .tcp 4001]⟩
    let steps : List (Step Nat) := [
      .gate (.admitReservation a source 0), .gate (.admitReservation b source 1),
      .gate (.expirePending Relay.pendingTimeout.nanos), .gate (.reservationAccepted a false),
      .gate (.reservationAccepted b false)]
    let r := ((start .open .standard (.ofMarks .standard) .unlimited).run steps).relay
    ((r.peerDisconnected a).connections.ProtectedBy a Relay.protectionTag ∧
      r.stop.connections.ProtectedBy a Relay.protectionTag) ∧
    ¬(r.peerDisconnected b).connections.ProtectedBy b Relay.protectionTag ∧
      ¬r.stop.connections.ProtectedBy b Relay.protectionTag := by
  intro a b source steps r
  obtain ⟨hdisconnect, hstop, -⟩ :=
    run_unbacked .open .standard .standard .unlimited steps (by decide)
  have hend := hstop (by decide +kernel)
  have ha : (start .open .standard (.ofMarks .standard) .unlimited).unbacked steps a = true := by
    decide +kernel
  have hb : ¬(start .open .standard (.ofMarks .standard) .unlimited).unbacked steps b = true := by
    decide +kernel
  exact ⟨⟨(hdisconnect a).mpr ha, (hend a).mpr ha⟩,
    fun h => hb ((hdisconnect b).mp h), fun h => hb ((hend b).mp h)⟩

/-- A peer whose permit expired before the acceptance is protected after its disconnect, and after
the end of the relay. -/
theorem protected_after_disconnect_and_stop :
    let a : PeerId := ⟨.sha256, [1]⟩
    let steps : List (Step Nat) := [
      .gate (.admitReservation a ⟨[.ip4 (.ofOctets 34 120 1 1), .tcp 4001]⟩ 0),
      .gate (.expirePending Relay.pendingTimeout.nanos), .gate (.reservationAccepted a false)]
    let r := ((start .open .standard (.ofMarks .standard) .unlimited).run steps).relay
    r.gate.closed = false ∧
    (r.peerDisconnected a).connections.ProtectedBy a Relay.protectionTag ∧
    r.stop.connections.ProtectedBy a Relay.protectionTag := by
  decide +kernel

end SharedRelay

end CircuitRelay
