import CircuitRelay.Proofs.Connection.Closing
import CircuitRelay.Proofs.Connection.Counts
import Mathlib.Data.Nat.ModEq

/-!
# What a second report of a connection does

The swarm reports a connection once.  A second report of one that is tracked touches no counter, but
it has already given the connection a new record: with the peer, the direction and the time that it
names, and not selected for closing.  So it is ignored only if it says what the old record says.

If a pass had selected the connection, then its mark is lost, and the connection is open without
being counted as live.  Its end takes one from the live count a second time.  Along any run the live
count is therefore too low by the number of these reports, as far as a machine word can tell.

* `OffBy`: how far the live count is from the number of open records.
* `offBy_run`: the live count along any run, however often connections are reported.
* `Ignores`: a report changes neither the record nor anything that is seen later.
* `run_reports_again`: a second report at any time: when it is ignored, and what it does otherwise.
-/

namespace CircuitRelay

open Connection

namespace ConnectionManager

variable {m : ConnectionManager} {id : ConnectionId} {r : Record} {peer p : PeerId}
  {direction : Direction} {now : Instant} {k : Nat}

/-! ## How far the live count is off -/

/-- The live count is too low by a number, up to multiples of what a word holds. -/
def OffBy (m : ConnectionManager) (k : Nat) : Prop :=
  m.connectionCount + k ≡ openRecords m.records [MOD 2 ^ 64]

theorem offBy_ofMarks (marks : Watermarks) : (ofMarks marks).OffBy 0 := rfl

/-- Only the records and the live count matter. -/
theorem OffBy.congr {m' : ConnectionManager} (h : m.OffBy k) (hrecords : m'.records = m.records)
    (hlive : m'.live = m.live) : m'.OffBy k := by
  rw [OffBy, connectionCount, hlive, hrecords]
  exact h

/-- One more connection that is open and counted. -/
theorem OffBy.count {m' : ConnectionManager} (h : m.OffBy k)
    (hrecords : openRecords m'.records = openRecords m.records + 1)
    (hlive : m'.live = m.live + 1) : m'.OffBy k := by
  have hword : m'.connectionCount ≡ m.connectionCount + 1 [MOD 2 ^ 64] := by
    rw [connectionCount, hlive, UInt64.toNat_add]
    exact Nat.mod_modEq _ _
  rw [OffBy, hrecords]
  calc m'.connectionCount + k
    _ ≡ m.connectionCount + 1 + k [MOD 2 ^ 64] := hword.add_right k
    _ = m.connectionCount + k + 1 := Nat.add_right_comm ..
    _ ≡ openRecords m.records + 1 [MOD 2 ^ 64] := h.add_right 1

/-- One connection less that is open and counted.  The count may wrap here. -/
theorem OffBy.discount {m' : ConnectionManager} (h : m.OffBy k)
    (hrecords : openRecords m.records = openRecords m'.records + 1)
    (hlive : m'.live = m.live - 1) : m'.OffBy k := by
  have hword : m'.connectionCount + 1 ≡ m.connectionCount [MOD 2 ^ 64] := by
    have hback : m'.live + 1 = m.live := by rw [hlive, UInt64.sub_add_cancel]
    rw [connectionCount, connectionCount, ← hback, UInt64.toNat_add]
    exact (Nat.mod_modEq _ _).symm
  refine Nat.ModEq.add_right_cancel' 1 ?_
  rw [← hrecords]
  calc m'.connectionCount + k + 1
    _ = m'.connectionCount + 1 + k := Nat.add_right_comm ..
    _ ≡ m.connectionCount + k [MOD 2 ^ 64] := hword.add_right k
    _ ≡ openRecords m.records [MOD 2 ^ 64] := h

/-! ### Steps -/

theorem openRecords_insert (t : Table ConnectionId Record) (id : ConnectionId) (r : Record) :
    openRecords (t.insert id r) = openRecords (t.erase id) + if !r.closing then 1 else 0 :=
  Table.countP_values_insert t id r _

theorem openRecords_of_get? {t : Table ConnectionId Record} (h : t.get? id = some r) :
    openRecords t = openRecords (t.erase id) + if !r.closing then 1 else 0 :=
  Table.countP_values_of_get? h _

/-- A report of a connection that a pass has selected opens its record and counts nothing. -/
theorem offBy_connect (h : m.OffBy k) (id : ConnectionId) (peer : PeerId) (direction : Direction)
    (now : Instant) :
    (m.connect id peer direction now).OffBy
      (k + if (m.record? id).any (·.closing) then 1 else 0) := by
  cases hr : m.records.get? id with
  | none =>
    have hcontains : ¬m.records.contains id = true := by
      rw [Table.contains_iff, hr]
      exact Bool.false_ne_true
    rw [record?, hr, connect, if_neg hcontains]
    refine h.count ?_ rfl
    show openRecords (m.records.insert id _) = _
    rw [openRecords_insert, Table.erase_eq_self hr]
    rfl
  | some r =>
    have hcontains : m.records.contains id = true := by
      rw [Table.contains_iff, hr]
      rfl
    have hbefore := openRecords_of_get? hr
    have hafter := openRecords_insert m.records id ⟨peer, direction, now, false⟩
    rw [record?, hr, connect, if_pos hcontains, Option.any_some]
    cases hclosing : r.closing with
    | true =>
      rw [hclosing] at hbefore
      have hone : openRecords (m.records.insert id ⟨peer, direction, now, false⟩) =
          openRecords m.records + 1 := hafter.trans (congrArg (· + 1) hbefore.symm)
      show m.connectionCount + (k + 1) ≡ openRecords (m.records.insert id _) [MOD 2 ^ 64]
      rw [hone]
      exact h.add_right 1
    | false =>
      rw [hclosing] at hbefore
      show m.connectionCount + k ≡ openRecords (m.records.insert id _) [MOD 2 ^ 64]
      rw [hafter]
      exact h.trans (congrArg (· % 2 ^ 64) hbefore)

theorem live_disconnect (hr : m.record? id = some r) :
    (m.disconnect id).live = if r.closing then m.live else m.live - 1 := by
  rw [disconnect, show m.records.get? id = some r from hr]
  dsimp only
  cases r.closing with
  | true => rfl
  | false => rfl

theorem offBy_disconnect (h : m.OffBy k) (id : ConnectionId) : (m.disconnect id).OffBy k := by
  cases hr : m.record? id with
  | none =>
    rw [disconnect, show m.records.get? id = none from hr]
    exact h
  | some r =>
    have hbefore := openRecords_of_get? hr
    have hlive := live_disconnect hr
    rw [← m.records_disconnect id] at hbefore
    cases hclosing : r.closing with
    | true =>
      rw [hclosing] at hbefore hlive
      rw [OffBy, connectionCount, hlive]
      exact h.trans (congrArg (· % 2 ^ 64) hbefore)
    | false =>
      rw [hclosing] at hbefore hlive
      exact h.discount hbefore hlive

theorem offBy_select {s : List (PeerId × ConnectionId) × ConnectionManager} (h : s.2.OffBy k)
    (n : Nat) (c : Candidate) : (select n s c).2.OffBy k := by
  rcases select_cases n s c with heq | ⟨r, hr, hclosing, heq⟩
  · rw [heq]
    exact h
  · rw [heq]
    refine h.discount ?_ rfl
    show openRecords s.2.records = openRecords (s.2.records.insert c.id _) + 1
    rw [openRecords_of_get? hr, openRecords_insert, hclosing]
    rfl

theorem offBy_trim (h : m.OffBy k) (now : Instant) : (m.trim now).2.OffBy k := by
  have hwalk : ∀ (cs : List Candidate) (s : List (PeerId × ConnectionId) × ConnectionManager),
      s.2.OffBy k → (cs.foldl (select m.surplus) s).2.OffBy k := by
    intro cs
    induction cs with
    | nil => exact fun _ hs => hs
    | cons c cs ih => exact fun s hs => ih _ (offBy_select hs m.surplus c)
  unfold trim
  split
  · exact h
  · exact (hwalk (m.candidates now) ([], m) h).congr rfl rfl

/-! ### Runs -/

/-- Whether a step reports a connection that a pass has selected. -/
def Step.revives (m : ConnectionManager) : Step → Bool
  | .connect id _ _ _ => (m.record? id).any (·.closing)
  | _ => false

/-- How often a run reports a connection that a pass has selected. -/
def revivals (m : ConnectionManager) : List Step → Nat
  | [] => 0
  | step :: rest => (if step.revives m then 1 else 0) + (m.perform step).revivals rest

theorem offBy_perform (h : m.OffBy k) (step : Step) :
    (m.perform step).OffBy (k + if step.revives m then 1 else 0) := by
  cases step with
  | connect id peer direction now => exact offBy_connect h id peer direction now
  | disconnect id => exact offBy_disconnect h id
  | trim now => exact offBy_trim h now
  | protect | unprotect | tag | untag | close => exact h

/-- Along any run, every report of a connection that a pass has selected makes the live count too
low by one. -/
theorem offBy_run (h : m.OffBy k) (steps : List Step) :
    (m.run steps).OffBy (k + m.revivals steps) := by
  induction steps generalizing m k with
  | nil => exact h
  | cons step rest ih =>
    rw [revivals, ← Nat.add_assoc]
    exact ih (offBy_perform h step)

/-! ## A second report -/

/-- A report is ignored: the connection keeps its record and its phase, and whatever happens later,
passes return the same, and the counts are the same. -/
structure Ignores (m : ConnectionManager) (id : ConnectionId) (peer : PeerId)
    (direction : Direction) (now : Instant) : Prop where
  record : (m.connect id peer direction now).record? id = m.record? id
  phase : ∀ t, (m.connect id peer direction now).phase? id t = m.phase? id t
  returned : ∀ steps, (m.connect id peer direction now).returnedBy steps = m.returnedBy steps
  count : ∀ steps, ((m.connect id peer direction now).run steps).connectionCount =
    (m.run steps).connectionCount
  connections : ∀ steps p, ((m.connect id peer direction now).run steps).peerConnections p =
    (m.run steps).peerConnections p

theorem connect_of_tracked (hr : m.record? id = some r) (peer : PeerId) (direction : Direction)
    (now : Instant) :
    m.connect id peer direction now =
      { m with records := m.records.insert id ⟨peer, direction, now, false⟩ } := by
  have hcontains : m.records.contains id = true := by
    rw [Table.contains_iff, show m.records.get? id = some r from hr]
    rfl
  rw [connect, if_pos hcontains]

/-- A report that says what the record says changes nothing at all. -/
theorem connect_eq_self (hr : m.record? id = some ⟨peer, direction, now, false⟩) :
    m.connect id peer direction now = m := by
  rw [connect_of_tracked hr, Table.insert_eq_self hr]

theorem ignores_iff (hr : m.record? id = some r) :
    m.Ignores id peer direction now ↔ r = ⟨peer, direction, now, false⟩ := by
  constructor
  · intro h
    have hrecord := h.record
    rw [record?_connect, if_pos rfl, hr] at hrecord
    exact (Option.some.inj hrecord).symm
  · rintro rfl
    have hsame : m.connect id peer direction now = m := connect_eq_self hr
    exact ⟨by rw [hsame], fun _ => by rw [hsame], fun _ => by rw [hsame], fun _ => by rw [hsame],
      fun _ _ => by rw [hsame]⟩

/-- The end of a connection takes one from its peer. -/
theorem peerConnections_disconnect (hr : m.record? id = some r) (p : PeerId) :
    (m.disconnect id).peerConnections p = m.peerConnections p - if r.peer = p then 1 else 0 := by
  have hreduced : ∀ n : ConnectionManager, n.standings = m.standings →
      (n.reduceStanding r.peer .disconnect).peerConnections p =
        m.peerConnections p - if r.peer = p then 1 else 0 := by
    intro n hn
    rw [peerConnections_reduceStanding n r.peer rfl, peerConnections, standing, standing, hn]
    split
    · rename_i hp
      rw [← hp]
      rfl
    · rfl
  rw [disconnect, show m.records.get? id = some r from hr]
  dsimp only
  cases r.closing with
  | true => exact hreduced _ rfl
  | false => exact hreduced _ rfl

/-- Below zero a word goes on at its end. -/
theorem toNat_sub_one (live : UInt64) :
    (live - 1).toNat = if live.toNat = 0 then 2 ^ 64 - 1 else live.toNat - 1 := by
  have hlt := live.toNat_lt
  rw [UInt64.toNat_sub]
  show (2 ^ 64 - 1 + live.toNat) % 2 ^ 64 = _
  split
  · rename_i hzero
    rw [hzero]
  · omega

/-- After any run, also one that reports connections twice, the live count is as many too low as
there were reports of selected connections, up to multiples of what a word holds.

A second report counts nothing at once, and gives the connection a new record that is not selected
for closing.  It is ignored exactly if that is the old record.  When the connection ends later, this
is counted for the peer of the new record, and if a pass had selected the connection before, then it
is taken from the live count although it no longer was part of it. -/
theorem run_reports_again (marks : Watermarks) (steps : List Step) {id : ConnectionId} {r : Record}
    (hr : ((ofMarks marks).run steps).record? id = some r) (peer : PeerId)
    (direction : Direction) (now : Instant) :
    let m := (ofMarks marks).run steps
    let again := m.connect id peer direction now
    m.connectionCount + (ofMarks marks).revivals steps ≡
      (m.records.values.filter fun r => !r.closing).length [MOD 2 ^ 64] ∧
    again.connectionCount = m.connectionCount ∧
    (∀ p, again.peerConnections p = m.peerConnections p) ∧
    (∀ id', again.record? id' =
      if id = id' then some ⟨peer, direction, now, false⟩ else m.record? id') ∧
    (m.Ignores id peer direction now ↔ r = ⟨peer, direction, now, false⟩) ∧
    (∀ p, (m.disconnect id).peerConnections p =
      m.peerConnections p - if r.peer = p then 1 else 0) ∧
    (∀ p, (again.disconnect id).peerConnections p =
      m.peerConnections p - if peer = p then 1 else 0) ∧
    (r.closing = false →
      (again.disconnect id).connectionCount = (m.disconnect id).connectionCount) ∧
    (r.closing = true → (m.disconnect id).connectionCount = m.connectionCount ∧
      (again.disconnect id).connectionCount =
        if m.connectionCount = 0 then 2 ^ 64 - 1 else m.connectionCount - 1) := by
  intro m again
  have hagain : again = { m with records := m.records.insert id ⟨peer, direction, now, false⟩ } :=
    connect_of_tracked hr peer direction now
  have hnew : again.record? id = some ⟨peer, direction, now, false⟩ := by
    rw [record?_connect, if_pos rfl]
  have hpeers : ∀ p, again.peerConnections p = m.peerConnections p := by
    rw [hagain]
    exact fun _ => rfl
  have hlive : again.live = m.live := by rw [hagain]
  have hend : (again.disconnect id).live = m.live - 1 := by
    rw [live_disconnect hnew, hlive]
    rfl
  refine ⟨?_, congrArg UInt64.toNat hlive, hpeers, fun id' => record?_connect .., ignores_iff hr,
    peerConnections_disconnect hr, fun p => ?_, fun hopen => ?_, fun hclosing => ⟨?_, ?_⟩⟩
  · have hrun := offBy_run (offBy_ofMarks marks) steps
    rw [Nat.zero_add] at hrun
    rw [← List.countP_eq_length_filter]
    exact hrun
  · rw [peerConnections_disconnect hnew, hpeers]
  · rw [connectionCount, connectionCount, hend, live_disconnect hr, hopen]
    rfl
  · rw [connectionCount, live_disconnect hr, hclosing]
    rfl
  · rw [connectionCount, hend]
    exact toNat_sub_one m.live

/-- Two connections of one peer; a pass selects the first, and the first is reported again as one of
another peer. -/
theorem run_reports_again_selected :
    let a : PeerId := ⟨.sha256, [1]⟩
    let b : PeerId := ⟨.sha256, [2]⟩
    let marks : Watermarks := ⟨1, 2, ⟨2, by decide⟩, .zero, by decide, by decide⟩
    let steps : List Step := [
      .connect 1 a .inbound 0, .connect 2 a .inbound 1, .trim 2, .disconnect 2]
    let m := (ofMarks marks).run steps
    let r : Record := ⟨a, .inbound, 0, true⟩
    m.record? 1 = some r ∧ m.connectionCount = 0 ∧
    ((m.disconnect 1).connectionCount = 0 ∧ (m.disconnect 1).peerConnections a = 0) ∧
    (((m.connect 1 b .outbound 3).disconnect 1).connectionCount = 2 ^ 64 - 1 ∧
      ((m.connect 1 b .outbound 3).disconnect 1).peerConnections a = 1) := by
  intro a b marks steps m r
  have hr : m.record? 1 = some r := by decide +kernel
  have hcount : m.connectionCount = 0 := by decide +kernel
  have hpeer : m.peerConnections a = 1 := by decide +kernel
  obtain ⟨-, -, -, -, -, hends, hends', -, hselected⟩ :=
    run_reports_again marks steps hr b .outbound 3
  obtain ⟨hkept, hwrapped⟩ := hselected rfl
  refine ⟨hr, hcount, ⟨hkept.trans hcount, ?_⟩, hwrapped.trans (if_pos hcount), ?_⟩
  · rw [hends, hpeer]
    rfl
  · rw [hends', hpeer]
    rfl

/-- A connection that a pass has selected is reported once more with its own peer and direction.
It leaves the phase of closing, its end takes the live count below zero, and if it does not end, a
later pass returns it a second time. -/
theorem repeated_report_wraps :
    let a : PeerId := ⟨.sha256, [1]⟩
    let marks : Watermarks := ⟨0, 1, ⟨5, by decide⟩, .zero, by decide, by decide⟩
    let steps : List Step := [.connect 1 a .inbound 0, .trim 5]
    let m := (ofMarks marks).run steps
    let again := m.connect 1 a .inbound 6
    (m.record? 1).isSome = true ∧ ¬m.Ignores 1 a .inbound 6 ∧
    (m.phase? 1 7 = some .closing ∧ again.phase? 1 7 = some .grace) ∧
    ((m.disconnect 1).connectionCount = 0 ∧ (again.disconnect 1).connectionCount = 2 ^ 64 - 1) ∧
    ((m.perform (.connect 2 a .inbound 7)).returned (.trim 11) = [] ∧
      (again.perform (.connect 2 a .inbound 7)).returned (.trim 11) = [(a, 1)]) := by
  intro a marks steps m again
  refine ⟨by decide +kernel, fun h => ?_, ⟨by decide +kernel, by decide +kernel⟩,
    ⟨by decide +kernel, by decide +kernel⟩, by decide +kernel, by decide +kernel⟩
  have hphase := h.phase 7
  have hclosing : m.phase? 1 7 = some .closing := by decide +kernel
  have hgrace : again.phase? 1 7 = some .grace := by decide +kernel
  cases hgrace.symm.trans (hphase.trans hclosing)

end ConnectionManager

end CircuitRelay
