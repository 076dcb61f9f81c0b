import CircuitRelay.Connection.Manager

/-!
# What the connection manager counts

The manager keeps three things apart: the table of records, the live count, and the numbers of
connections in the standings of peers.  A pass lowers the live count and leaves the other two
alone; a disconnect lowers the live count only when no pass did so before.  `Counted m` says that
the three agree, and that the table is small enough for the live count to be a true number and not
a remainder.

* `counted_connect`, `counted_disconnect`, `counted_trim`: the steps that change a count.
* `standing_changeStanding`, `standing_reduceStanding`: a standing that is dropped as idle is that
  of an unknown peer, so that dropping it cannot be seen.
* `marked_foldl_select`: what the marking loop of a pass keeps.
* `run_counts`: the counts along a run.

The swarm never gives one name to two connections.  `Reportable` asks for less: a connection may be
reported again while it is tracked, if the peer is the same and no pass has selected it.
-/

namespace CircuitRelay

open Connection

namespace ConnectionManager

variable {m m' : ConnectionManager}

/-! ## Counting records -/

/-- The number of tracked connections that are not selected for closing. -/
def openRecords (t : Table ConnectionId Record) : Nat := t.values.countP fun r => !r.closing

/-- The number of tracked connections of a peer, closing ones included. -/
def recordsOf (t : Table ConnectionId Record) (peer : PeerId) : Nat :=
  t.values.countP fun r => decide (r.peer = peer)

theorem openRecords_le_size (t : Table ConnectionId Record) : openRecords t ≤ t.size := by
  have hle : openRecords t ≤ t.values.length := List.countP_le_length
  rwa [Table.values, List.length_map] at hle

/-- The live count and the standings agree with the records. -/
structure Counted (m : ConnectionManager) : Prop where
  live_eq : m.live.toNat = openRecords m.records
  connections_eq : ∀ p, m.peerConnections p = recordsOf m.records p
  room : m.records.size < 2 ^ 64

theorem counted_ofMarks (marks : Watermarks) : (ofMarks marks).Counted :=
  ⟨rfl, fun _ => rfl, Nat.two_pow_pos 64⟩

/-- Nothing but the records, the live count and the numbers of connections matters. -/
theorem Counted.congr (h : m.Counted) (hrecords : m'.records = m.records) (hlive : m'.live = m.live)
    (hconnections : ∀ p, m'.peerConnections p = m.peerConnections p) : m'.Counted := by
  refine ⟨?_, fun p => ?_, ?_⟩
  · rw [hlive, hrecords]
    exact h.live_eq
  · rw [hconnections, hrecords]
    exact h.connections_eq p
  · rw [hrecords]
    exact h.room

/-! ## Standings -/

/-- Nothing is lost with a standing that is dropped as idle. -/
theorem getD_unlessIdle (s : Standing) : s.unlessIdle.getD .none = s := by
  rw [Standing.unlessIdle]
  split
  · rename_i hidle
    rw [Standing.isIdle, Bool.and_eq_true, Bool.and_eq_true, decide_eq_true_eq,
      List.isEmpty_iff, List.isEmpty_iff] at hidle
    obtain ⟨⟨hconnections, hprotections⟩, hvalues⟩ := hidle
    have hempty : s.values = .empty := Table.ext_entries hvalues
    rw [Option.getD_none, Standing.none, ← hconnections, ← hprotections, ← hempty]
  · rfl

theorem standing_changeStanding (m : ConnectionManager) (peer : PeerId) (f : Standing → Standing)
    (p : PeerId) :
    (m.changeStanding peer f).standing p =
      if peer = p then f (m.standing peer) else m.standing p := by
  show ((m.standings.insert peer _).get? p).getD .none = _
  rw [Table.get?_insert]
  split
  · rfl
  · rfl

/-- A reduction that leaves an unknown peer unknown does to a standing what it says. -/
theorem standing_reduceStanding (m : ConnectionManager) (peer : PeerId) {f : Standing → Standing}
    (hf : f .none = .none) (p : PeerId) :
    (m.reduceStanding peer f).standing p =
      if peer = p then f (m.standing peer) else m.standing p := by
  show ((m.standings.alter peer _).get? p).getD .none = _
  rw [Table.get?_alter]
  split
  · rw [standing]
    cases hknown : m.standings.get? peer with
    | none => exact hf.symm
    | some s => exact getD_unlessIdle (f s)
  · rfl

theorem peerConnections_changeStanding (m : ConnectionManager) (peer : PeerId)
    (f : Standing → Standing) (p : PeerId) :
    (m.changeStanding peer f).peerConnections p =
      if peer = p then (f (m.standing peer)).connections else m.peerConnections p := by
  rw [peerConnections, standing_changeStanding]
  split
  · rfl
  · rfl

theorem peerConnections_reduceStanding (m : ConnectionManager) (peer : PeerId)
    {f : Standing → Standing} (hf : f .none = .none) (p : PeerId) :
    (m.reduceStanding peer f).peerConnections p =
      if peer = p then (f (m.standing peer)).connections else m.peerConnections p := by
  rw [peerConnections, standing_reduceStanding m peer hf]
  split
  · rfl
  · rfl

/-- A change of a standing that leaves its connections alone. -/
theorem counted_changeStanding (h : m.Counted) (peer : PeerId) {f : Standing → Standing}
    (hf : ∀ s, (f s).connections = s.connections) : (m.changeStanding peer f).Counted := by
  refine h.congr rfl rfl fun p => ?_
  rw [peerConnections_changeStanding]
  split
  · rename_i hp
    rw [hf, hp]
    rfl
  · rfl

theorem counted_reduceStanding (h : m.Counted) (peer : PeerId) {f : Standing → Standing}
    (hnone : f .none = .none) (hf : ∀ s, (f s).connections = s.connections) :
    (m.reduceStanding peer f).Counted := by
  refine h.congr rfl rfl fun p => ?_
  rw [peerConnections_reduceStanding m peer hnone]
  split
  · rename_i hp
    rw [hf, hp]
    rfl
  · rfl

/-! ## Connections come and go -/

/-- A connection that is reported again with its peer, and was not selected for closing. -/
theorem counted_connect_tracked (h : m.Counted) {id : ConnectionId} {r : Record}
    (hr : m.records.get? id = some r) (hclosing : r.closing = false) (direction : Direction)
    (now : Instant) :
    (m.connect id r.peer direction now).Counted ∧
      (m.connect id r.peer direction now).live = m.live ∧
      (m.connect id r.peer direction now).gauge = m.gauge := by
  have hcontains : m.records.contains id = true := by
    rw [Table.contains_iff, hr]
    rfl
  rw [connect, if_pos hcontains]
  refine ⟨⟨?_, fun p => ?_, ?_⟩, rfl, rfl⟩
  · show m.live.toNat = openRecords (m.records.insert id _)
    rw [h.live_eq, openRecords, openRecords, Table.countP_values_of_get? hr,
      Table.countP_values_insert, hclosing]
  · show m.peerConnections p = recordsOf (m.records.insert id _) p
    rw [h.connections_eq, recordsOf, recordsOf, Table.countP_values_of_get? hr,
      Table.countP_values_insert]
  · show (m.records.insert id _).size < _
    rw [Table.size_insert, ← Table.size_of_get? hr]
    exact h.room

/-- A new connection counts once, for the manager and for its peer. -/
theorem counted_connect_new (h : m.Counted) {id : ConnectionId} (hid : m.records.get? id = none)
    (hroom : m.records.size + 1 < 2 ^ 64) (peer : PeerId) (direction : Direction)
    (now : Instant) :
    (m.connect id peer direction now).Counted ∧
      (m.connect id peer direction now).gauge = (m.connect id peer direction now).live.toNat := by
  have hcontains : ¬m.records.contains id = true := by
    rw [Table.contains_iff, hid]
    exact Bool.false_ne_true
  have hrest : m.records.erase id = m.records := Table.erase_eq_self hid
  rw [connect, if_neg hcontains]
  refine ⟨⟨?_, fun p => ?_, ?_⟩, rfl⟩
  · show (m.live + 1).toNat = openRecords (m.records.insert id _)
    have hle : openRecords m.records ≤ m.records.size := openRecords_le_size m.records
    rw [openRecords, Table.countP_values_insert, hrest, UInt64.toNat_add, h.live_eq,
      Nat.mod_eq_of_lt]
    · rfl
    · show openRecords m.records + 1 < _
      omega
  · show (changeStanding { m with records := m.records.insert id _ } peer .connect).peerConnections
      p = recordsOf (m.records.insert id _) p
    rw [peerConnections_changeStanding, recordsOf, Table.countP_values_insert, hrest]
    split
    · rename_i hp
      rw [decide_eq_true hp, if_pos rfl, ← hp]
      exact congrArg (· + 1) (h.connections_eq peer)
    · rename_i hp
      rw [decide_eq_false hp, if_neg Bool.false_ne_true]
      exact h.connections_eq p
  · show (m.records.insert id _).size < _
    rw [Table.size_insert, hrest]
    exact hroom

/-- A connection that closes leaves the live count if it was still in it, and its peer in any
case. -/
theorem counted_disconnect (h : m.Counted) (hgauge : m.gauge = m.connectionCount)
    (id : ConnectionId) :
    (m.disconnect id).Counted ∧ (m.disconnect id).gauge = (m.disconnect id).connectionCount := by
  unfold disconnect
  split
  · exact ⟨h, hgauge⟩
  · rename_i r hr
    have hopen : openRecords m.records = openRecords (m.records.erase id) + if !r.closing then 1
        else 0 := Table.countP_values_of_get? hr _
    have hpeers : ∀ p, recordsOf m.records p = recordsOf (m.records.erase id) p +
        if decide (r.peer = p) then 1 else 0 := fun p => Table.countP_values_of_get? hr _
    have hsize : m.records.size = (m.records.erase id).size + 1 := Table.size_of_get? hr
    have hroom := h.room
    -- what becomes of the standing of the peer is the same in both cases
    have hstanding : ∀ n : ConnectionManager, n.standings = m.standings → ∀ p,
        (n.reduceStanding r.peer .disconnect).peerConnections p =
          recordsOf (m.records.erase id) p := by
      intro n hn p
      rw [peerConnections_reduceStanding n r.peer rfl, standing, hn]
      have hpeer := h.connections_eq p
      rw [hpeers p] at hpeer
      split
      · rename_i hp
        rw [decide_eq_true hp, if_pos rfl, ← hp] at hpeer
        show m.peerConnections r.peer - 1 = _
        rw [hpeer, hp, Nat.add_sub_cancel]
      · rename_i hp
        rw [decide_eq_false hp, if_neg Bool.false_ne_true] at hpeer
        rw [peerConnections, standing, hn]
        exact hpeer
    cases hclosing : r.closing with
    | true =>
      rw [hclosing] at hopen
      refine ⟨⟨?_, hstanding _ rfl, ?_⟩, hgauge⟩
      · exact h.live_eq.trans hopen
      · show (m.records.erase id).size < _
        omega
    | false =>
      rw [hclosing] at hopen
      have hlive : (m.live - 1).toNat = m.live.toNat - 1 := by
        have hone : (1 : UInt64) ≤ m.live := by
          rw [UInt64.le_iff_toNat_le, h.live_eq, hopen]
          exact Nat.le_add_left _ _
        rw [UInt64.toNat_sub_of_le _ _ hone]
        rfl
      refine ⟨⟨?_, hstanding _ rfl, ?_⟩, hlive.symm⟩
      · show (m.live - 1).toNat = openRecords (m.records.erase id)
        rw [hlive, h.live_eq, hopen]
        rfl
      · show (m.records.erase id).size < _
        omega

/-! ## A pass -/

/-- What `select` does: nothing, or it selects a tracked connection that was not selected. -/
theorem select_cases (n : Nat) (s : List (PeerId × ConnectionId) × ConnectionManager)
    (c : Candidate) :
    select n s c = s ∨
    ∃ r, s.2.records.get? c.id = some r ∧ r.closing = false ∧
      select n s c = (s.1 ++ [(c.peer, c.id)],
        { s.2 with
          records := s.2.records.insert c.id { r with closing := true }
          live := s.2.live - 1 }) := by
  unfold select
  split
  · exact .inl rfl
  · split
    · exact .inl rfl
    · rename_i r hr
      cases hclosing : r.closing with
      | true => exact .inl (by simp)
      | false => exact .inr ⟨r, hr, hclosing, by simp⟩

/-- What the marking loop of a pass over `m` keeps: the counts agree after every candidate, and
the manager changes nothing but its records and its live count. -/
structure Marked (m : ConnectionManager) (s : ConnectionManager) : Prop where
  counted : s.Counted
  rest : ∃ records live, s = { m with records := records, live := live }

theorem marked_select {s : List (PeerId × ConnectionId) × ConnectionManager} (h : Marked m s.2)
    (n : Nat) (c : Candidate) : Marked m (select n s c).2 := by
  rcases select_cases n s c with heq | ⟨r, hr, hclosing, heq⟩
  · rw [heq]
    exact h
  · rw [heq]
    have hopen : openRecords s.2.records = openRecords (s.2.records.erase c.id) + 1 := by
      have hcount := Table.countP_values_of_get? hr fun r => !r.closing
      rwa [hclosing] at hcount
    have hlive : (s.2.live - 1).toNat = s.2.live.toNat - 1 := by
      have hone : (1 : UInt64) ≤ s.2.live := by
        rw [UInt64.le_iff_toNat_le, h.counted.live_eq, hopen]
        exact Nat.le_add_left _ _
      rw [UInt64.toNat_sub_of_le _ _ hone]
      rfl
    refine ⟨⟨?_, fun p => ?_, ?_⟩, ?_⟩
    · show (s.2.live - 1).toNat = openRecords (s.2.records.insert c.id _)
      rw [hlive, h.counted.live_eq, hopen, openRecords, openRecords, Table.countP_values_insert]
      rfl
    · -- the record keeps its peer
      show s.2.peerConnections p = recordsOf (s.2.records.insert c.id _) p
      rw [h.counted.connections_eq, recordsOf, recordsOf, Table.countP_values_of_get? hr,
        Table.countP_values_insert]
    · show (s.2.records.insert c.id _).size < _
      rw [Table.size_insert, ← Table.size_of_get? hr]
      exact h.counted.room
    · obtain ⟨records, live, hs⟩ := h.rest
      refine ⟨s.2.records.insert c.id { r with closing := true }, s.2.live - 1, ?_⟩
      rw [hs]

theorem marked_foldl_select (n : Nat) (cs : List Candidate)
    {s : List (PeerId × ConnectionId) × ConnectionManager} (h : Marked m s.2) :
    Marked m (cs.foldl (select n) s).2 := by
  induction cs generalizing s with
  | nil => exact h
  | cons c cs ih => exact ih (marked_select h n c)

/-- A pass keeps the counts, and adds what it selects to the number of selected connections. -/
theorem counted_trim (h : m.Counted) (hgauge : m.gauge = m.connectionCount) (now : Instant) :
    (m.trim now).2.Counted ∧ (m.trim now).2.gauge = (m.trim now).2.connectionCount ∧
      (m.trim now).2.pruned = m.pruned + (m.trim now).1.length := by
  unfold trim
  split
  · exact ⟨h, hgauge, rfl⟩
  · have hmarked : Marked m ((m.candidates now).foldl (select m.surplus) ([], m)).2 :=
      marked_foldl_select _ _ ⟨h, m.records, m.live, rfl⟩
    exact ⟨hmarked.counted.congr rfl rfl fun _ => rfl, rfl, rfl⟩

/-! ## Runs -/

/-- What can happen to the manager. -/
inductive Step where
  | connect (id : ConnectionId) (peer : PeerId) (direction : Direction) (now : Instant)
  | disconnect (id : ConnectionId)
  | protect (peer : PeerId) (tag : String)
  | unprotect (peer : PeerId) (tag : String)
  | tag (peer : PeerId) (name : String) (value : Int64)
  | untag (peer : PeerId) (name : String)
  | trim (now : Instant)
  | close

/-- The manager after a step. -/
def perform (m : ConnectionManager) : Step → ConnectionManager
  | .connect id peer direction now => m.connect id peer direction now
  | .disconnect id => m.disconnect id
  | .protect peer tag => m.protect peer tag
  | .unprotect peer tag => (m.unprotect peer tag).2
  | .tag peer name value => m.tag peer name value
  | .untag peer name => m.untag peer name
  | .trim now => (m.trim now).2
  | .close => m.close

/-- The connections that a step returns for closing. -/
def returned (m : ConnectionManager) : Step → List (PeerId × ConnectionId)
  | .trim now => (m.trim now).1
  | _ => []

/-- The manager after a run. -/
def run (m : ConnectionManager) (steps : List Step) : ConnectionManager := steps.foldl perform m

/-- All connections that the passes of a run return, in order. -/
def returnedBy (m : ConnectionManager) : List Step → List (PeerId × ConnectionId)
  | [] => []
  | step :: rest => m.returned step ++ (m.perform step).returnedBy rest

/-- Whether the swarm may report a connection as established: one that is tracked keeps its peer
and is not reported after a pass selected it, and the table has room for one that is not, as a
table in the memory of a 64-bit machine has. -/
def Reportable (m : ConnectionManager) (id : ConnectionId) (peer : PeerId) : Prop :=
  match m.records.get? id with
  | some r => r.peer = peer ∧ r.closing = false
  | none => m.records.size + 1 < 2 ^ 64

instance (m : ConnectionManager) (id : ConnectionId) (peer : PeerId) :
    Decidable (m.Reportable id peer) :=
  match h : m.records.get? id with
  | some r => decidable_of_iff (r.peer = peer ∧ r.closing = false) (by rw [Reportable, h])
  | none => decidable_of_iff (m.records.size + 1 < 2 ^ 64) (by rw [Reportable, h])

/-- A step that the swarm may make. -/
def Step.Regular (m : ConnectionManager) : Step → Prop
  | .connect id peer _ _ => m.Reportable id peer
  | _ => True

instance (m : ConnectionManager) : ∀ step : Step, Decidable (step.Regular m)
  | .connect id peer _ _ => inferInstanceAs (Decidable (m.Reportable id peer))
  | .disconnect _ | .protect .. | .unprotect .. | .tag .. | .untag .. | .trim _ | .close =>
    .isTrue trivial

/-- A run of regular steps. -/
def Regular (m : ConnectionManager) : List Step → Prop
  | [] => True
  | step :: rest => step.Regular m ∧ (m.perform step).Regular rest

instance decidableRegular : ∀ (m : ConnectionManager) (steps : List Step),
    Decidable (m.Regular steps)
  | _, [] => .isTrue trivial
  | m, step :: rest =>
    have := decidableRegular (m.perform step) rest
    inferInstanceAs (Decidable (step.Regular m ∧ (m.perform step).Regular rest))

theorem counted_perform (h : m.Counted) (hgauge : m.gauge = m.connectionCount) {step : Step}
    (hstep : step.Regular m) :
    (m.perform step).Counted ∧ (m.perform step).gauge = (m.perform step).connectionCount ∧
      (m.perform step).pruned = m.pruned + (m.returned step).length := by
  cases step with
  | connect id peer direction now =>
    have hpruned : (m.connect id peer direction now).pruned = m.pruned := by
      unfold connect
      split
      · rfl
      · rfl
    cases hid : m.records.get? id with
    | none =>
      rw [Step.Regular, Reportable, hid] at hstep
      obtain ⟨hcounted, hpublished⟩ := counted_connect_new h hid hstep peer direction now
      exact ⟨hcounted, hpublished, hpruned⟩
    | some r =>
      rw [Step.Regular, Reportable, hid] at hstep
      obtain ⟨rfl, hclosing⟩ := hstep
      obtain ⟨hcounted, hlive, hsame⟩ := counted_connect_tracked h hid hclosing direction now
      refine ⟨hcounted, ?_, hpruned⟩
      show (m.connect id r.peer direction now).gauge =
        (m.connect id r.peer direction now).live.toNat
      rw [hsame, hlive]
      exact hgauge
  | disconnect id =>
    obtain ⟨hcounted, hpublished⟩ := counted_disconnect h hgauge id
    refine ⟨hcounted, hpublished, ?_⟩
    show (m.disconnect id).pruned = m.pruned
    unfold disconnect
    split
    · rfl
    · split
      · rfl
      · rfl
  | protect peer tag =>
    exact ⟨counted_changeStanding (f := (·.protect tag)) h peer fun _ => rfl, hgauge, rfl⟩
  | unprotect peer tag =>
    exact ⟨counted_reduceStanding (f := (·.unprotect tag)) h peer rfl fun _ => rfl, hgauge, rfl⟩
  | tag peer name value =>
    exact ⟨counted_changeStanding (f := (·.setValue name value)) h peer fun _ => rfl, hgauge, rfl⟩
  | untag peer name =>
    exact ⟨counted_reduceStanding (f := (·.clearValue name)) h peer rfl fun _ => rfl, hgauge, rfl⟩
  | trim now => exact counted_trim h hgauge now
  | close => exact ⟨h.congr rfl rfl fun _ => rfl, hgauge, rfl⟩

theorem counted_run (h : m.Counted) (hgauge : m.gauge = m.connectionCount) (steps : List Step)
    (hsteps : m.Regular steps) :
    (m.run steps).Counted ∧ (m.run steps).gauge = (m.run steps).connectionCount ∧
      (m.run steps).pruned = m.pruned + (m.returnedBy steps).length := by
  induction steps generalizing m with
  | nil => exact ⟨h, hgauge, rfl⟩
  | cons step rest ih =>
    obtain ⟨hstep, hrest⟩ := hsteps
    obtain ⟨hcounted, hpublished, hpruned⟩ := counted_perform h hgauge hstep
    obtain ⟨hcounted', hpublished', hpruned'⟩ := ih hcounted hpublished hrest
    refine ⟨hcounted', hpublished', ?_⟩
    rw [returnedBy, List.length_append, ← Nat.add_assoc, ← hpruned]
    exact hpruned'

/-- Along every regular run the manager counts exactly: the live count is the number of tracked
connections that no pass selected, and never wraps; every peer has as many connections as tracked
records; the published count is the live count; and as many connections were selected as the
passes returned. -/
theorem run_counts (marks : Watermarks) (steps : List Step)
    (hsteps : (ofMarks marks).Regular steps) :
    let m := (ofMarks marks).run steps
    m.connectionCount = (m.records.values.filter fun r => !r.closing).length ∧
    (∀ peer, m.peerConnections peer =
      (m.records.values.filter fun r => decide (r.peer = peer)).length) ∧
    m.gauge = m.connectionCount ∧
    m.pruned = ((ofMarks marks).returnedBy steps).length := by
  intro m
  obtain ⟨hcounted, hgauge, hpruned⟩ := counted_run (counted_ofMarks marks) rfl steps hsteps
  refine ⟨?_, fun peer => ?_, hgauge, ?_⟩
  · rw [← List.countP_eq_length_filter]
    exact hcounted.live_eq
  · rw [← List.countP_eq_length_filter]
    exact hcounted.connections_eq peer
  · rw [hpruned]
    exact Nat.zero_add _

/-- Two connections, one of them reported twice; a pass closes one and the swarm reports the end of
the other. -/
theorem run_counts_two :
    let marks : Watermarks := ⟨1, 2, .zero, .zero, by decide, by decide⟩
    let steps : List Step := [
      .connect 1 ⟨.sha256, [1]⟩ .inbound 0, .connect 2 ⟨.sha256, [2]⟩ .outbound 1,
      .connect 1 ⟨.sha256, [1]⟩ .inbound 2, .trim 3, .disconnect 2]
    let m := (ofMarks marks).run steps
    (ofMarks marks).Regular steps ∧
    m.connectionCount = (m.records.values.filter fun r => !r.closing).length ∧
    (∀ peer, m.peerConnections peer =
      (m.records.values.filter fun r => decide (r.peer = peer)).length) ∧
    m.gauge = m.connectionCount ∧
    m.pruned = ((ofMarks marks).returnedBy steps).length :=
  ⟨by decide, run_counts _ _ (by decide)⟩

end ConnectionManager

end CircuitRelay
