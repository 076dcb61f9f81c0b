import CircuitRelay.Proofs.Connection.Closing

/-!
# The high mark is only passed by exempt connections

The count of a manager may reach the high mark only when nothing can be done about it: every
connection that no pass has selected is then in its grace period or belongs to a protected peer.
This holds right after every event that may raise the count, because such an event is followed by a
pass, and a pass that does not bring the count down has taken every connection that it may close.

The marks are strictly apart here.  With equal marks a pass wants nothing when the count stands
exactly at them, and the count stays where it is.

* `IsExempt`: a pass may not close a connection.
* `isExempt_of_trim`: a pass leaves the count below the high mark, or exempt connections only.
* `high_le_of_chosen`, `low_le_of_trim`: a pass starts at the high mark and stops at the low one.
* `run_keeps_marks`: the marks along a run of the queue.
-/

namespace CircuitRelay

open Connection

namespace ConnectionManager

variable {m : ConnectionManager} {now : Instant}

/-! ## Settings -/

theorem settings_connect (m : ConnectionManager) (id : ConnectionId) (peer : PeerId)
    (direction : Direction) (now : Instant) :
    (m.connect id peer direction now).marks = m.marks ∧
      (m.connect id peer direction now).closed = m.closed := by
  unfold connect
  split
  · exact ⟨rfl, rfl⟩
  · exact ⟨rfl, rfl⟩

theorem settings_disconnect (m : ConnectionManager) (id : ConnectionId) :
    (m.disconnect id).marks = m.marks ∧ (m.disconnect id).closed = m.closed := by
  unfold disconnect
  split
  · exact ⟨rfl, rfl⟩
  · rename_i r _
    cases r.closing with
    | true => exact ⟨rfl, rfl⟩
    | false => exact ⟨rfl, rfl⟩

/-! ## One pass -/

/-- A pass may not close a connection: it is too young, or its peer is protected. -/
def IsExempt (m : ConnectionManager) (now : Instant) (r : Record) : Prop :=
  r.age now < m.marks.grace.nanos ∨ m.isProtected r.peer = true

instance (m : ConnectionManager) (now : Instant) (r : Record) : Decidable (m.IsExempt now r) :=
  inferInstanceAs (Decidable (_ ∨ _))

/-- An open connection that is not exempt may be closed. -/
theorem eligible_of_not_isExempt {r : Record} (hopen : r.closing = false)
    (h : ¬m.IsExempt now r) : m.Eligible now r := by
  rw [IsExempt, not_or] at h
  exact ⟨hopen, Nat.le_of_not_lt h.1, by simpa using h.2⟩

theorem isExempt_trim_iff (m : ConnectionManager) (now : Instant) (r : Record) :
    (m.trim now).2.IsExempt now r ↔ m.IsExempt now r := by
  rw [IsExempt, IsExempt, m.isProtected_trim, (m.marks_trim now).marks]

theorem count_trim_add (m : ConnectionManager) (now : Instant) :
    (m.trim now).2.connectionCount + (m.chosen now).length = m.connectionCount :=
  (m.marks_trim now).live

/-- A pass that brings the count down to fewer than the high mark, or else takes everything. -/
theorem isExempt_of_trim (hmarks : m.marks.low < m.marks.high) (hopen : m.closed = false)
    (hhigh : m.marks.high ≤ (m.trim now).2.connectionCount) {id : ConnectionId} {r : Record}
    (hr : (m.trim now).2.record? id = some r) (hclosing : r.closing = false) :
    m.IsExempt now r := by
  have hcount := m.count_trim_add now
  have hneeds : m.needsTrim = true := by
    rw [needsTrim, hopen]
    simp only [Bool.not_false, Bool.true_and, decide_eq_true_eq]
    omega
  have hchosen : m.chosen now = (m.candidates now).take m.surplus := if_pos hneeds
  -- otherwise the surplus would be gone, and the count at the low mark
  have hall : m.chosen now = m.candidates now := by
    rw [hchosen]
    apply List.take_of_length_le
    by_contra hmany
    have hlength : (m.chosen now).length = m.surplus := by
      rw [hchosen, List.length_take, Nat.min_eq_left (by omega)]
    rw [surplus] at hlength
    omega
  by_contra hnot
  have hrecord : (m.trim now).2.records.get? id = some r := hr
  rw [(m.marks_trim now).records] at hrecord
  split at hrecord
  · obtain ⟨r', -, rfl⟩ := Option.map_eq_some_iff.mp hrecord
    cases hclosing
  · rename_i hid
    apply hid
    have hcandidate : m.candidate id r ∈ m.chosen now := by
      rw [hall]
      exact mem_candidates_iff.mpr ⟨id, r, hrecord, eligible_of_not_isExempt hclosing hnot, rfl⟩
    exact List.mem_map_of_mem (f := (·.id)) hcandidate

/-- A pass that selects anything found the count at the high mark. -/
theorem high_le_of_chosen {c : Candidate} (h : c ∈ m.chosen now) :
    m.marks.high ≤ m.connectionCount := by
  unfold chosen at h
  split at h
  · rename_i hneeds
    rw [needsTrim, Bool.and_eq_true, decide_eq_true_eq] at hneeds
    exact hneeds.2
  · cases h

/-- A pass does not take the count below the low mark. -/
theorem low_le_of_trim (now : Instant) (h : m.marks.low ≤ m.connectionCount) :
    m.marks.low ≤ (m.trim now).2.connectionCount := by
  have hcount := m.count_trim_add now
  have hchosen := m.length_chosen_le now
  rw [surplus] at hchosen
  omega

end ConnectionManager

namespace ClosingQueue

variable {q : ClosingQueue} {step : Step} {steps : List Step}

/-! ## Runs -/

theorem settings_noted (q : ClosingQueue) (step : Step) :
    (q.noted step).manager.marks = q.manager.marks ∧
      (step ≠ .close → (q.noted step).manager.closed = q.manager.closed) := by
  cases step with
  | established id peer direction now passAt =>
    obtain ⟨hmarks, hclosed⟩ := q.manager.settings_connect id peer direction now
    exact ⟨hmarks, fun _ => hclosed⟩
  | closed id =>
    obtain ⟨hmarks, hclosed⟩ := q.manager.settings_disconnect id
    exact ⟨hmarks, fun _ => hclosed⟩
  | poll =>
    have hmanager : q.poll.2.manager = q.manager := by
      unfold poll
      split
      · rfl
      · rfl
    exact ⟨congrArg _ hmanager, fun _ => congrArg _ hmanager⟩
  | close => exact ⟨rfl, fun h => absurd rfl h⟩
  | trim | protect | unprotect | tag | untag => exact ⟨rfl, fun _ => rfl⟩

theorem settings_perform (q : ClosingQueue) (step : Step) :
    (q.perform step).manager.marks = q.manager.marks ∧
      (step ≠ .close → (q.perform step).manager.closed = q.manager.closed) := by
  cases hpass : step.passAt? with
  | none =>
    rw [perform_of_no_pass hpass]
    exact q.settings_noted step
  | some now =>
    rw [perform_of_pass hpass]
    have htrim := (q.noted step).manager.marks_trim now
    obtain ⟨hmarks, hclosed⟩ := q.settings_noted step
    exact ⟨htrim.marks.trans hmarks, fun hstep => htrim.closed.trans (hclosed hstep)⟩

/-- A run keeps its marks, and stays open as long as nobody ends the passes. -/
theorem settings_run (q : ClosingQueue) (steps : List Step) :
    (q.run steps).manager.marks = q.manager.marks ∧
      (.close ∉ steps → (q.run steps).manager.closed = q.manager.closed) := by
  induction steps generalizing q with
  | nil => exact ⟨rfl, fun _ => rfl⟩
  | cons step steps ih =>
    obtain ⟨hmarks, hclosed⟩ := ih (q.perform step)
    obtain ⟨hmarks', hclosed'⟩ := q.settings_perform step
    refine ⟨hmarks.trans hmarks', fun hsteps => ?_⟩
    rw [List.mem_cons, not_or] at hsteps
    exact (hclosed hsteps.2).trans (hclosed' (Ne.symm hsteps.1))

/-- Under marks that are apart, and while nobody ends the passes: right after a connection was
established, and right after an explicit pass, the count is below the high mark, or every tracked
connection that is not selected is younger than the grace period or has a protected peer.  Whatever
happens, connections are only selected when the count before the pass was at the high mark or
above, and a count that was at the low mark or above is not taken below it by selecting. -/
theorem run_keeps_marks (marks : Watermarks) (hmarks : marks.low < marks.high)
    (steps : List Step) (hsteps : .close ∉ steps) :
    let q := (ofMarks marks).run steps
    (∀ step now, step.passAt? = some now →
      let m := (q.perform step).manager
      m.connectionCount < marks.high ∨
        ∀ id r, m.record? id = some r → r.closing = false →
          r.age now < marks.grace.nanos ∨ m.isProtected r.peer = true) ∧
    ∀ step,
      let before := (q.noted step).manager
      let after := (q.perform step).manager
      (∀ id r r', before.record? id = some r → r.closing = false → after.record? id = some r' →
        r'.closing = true → marks.high ≤ before.connectionCount) ∧
      (marks.low ≤ before.connectionCount → marks.low ≤ after.connectionCount) := by
  intro q
  obtain ⟨hrun, hopen⟩ := (ofMarks marks).settings_run steps
  have hbefore : ∀ step, (q.noted step).manager.marks = marks := fun step =>
    (q.settings_noted step).1.trans hrun
  refine ⟨fun step now hpass => ?_, fun step => ?_⟩
  · have hclosed : (q.noted step).manager.closed = false := by
      refine ((q.settings_noted step).2 ?_).trans (hopen hsteps)
      rintro rfl
      cases hpass
    have hafter : ((q.noted step).manager.trim now).2.marks = marks :=
      ((q.noted step).manager.marks_trim now).marks.trans (hbefore step)
    rw [perform_of_pass hpass]
    show ((q.noted step).manager.trim now).2.connectionCount < marks.high ∨ _
    by_cases hhigh : ((q.noted step).manager.trim now).2.connectionCount < marks.high
    · exact .inl hhigh
    · refine .inr fun id r hr hclosing => ?_
      have hexempt := ConnectionManager.isExempt_of_trim (by rwa [hbefore step]) hclosed
        (by rw [hbefore step]; omega) hr hclosing
      rw [← ConnectionManager.isExempt_trim_iff, ConnectionManager.IsExempt, hafter] at hexempt
      exact hexempt
  · cases hpass : step.passAt? with
    | none =>
      rw [perform_of_no_pass hpass]
      refine ⟨fun id r r' hr hclosing hr' hclosing' => ?_, id⟩
      rw [hr] at hr'
      cases hr'
      rw [hclosing] at hclosing'
      cases hclosing'
    | some now =>
      rw [perform_of_pass hpass]
      refine ⟨fun id r r' hr hclosing hr' hclosing' => ?_, ?_⟩
      · -- a record that became marked is that of a chosen candidate
        have hrecord : ((q.noted step).manager.trim now).2.records.get? id = some r' := hr'
        rw [((q.noted step).manager.marks_trim now).records] at hrecord
        split at hrecord
        · rename_i hid
          obtain ⟨c, hc, -⟩ := List.mem_map.mp hid
          have hhigh := ConnectionManager.high_le_of_chosen hc
          rwa [hbefore step] at hhigh
        · rw [ConnectionManager.record?, hrecord] at hr
          cases hr
          rw [hclosing] at hclosing'
          cases hclosing'
      · intro hlow
        have htrim := ConnectionManager.low_le_of_trim now
          (show (q.noted step).manager.marks.low ≤ (q.noted step).manager.connectionCount by
            rwa [hbefore step])
        rwa [hbefore step] at htrim

/-- Two connections of a protected peer reach the high mark, and neither can be closed. -/
theorem run_keeps_marks_protected :
    let marks : Watermarks := ⟨1, 2, .zero, .zero, by decide, by decide⟩
    let peer : PeerId := ⟨.sha256, [1]⟩
    let steps : List Step := [.protect peer "relay", .established 1 peer .inbound 0 0]
    let m := (((ofMarks marks).run steps).perform (.established 2 peer .outbound 5 6)).manager
    marks.low < marks.high ∧ .close ∉ steps ∧
    (m.connectionCount < marks.high ∨
      ∀ id r, m.record? id = some r → r.closing = false →
        r.age 6 < marks.grace.nanos ∨ m.isProtected r.peer = true) :=
  ⟨by decide, by decide,
    (run_keeps_marks _ (by decide) _ (by decide)).1 (.established 2 _ .outbound 5 6) 6 rfl⟩

end ClosingQueue

end CircuitRelay
