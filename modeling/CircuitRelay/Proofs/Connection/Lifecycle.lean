import CircuitRelay.Proofs.Connection.Counts
import CircuitRelay.Proofs.Connection.HighMark

/-!
# The life of a connection only moves forward

A connection is in its grace period, then it may be closed, then it is selected for closing.  Two
parts of the manager compare its age with the grace period: the phase that is shown, and the pass
that selects.  They agree at the boundary, and nothing but a pass ever marks a record, so that along
any run the phases that are seen of one connection go one way.

The age depends on the time that is handed in with an event, and the mark does not.  The order of
phases would break if a later event came with an earlier time; `Timely` excludes that.  It would
also break if a tracked connection were reported again, because its record starts anew;
`ConnectsNew` excludes that.

* `Event`, `follow`: runs in which somebody looks at phases meanwhile; `phasesOf` is what is seen.
* `record?_observe`: all that an event can do to the record of a connection that it does not end.
* `Lived`: a record and the events that its connection still lives through; `Lived.follow` keeps it.
* `run_moves_forward`: what `MovesForward` says of every connection of a run.
-/

namespace CircuitRelay

open Connection

namespace Connection

/-! ## Phases and records -/

/-- The place of a phase in the life of a connection. -/
def Phase.rank : Phase → Nat
  | .grace => 0
  | .prunable => 1
  | .closing => 2

/-- A later record of the same connection. -/
structure Record.Becomes (r r' : Record) : Prop where
  peer : r'.peer = r.peer
  established : r'.established = r.established
  closing : r.closing = true → r'.closing = true

theorem Record.Becomes.refl (r : Record) : r.Becomes r := ⟨rfl, rfl, id⟩

theorem Record.Becomes.trans {r r' r'' : Record} (h : r.Becomes r') (h' : r'.Becomes r'') :
    r.Becomes r'' :=
  ⟨h'.peer.trans h.peer, h'.established.trans h.established, fun hr => h'.closing (h.closing hr)⟩

theorem Record.phase_of_closing {r : Record} (h : r.closing = true) (grace : Duration)
    (now : Instant) : r.phase grace now = .closing :=
  if_pos h

theorem Record.phase_of_young {r : Record} {grace : Duration} {now : Instant}
    (hopen : r.closing = false) (hage : r.age now < grace.nanos) : r.phase grace now = .grace := by
  rw [phase, hopen, if_neg Bool.false_ne_true, if_pos hage]

theorem Phase.rank_le_two (phase : Phase) : phase.rank ≤ 2 := by
  cases phase <;> decide

/-- At a later time a later record shows no earlier phase. -/
theorem Record.Becomes.rank_phase_le {r r' : Record} (h : r.Becomes r') (grace : Duration)
    {now now' : Instant} (hnow : now ≤ now') :
    (r.phase grace now).rank ≤ (r'.phase grace now').rank := by
  cases hclosing' : r'.closing with
  | true =>
    rw [phase_of_closing hclosing']
    exact Phase.rank_le_two _
  | false =>
    have hopen : r.closing = false := by
      rw [Bool.eq_false_iff]
      intro hclosing
      rw [h.closing hclosing] at hclosing'
      cases hclosing'
    have hage : r.age now ≤ r'.age now' := by
      rw [age, age, h.established]
      exact Nat.sub_le_sub_right hnow _
    by_cases hyoung : r.age now < grace.nanos
    · rw [phase_of_young hopen hyoung]
      exact Nat.zero_le _
    · have hpast : r.phase grace now = .prunable :=
        ConnectionManager.phase_eq_prunable_iff.mpr ⟨hopen, Nat.le_of_not_lt hyoung⟩
      have hpast' : r'.phase grace now' = .prunable :=
        ConnectionManager.phase_eq_prunable_iff.mpr ⟨hclosing', by omega⟩
      exact Nat.le_of_eq (congrArg Phase.rank (hpast.trans hpast'.symm))

end Connection

namespace ConnectionManager

variable {m : ConnectionManager} {id : ConnectionId} {r : Record} {now : Instant}

/-! ## Runs in which phases are seen -/

/-- Something happens to the manager, or somebody looks at the phase of a connection. -/
inductive Event where
  | step (step : Step)
  | look (id : ConnectionId) (now : Instant)

variable {e : Event} {events seen rest : List Event}

/-- The time that is handed in with an event. -/
def Event.time? : Event → Option Instant
  | .step (.connect _ _ _ now) | .step (.trim now) | .look _ now => some now
  | _ => none

/-- The times that are handed in along a run. -/
def times (events : List Event) : List Instant := events.filterMap Event.time?

/-- The times that are handed in never go back. -/
def Timely (events : List Event) : Prop := (times events).Pairwise (· ≤ ·)

instance (events : List Event) : Decidable (Timely events) :=
  inferInstanceAs (Decidable (List.Pairwise _ _))

/-- The manager after an event. -/
def observe (m : ConnectionManager) : Event → ConnectionManager
  | .step step => m.perform step
  | .look _ _ => m

/-- The manager after a run. -/
def follow (m : ConnectionManager) (events : List Event) : ConnectionManager :=
  events.foldl observe m

theorem follow_append (m : ConnectionManager) (seen rest : List Event) :
    m.follow (seen ++ rest) = (m.follow seen).follow rest :=
  List.foldl_append

/-- Whether an event reports no connection as established under a name that is tracked. -/
def Event.ConnectsNew (m : ConnectionManager) : Event → Prop
  | .step (.connect id _ _ _) => m.record? id = none
  | _ => True

instance (m : ConnectionManager) : ∀ e : Event, Decidable (e.ConnectsNew m)
  | .step (.connect id _ _ _) => inferInstanceAs (Decidable (m.record? id = none))
  | .step (.disconnect _) | .step (.protect ..) | .step (.unprotect ..) | .step (.tag ..)
  | .step (.untag ..) | .step (.trim _) | .step .close | .look .. => .isTrue trivial

/-- A run in which every connection is established under a name that is not tracked. -/
def ConnectsNew (m : ConnectionManager) : List Event → Prop
  | [] => True
  | e :: rest => e.ConnectsNew m ∧ (m.observe e).ConnectsNew rest

instance decidableConnectsNew : ∀ (m : ConnectionManager) (events : List Event),
    Decidable (m.ConnectsNew events)
  | _, [] => .isTrue trivial
  | m, e :: rest =>
    have := decidableConnectsNew (m.observe e) rest
    inferInstanceAs (Decidable (e.ConnectsNew m ∧ (m.observe e).ConnectsNew rest))

theorem connectsNew_append :
    m.ConnectsNew (seen ++ rest) ↔ m.ConnectsNew seen ∧ (m.follow seen).ConnectsNew rest := by
  induction seen generalizing m with
  | nil => exact (and_iff_right trivial).symm
  | cons e seen ih =>
    rw [List.cons_append, ConnectsNew, ConnectsNew, ih, and_assoc]
    exact Iff.rfl

/-- What is seen of the phase of a connection in an event. -/
def sees (id : ConnectionId) (m : ConnectionManager) : Event → List (Instant × Phase)
  | .look id' now => if id' = id then ((m.phase? id now).map fun p => (now, p)).toList else []
  | _ => []

/-- The phases that are seen of a connection along a run, with the times. -/
def phasesOf (id : ConnectionId) (m : ConnectionManager) : List Event → List (Instant × Phase)
  | [] => []
  | e :: rest => m.sees id e ++ (m.observe e).phasesOf id rest

theorem mem_phasesOf {x : Instant × Phase} (h : x ∈ m.phasesOf id events) :
    ∃ seen rest, events = seen ++ .look id x.1 :: rest ∧
      (m.follow seen).phase? id x.1 = some x.2 := by
  induction events generalizing m with
  | nil => cases h
  | cons e events ih =>
    rcases List.mem_append.mp h with hsees | hrest
    · cases e with
      | step => cases hsees
      | look id' now =>
        rw [sees] at hsees
        split at hsees
        · rename_i hid
          obtain ⟨phase, hphase, rfl⟩ := Option.map_eq_some_iff.mp (Option.mem_toList.mp hsees)
          exact ⟨[], events, by rw [hid, List.nil_append], hphase⟩
        · cases hsees
    · obtain ⟨seen, rest, hevents, hphase⟩ := ih hrest
      exact ⟨e :: seen, rest, by rw [hevents, List.cons_append], hphase⟩

/-! ## What an event does to a record -/

theorem marks_observe (m : ConnectionManager) (e : Event) : (m.observe e).marks = m.marks := by
  cases e with
  | look => rfl
  | step step =>
    cases step with
    | connect id peer direction now => exact (m.settings_connect id peer direction now).1
    | disconnect id => exact (m.settings_disconnect id).1
    | trim now => exact (m.marks_trim now).marks
    | protect | unprotect | tag | untag | close => rfl

theorem marks_follow (m : ConnectionManager) (events : List Event) :
    (m.follow events).marks = m.marks := by
  induction events generalizing m with
  | nil => rfl
  | cons e events ih => exact (ih (m.observe e)).trans (m.marks_observe e)

theorem mem_trim_iff : id ∈ (m.trim now).1.map Prod.snd ↔ id ∈ (m.chosen now).map (·.id) := by
  rw [trim_fst, List.map_map]
  exact Iff.rfl

/-- A pass only selects connections that it may close. -/
theorem eligible_of_mem_trim (h : id ∈ (m.trim now).1.map Prod.snd) (hr : m.record? id = some r) :
    m.Eligible now r := by
  obtain ⟨c, hc, rfl⟩ := List.mem_map.mp (mem_trim_iff.mp h)
  obtain ⟨id, r', hr', heligible, rfl⟩ :=
    mem_candidates_iff.mp ((m.chosen_sublist now).subset hc)
  have hsame : r' = r := Option.some.inj (hr'.symm.trans hr)
  rwa [← hsame]

/-- An event that does not end a connection leaves its record alone, or is a pass that may close it
and marks it. -/
theorem record?_observe (hr : m.record? id = some r) (hnew : e.ConnectsNew m)
    (hend : e ≠ .step (.disconnect id)) :
    (m.observe e).record? id = some r ∨
      ∃ now, e = .step (.trim now) ∧ m.Eligible now r ∧
        (m.observe e).record? id = some (marked r) := by
  cases e with
  | look => exact .inl hr
  | step step =>
    cases step with
    | connect id' peer direction now =>
      have hne : ¬id' = id := by
        rintro rfl
        cases hr.symm.trans hnew
      refine .inl ?_
      show (m.connect id' peer direction now).record? id = some r
      rw [record?_connect, if_neg hne]
      exact hr
    | disconnect id' =>
      have hne : ¬id' = id := by
        rintro rfl
        exact hend rfl
      refine .inl ?_
      show (m.disconnect id').record? id = some r
      rw [record?_disconnect, if_neg hne]
      exact hr
    | trim now =>
      have hrecord := (m.marks_trim now).records id
      rw [show m.records.get? id = some r from hr, Option.map_some] at hrecord
      by_cases hid : id ∈ (m.chosen now).map (·.id)
      · rw [if_pos hid] at hrecord
        exact .inr ⟨now, rfl, eligible_of_mem_trim (mem_trim_iff.mpr hid) hr, hrecord⟩
      · rw [if_neg hid] at hrecord
        exact .inl hrecord
    | protect | unprotect | tag | untag | close => exact .inl hr

/-! ## A life -/

/-- The record of a connection, and the events that its connection lives through from here on.  The
times that are still to come are not before it was established, and if it is marked, they are past
its grace period. -/
structure Lived (m : ConnectionManager) (id : ConnectionId) (r : Record) (events : List Event) :
    Prop where
  record : m.record? id = some r
  connectsNew : m.ConnectsNew events
  lasts : .step (.disconnect id) ∉ events
  timely : Timely events
  since : ∀ t ∈ times events, r.established ≤ t
  past : r.closing = true → ∀ t ∈ times events, r.established + m.marks.grace.nanos ≤ t

theorem mem_times_cons {t : Instant} (h : t ∈ times rest) : t ∈ times (e :: rest) :=
  ((List.sublist_cons_self e rest).filterMap Event.time?).subset h

theorem Timely.of_cons (h : Timely (e :: rest)) : Timely rest :=
  h.sublist ((List.sublist_cons_self e rest).filterMap Event.time?)

theorem Timely.le_of_time? (h : Timely (e :: rest)) (he : e.time? = some now) :
    ∀ t ∈ times rest, now ≤ t := by
  rw [Timely, times, List.filterMap_cons_some he] at h
  exact (List.pairwise_cons.mp h).1

/-- A connection lives through one event. -/
theorem Lived.observe (h : Lived m id r (e :: rest)) :
    ∃ r', r.Becomes r' ∧ Lived (m.observe e) id r' rest := by
  have hmarks := m.marks_observe e
  rcases record?_observe h.record h.connectsNew.1 (List.ne_of_not_mem_cons h.lasts).symm with
    hsame | ⟨now, rfl, heligible, hmarked⟩
  · refine ⟨r, .refl r, hsame, h.connectsNew.2, List.not_mem_of_not_mem_cons h.lasts,
      h.timely.of_cons, fun t ht => h.since t (mem_times_cons ht), fun hclosing t ht => ?_⟩
    rw [hmarks]
    exact h.past hclosing t (mem_times_cons ht)
  · refine ⟨marked r, ⟨rfl, rfl, fun _ => rfl⟩, hmarked, h.connectsNew.2,
      List.not_mem_of_not_mem_cons h.lasts, h.timely.of_cons,
      fun t ht => h.since t (mem_times_cons ht), fun _ t ht => ?_⟩
    have hstart : r.established ≤ now := h.since now (by simp [times, Event.time?])
    have hpast : m.marks.grace.nanos ≤ now - r.established := heligible.past
    have hlater : now ≤ t := h.timely.le_of_time? rfl t ht
    rw [hmarks]
    exact Nat.le_trans (Nat.add_le_of_le_sub' hstart hpast) hlater

/-- A connection lives through the first events of its life. -/
theorem Lived.follow (h : Lived m id r (seen ++ rest)) :
    ∃ r', r.Becomes r' ∧ Lived (m.follow seen) id r' rest := by
  induction seen generalizing m r with
  | nil => exact ⟨r, .refl r, h⟩
  | cons e seen ih =>
    obtain ⟨r', hr', hlived⟩ := h.observe
    obtain ⟨r'', hr'', hlived'⟩ := ih hlived
    exact ⟨r'', hr'.trans hr'', hlived'⟩

/-- The record behind a phase that is seen later. -/
theorem Lived.of_mem_phasesOf {x : Instant × Phase} (h : Lived m id r events)
    (hx : x ∈ m.phasesOf id events) :
    x.1 ∈ times events ∧ ∃ r', r.Becomes r' ∧ x.2 = r'.phase m.marks.grace x.1 ∧
      (r'.closing = true → r.established + m.marks.grace.nanos ≤ x.1) := by
  obtain ⟨seen, rest, rfl, hphase⟩ := mem_phasesOf hx
  obtain ⟨r', hr', hlived⟩ := h.follow
  have htime : x.1 ∈ times (.look id x.1 :: rest) := by simp [times, Event.time?]
  rw [phase?, show (m.follow seen).records.get? id = some r' from hlived.record, Option.map_some,
    marks_follow] at hphase
  refine ⟨?_, r', hr', (Option.some.inj hphase).symm, fun hclosing => ?_⟩
  · rw [times, List.filterMap_append]
    exact List.mem_append_right _ htime
  · have hpast := hlived.past hclosing x.1 htime
    rwa [hr'.established, marks_follow] at hpast

/-- The phases that are seen never go back. -/
theorem Lived.pairwise_phasesOf (h : Lived m id r events) :
    (m.phasesOf id events).Pairwise fun x y => x.2.rank ≤ y.2.rank := by
  induction events generalizing m r with
  | nil => exact .nil
  | cons e events ih =>
    obtain ⟨r', hr', hlived⟩ := h.observe
    have hrest := ih hlived
    cases e with
    | step => exact hrest
    | look id' now =>
      rw [phasesOf, sees]
      split
      · rename_i hid
        have hphase : m.phase? id now = some (r.phase m.marks.grace now) := by
          rw [phase?, show m.records.get? id = some r from h.record, Option.map_some]
        rw [hphase, Option.map_some, Option.toList_some, List.singleton_append,
          List.pairwise_cons]
        refine ⟨fun y hy => ?_, hrest⟩
        obtain ⟨htime, r'', hr'', hy, -⟩ := hlived.of_mem_phasesOf hy
        rw [hy]
        exact (hr'.trans hr'').rank_phase_le _ (h.timely.le_of_time? rfl _ htime)
      · exact hrest

/-- A connection is selected for closing. -/
def IsClosing (m : ConnectionManager) (id : ConnectionId) : Prop :=
  ∃ r, m.record? id = some r ∧ r.closing = true

/-- What is seen and done between the start of a connection and its end.  The manager `m` has just
tracked it; `life` is what happens until it ends, or until now. -/
structure MovesForward (m : ConnectionManager) (id : ConnectionId) (peer : PeerId)
    (start : Instant) (grace : Duration) (life : List Event) : Prop where
  /-- It is tracked all the time, so that it always shows a phase. -/
  tracked : ∀ seen rest, life = seen ++ rest →
    ∃ r, (m.follow seen).record? id = some r ∧ r.peer = peer ∧ r.established = start
  /-- The phases that are seen never go back. -/
  forward : (m.phasesOf id life).Pairwise fun x y => x.2.rank ≤ y.2.rank
  /-- Before the end of its grace period it is seen in its grace period. -/
  young : ∀ x ∈ m.phasesOf id life, x.1 < start + grace.nanos → x.2 = .grace
  /-- No pass before the end of its grace period selects it. -/
  spared : ∀ seen now rest, life = seen ++ .step (.trim now) :: rest → now < start + grace.nanos →
    id ∉ ((m.follow seen).trim now).1.map Prod.snd
  /-- Once it is selected, it stays selected. -/
  stays : ∀ seen between rest, life = seen ++ (between ++ rest) →
    (m.follow seen).IsClosing id → (m.follow (seen ++ between)).IsClosing id
  /-- It is selected in a pass that finds it past its grace period and its peer unprotected. -/
  turns : ∀ seen e rest, life = seen ++ e :: rest → ¬(m.follow seen).IsClosing id →
    (m.follow (seen ++ [e])).IsClosing id →
    ∃ now, e = .step (.trim now) ∧ (m.follow seen).phase? id now = some .prunable ∧
      (m.follow seen).isProtected peer = false

theorem Lived.movesForward {life : List Event} (h : Lived m id r life) :
    MovesForward m id r.peer r.established m.marks.grace life where
  tracked seen rest hlife := by
    rw [hlife] at h
    obtain ⟨r', hr', hlived⟩ := h.follow
    exact ⟨r', hlived.record, hr'.peer, hr'.established⟩
  forward := h.pairwise_phasesOf
  young x hx hearly := by
    obtain ⟨htime, r', hr', hphase, hpast⟩ := h.of_mem_phasesOf hx
    have hstart : r.established ≤ x.1 := h.since x.1 htime
    have hopen' : r'.closing = false := by
      rw [Bool.eq_false_iff]
      intro hclosing
      exact Nat.not_le_of_lt hearly (hpast hclosing)
    rw [hphase]
    refine Record.phase_of_young hopen' ?_
    rw [Record.age, hr'.established]
    exact Nat.sub_lt_left_of_lt_add hstart hearly
  spared seen now rest hlife hearly hmem := by
    rw [hlife] at h
    obtain ⟨r', hr', hlived⟩ := h.follow
    have hstart : r'.established ≤ now := hlived.since now (by simp [times, Event.time?])
    have hpast := (eligible_of_mem_trim hmem hlived.record).past
    rw [marks_follow] at hpast
    have hlate := Nat.add_le_of_le_sub' hstart hpast
    rw [hr'.established] at hlate
    exact Nat.not_le_of_lt hearly hlate
  stays seen between rest hlife hclosing := by
    rw [hlife] at h
    obtain ⟨r', -, hlived⟩ := h.follow
    obtain ⟨r'', hr'', hlived'⟩ := hlived.follow
    obtain ⟨r₀, hr₀, hclosing⟩ := hclosing
    rw [follow_append]
    refine ⟨r'', hlived'.record, hr''.closing ?_⟩
    rwa [Option.some.inj (hlived.record.symm.trans hr₀)]
  turns seen e rest hlife hbefore hafter := by
    rw [hlife] at h
    obtain ⟨r', hr', hlived⟩ := h.follow
    have hend : e ≠ .step (.disconnect id) := (List.ne_of_not_mem_cons hlived.lasts).symm
    rw [follow_append] at hafter
    obtain ⟨r'', hr'', hclosing⟩ := hafter
    replace hr'' : ((m.follow seen).observe e).record? id = some r'' := hr''
    rcases record?_observe hlived.record hlived.connectsNew.1 hend with
      hsame | ⟨now, he, heligible, -⟩
    · rw [Option.some.inj (hr''.symm.trans hsame)] at hclosing
      exact absurd ⟨r', hlived.record, hclosing⟩ hbefore
    · refine ⟨now, he, ?_, ?_⟩
      · rw [phase?, show (m.follow seen).records.get? id = some r' from hlived.record,
          Option.map_some, phase_eq_prunable_iff.mpr ⟨heligible.isOpen, heligible.past⟩]
      · rw [← hr'.peer]
        exact heligible.free

/-- In every run in which no time goes back and no tracked connection is reported as established,
the life of every connection moves forward: the phases that are seen of it never go back; before its
grace period has passed it is seen in it and no pass selects it; once it is selected it stays so
until it ends; and it is selected only by a pass that finds it past its grace period and its peer
unprotected. -/
theorem run_moves_forward (marks : Watermarks) (events : List Event)
    (hnew : (ofMarks marks).ConnectsNew events) (htimes : Timely events)
    {before life after : List Event} {peer : PeerId} {direction : Direction} {start : Instant}
    (hevents : events = before ++ .step (.connect id peer direction start) :: (life ++ after))
    (hlife : .step (.disconnect id) ∉ life) :
    MovesForward (((ofMarks marks).follow before).connect id peer direction start) id peer start
      marks.grace life := by
  rw [hevents] at hnew htimes
  have hborn := (connectsNew_append.mp hnew).2.2
  have hgrace : (((ofMarks marks).follow before).connect id peer direction start).marks = marks :=
    (settings_connect _ id peer direction start).1.trans ((ofMarks marks).marks_follow before)
  have hrest : Timely (.step (.connect id peer direction start) :: (life ++ after)) :=
    htimes.sublist ((List.sublist_append_right _ _).filterMap Event.time?)
  have hsub : (times life).Sublist (times (life ++ after)) :=
    (List.sublist_append_left _ _).filterMap Event.time?
  have hlived : Lived (((ofMarks marks).follow before).connect id peer direction start) id
      ⟨peer, direction, start, false⟩ life := by
    refine ⟨?_, (connectsNew_append.mp hborn).1, hlife, hrest.of_cons.sublist hsub,
      fun t ht => hrest.le_of_time? rfl t (hsub.subset ht), fun hclosing => ?_⟩
    · rw [record?_connect, if_pos rfl]
    · cases hclosing
  have hmoves := hlived.movesForward
  rwa [hgrace] at hmoves

/-- A connection is seen in each of its phases.  The first pass comes too early, the second finds
its peer protected, and the third selects it. -/
theorem run_moves_forward_selected :
    let a : PeerId := ⟨.sha256, [1]⟩
    let b : PeerId := ⟨.sha256, [2]⟩
    let marks : Watermarks := ⟨0, 1, ⟨5, by decide⟩, .zero, by decide, by decide⟩
    let life : List Event := [
      .look 1 2, .step (.connect 2 b .outbound 2), .step (.trim 3), .look 1 5,
      .step (.protect a "relay"), .step (.trim 5), .step (.unprotect a "relay"), .step (.trim 6),
      .look 1 6]
    let events := [] ++ .step (.connect 1 a .inbound 0) :: (life ++ [.step (.disconnect 1)])
    let m := (ofMarks marks).connect 1 a .inbound 0
    (ofMarks marks).ConnectsNew events ∧ Timely events ∧ .step (.disconnect 1) ∉ life ∧
    MovesForward m 1 a 0 marks.grace life ∧
    m.phasesOf 1 life = [(2, .grace), (5, .prunable), (6, .closing)] := by
  intro a b marks life events m
  have hnew : (ofMarks marks).ConnectsNew events := by decide
  have htimes : Timely events := by decide
  have hlife : .step (.disconnect 1) ∉ life := by simp [life]
  exact ⟨hnew, htimes, hlife, run_moves_forward marks events hnew htimes rfl hlife,
    by decide +kernel⟩

end ConnectionManager

end CircuitRelay
