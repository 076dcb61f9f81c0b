import CircuitRelay.Connection.Closing
import CircuitRelay.Proofs.Connection.Pass
import Mathlib.Data.List.Induction

/-!
# Every selected connection is closed once

A pass marks the records of the connections that it selects, and the queue holds those that the
swarm was not told yet.  The two are kept by different components and follow different events: a
pass writes to both, a connection that closes by itself leaves both, a poll shortens the queue
alone.  Along a run they stay in step, provided that the swarm names every connection anew.

A run is compared with two lists that only grow: what its passes selected and what its polls
emitted.  The queue behind the emitted connections is a sublist of the selected ones, and whatever
is missing there has closed.

* `Step`, `perform`, `run`: runs of the queue, with others working on its manager.
* `noted`: the queue after a step and before the pass that the step may run; `perform_of_pass`.
* `gather`, `selects`, `emits`: what the passes of a run select and its polls emit.
* `Follows`: what the queue and the manager have to do with the two lists; `Follows.pass` and
  `Follows.noted` keep it.
* `run_closes`: the state of the queue after any run.
-/

namespace CircuitRelay

open Connection

namespace ConnectionManager

/-! ## Records of connections that come and go -/

theorem records_connect (m : ConnectionManager) (id : ConnectionId) (peer : PeerId)
    (direction : Direction) (now : Instant) :
    (m.connect id peer direction now).records =
      m.records.insert id ⟨peer, direction, now, false⟩ := by
  unfold connect
  split
  · rfl
  · rfl

theorem records_disconnect (m : ConnectionManager) (id : ConnectionId) :
    (m.disconnect id).records = m.records.erase id := by
  unfold disconnect
  split
  · rename_i hid
    exact (Table.erase_eq_self hid).symm
  · rename_i r hr
    cases r.closing with
    | true => rfl
    | false => rfl

theorem record?_connect (m : ConnectionManager) (id id' : ConnectionId) (peer : PeerId)
    (direction : Direction) (now : Instant) :
    (m.connect id peer direction now).record? id' =
      if id = id' then some ⟨peer, direction, now, false⟩ else m.record? id' := by
  rw [record?, records_connect, Table.get?_insert]
  rfl

theorem record?_disconnect (m : ConnectionManager) (id id' : ConnectionId) :
    (m.disconnect id).record? id' = if id = id' then none else m.record? id' := by
  rw [record?, records_disconnect, Table.get?_erase]
  rfl

end ConnectionManager

namespace ClosingQueue

variable {q : ClosingQueue} {now : Instant}

/-! ## Runs -/

/-- Whatever can happen to the queue and to the manager that it shares. -/
inductive Step where
  /-- A connection was established at `now`; the pass that may follow is at `passAt`. -/
  | established (id : ConnectionId) (peer : PeerId) (direction : Direction) (now passAt : Instant)
  | closed (id : ConnectionId)
  | trim (now : Instant)
  | poll
  | protect (peer : PeerId) (tag : String)
  | unprotect (peer : PeerId) (tag : String)
  | tag (peer : PeerId) (name : String) (value : Int64)
  | untag (peer : PeerId) (name : String)
  | close
  deriving DecidableEq

variable {step : Step} {steps : List Step}

/-- The queue after a step. -/
def perform (q : ClosingQueue) : Step → ClosingQueue
  | .established id peer direction now passAt => q.established id peer direction now passAt
  | .closed id => q.closed id
  | .trim now => (q.trim now).2
  | .poll => q.poll.2
  | .protect peer tag => { q with manager := q.manager.protect peer tag }
  | .unprotect peer tag => { q with manager := (q.manager.unprotect peer tag).2 }
  | .tag peer name value => { q with manager := q.manager.tag peer name value }
  | .untag peer name => { q with manager := q.manager.untag peer name }
  | .close => { q with manager := q.manager.close }

/-- The queue after a run. -/
def run (q : ClosingQueue) (steps : List Step) : ClosingQueue := steps.foldl perform q

theorem run_append (q : ClosingQueue) (before after : List Step) :
    q.run (before ++ after) = (q.run before).run after :=
  List.foldl_append

/-- The time of the pass that a step runs, if it runs one. -/
def Step.passAt? : Step → Option Instant
  | .established _ _ _ _ now | .trim now => some now
  | _ => none

/-- The queue after a step was noted, and before the pass that the step runs. -/
def noted (q : ClosingQueue) : Step → ClosingQueue
  | .established id peer direction now _ =>
    { q with manager := q.manager.connect id peer direction now }
  | .trim _ => q
  | step => q.perform step

/-- A pass is only run on a need, which the pass would find out itself. -/
theorem established_eq (q : ClosingQueue) (id : ConnectionId) (peer : PeerId)
    (direction : Direction) (now passAt : Instant) :
    q.established id peer direction now passAt =
      ({ q with manager := q.manager.connect id peer direction now }.trim passAt).2 := by
  unfold established
  dsimp only
  split
  · rfl
  · rename_i hneeds
    have hneeds' : (q.manager.connect id peer direction now).needsTrim = false := by
      simpa using hneeds
    have hidle : (q.manager.connect id peer direction now).trim passAt =
        ([], q.manager.connect id peer direction now) := by
      rw [ConnectionManager.trim, if_pos (.inl hneeds')]
    simp only [trim, hidle, List.append_nil]

theorem perform_of_pass (h : step.passAt? = some now) :
    q.perform step = ((q.noted step).trim now).2 := by
  cases step with
  | established id peer direction opened passAt =>
    cases h
    exact q.established_eq id peer direction opened now
  | trim now' =>
    cases h
    rfl
  | closed | poll | protect | unprotect | tag | untag | close => cases h

theorem perform_of_no_pass (h : step.passAt? = none) : q.perform step = q.noted step := by
  cases step with
  | established | trim => cases h
  | closed | poll | protect | unprotect | tag | untag | close => rfl

/-! ## What passes select and polls emit -/

/-- The connections that the pass of a step selects, in order. -/
def selects (q : ClosingQueue) (step : Step) : List (PeerId × ConnectionId) :=
  match step.passAt? with
  | some now => ((q.noted step).manager.trim now).1
  | none => []

/-- The connection that a poll hands to the swarm. -/
def emits (q : ClosingQueue) : Step → List (PeerId × ConnectionId)
  | .poll => q.poll.1.toList
  | _ => []

/-- What is observed along a run, step after step. -/
def gather (observe : ClosingQueue → Step → List (PeerId × ConnectionId)) (q : ClosingQueue) :
    List Step → List (PeerId × ConnectionId)
  | [] => []
  | step :: rest => observe q step ++ gather observe (q.perform step) rest

theorem gather_append (observe : ClosingQueue → Step → List (PeerId × ConnectionId))
    (q : ClosingQueue) (before after : List Step) :
    q.gather observe (before ++ after) =
      q.gather observe before ++ (q.run before).gather observe after := by
  induction before generalizing q with
  | nil => rfl
  | cons step before ih =>
    rw [List.cons_append, gather, gather, ih, List.append_assoc]
    rfl

theorem gather_singleton (observe : ClosingQueue → Step → List (PeerId × ConnectionId))
    (q : ClosingQueue) (step : Step) : q.gather observe [step] = observe q step :=
  List.append_nil _

/-- The queue is emitted in order when it is polled often enough. -/
theorem gather_polls (q : ClosingQueue) :
    q.gather emits (List.replicate q.queue.length .poll) = q.queue := by
  obtain ⟨m, queue⟩ := q
  induction queue with
  | nil => rfl
  | cons e queue ih =>
    rw [List.length_cons, List.replicate_succ, gather]
    show [e] ++ gather emits ⟨m, queue⟩ (List.replicate queue.length .poll) = _
    rw [ih, List.singleton_append]

/-! ## Names of connections -/

/-- The connection that a step reports as established. -/
def Step.opened? : Step → Option ConnectionId
  | .established id _ _ _ _ => some id
  | _ => none

/-- The connection that a step reports as established or as closed. -/
def Step.named? : Step → Option ConnectionId
  | .established id _ _ _ _ | .closed id => some id
  | _ => none

/-- The swarm names every connection anew: one that is reported as established was not reported
before. -/
def Fresh (steps : List Step) : Prop :=
  steps.Pairwise fun earlier later => later.opened? = none ∨ earlier.named? ≠ later.opened?

instance (steps : List Step) : Decidable (Fresh steps) :=
  inferInstanceAs (Decidable (List.Pairwise _ _))

theorem Fresh.of_append {before after : List Step} (h : Fresh (before ++ after)) : Fresh before :=
  (List.pairwise_append.mp h).1

theorem Fresh.named?_ne {id : ConnectionId} (h : Fresh (steps ++ [step]))
    (hid : step.opened? = some id) : ∀ earlier ∈ steps, earlier.named? ≠ some id := by
  intro earlier hearlier
  have hpair := (List.pairwise_append.mp h).2.2 earlier hearlier step (List.mem_singleton_self step)
  rw [hid] at hpair
  rcases hpair with hnone | hne
  · cases hnone
  · exact hne

/-! ## Queue, records and the two lists -/

/-- A connection is tracked with the peer under which it was selected, and marked. -/
def IsMarked (q : ClosingQueue) (e : PeerId × ConnectionId) : Prop :=
  ∃ r, q.manager.record? e.2 = some r ∧ r.closing = true ∧ r.peer = e.1

variable {selected emitted : List (PeerId × ConnectionId)}

/-- What the queue and the manager have to do with the run that led to them: its steps, what its
passes selected and what its polls emitted. -/
structure Follows (q : ClosingQueue) (steps : List Step)
    (selected emitted : List (PeerId × ConnectionId)) : Prop where
  reported : ∀ id r, q.manager.record? id = some r → ∃ step ∈ steps, step.named? = some id
  ended : ∀ id, .closed id ∈ steps → q.manager.record? id = none
  nodup : (selected.map Prod.snd).Nodup
  marked : ∀ e ∈ selected, .closed e.2 ∈ steps ∨ q.IsMarked e
  chosen : ∀ id r, q.manager.record? id = some r → r.closing = true → id ∈ selected.map Prod.snd
  order : (emitted ++ q.queue).Sublist selected
  rest : ∀ e ∈ selected, e ∈ emitted ++ q.queue ∨ .closed e.2 ∈ steps
  waiting : ∀ e ∈ q.queue, .closed e.2 ∉ steps

theorem follows_ofMarks (marks : Watermarks) : Follows (ofMarks marks) [] [] [] where
  reported id r hr := by cases hr
  ended id hid := by cases hid
  nodup := List.nodup_nil
  marked e he := by cases he
  chosen id r hr := by cases hr
  order := .slnil
  rest e he := by cases he
  waiting e he := by cases he

/-- A step that names no connection matters only by what it does. -/
theorem Follows.snoc (h : Follows q steps selected emitted) (hstep : step.named? = none) :
    Follows q (steps ++ [step]) selected emitted := by
  have hclosed : ∀ id, .closed id ∈ steps ++ [step] ↔ .closed id ∈ steps := by
    intro id
    have hne : Step.closed id ≠ step := by
      rintro rfl
      cases hstep
    simp [hne]
  refine ⟨fun id r hr => ?_, fun id hid => h.ended id ((hclosed id).mp hid), h.nodup,
    fun e he => ?_, h.chosen, h.order, fun e he => ?_, fun e he => ?_⟩
  · obtain ⟨earlier, hearlier, hnamed⟩ := h.reported id r hr
    exact ⟨earlier, List.mem_append_left _ hearlier, hnamed⟩
  · rw [hclosed]
    exact h.marked e he
  · rw [hclosed]
    exact h.rest e he
  · rw [hclosed]
    exact h.waiting e he

/-- Only the records of the manager matter. -/
theorem Follows.congr {m : ConnectionManager} (h : Follows q steps selected emitted)
    (hm : m.records = q.manager.records) :
    Follows { q with manager := m } steps selected emitted := by
  have hrecord : ∀ id, m.record? id = q.manager.record? id := by
    intro id
    rw [ConnectionManager.record?, ConnectionManager.record?, hm]
  refine ⟨fun id r hr => ?_, fun id hid => ?_, h.nodup, fun e he => ?_, fun id r hr => ?_,
    h.order, h.rest, h.waiting⟩
  · exact h.reported id r (hrecord id ▸ hr)
  · exact (hrecord id).trans (h.ended id hid)
  · refine (h.marked e he).imp_right ?_
    rintro ⟨r, hr, hmarked⟩
    exact ⟨r, (hrecord e.2).trans hr, hmarked⟩
  · exact h.chosen id r (hrecord id ▸ hr)

/-! ## One step -/

/-- A pass selects connections that were tracked and not selected before; they join the queue. -/
theorem Follows.pass (h : Follows q steps selected emitted) (now : Instant) :
    Follows (q.trim now).2 steps (selected ++ (q.manager.trim now).1) emitted := by
  have hmarks := q.manager.marks_trim now
  have hids : (q.manager.trim now).1.map Prod.snd = (q.manager.chosen now).map (·.id) := by
    rw [q.manager.trim_fst, List.map_map]
    rfl
  -- what is known of a connection that the pass selects
  have hnew : ∀ e ∈ (q.manager.trim now).1, ∃ r, q.manager.record? e.2 = some r ∧
      r.closing = false ∧ r.peer = e.1 := by
    intro e he
    rw [q.manager.trim_fst, List.mem_map] at he
    obtain ⟨c, hc, rfl⟩ := he
    obtain ⟨id, r, hr, heligible, rfl⟩ :=
      ConnectionManager.mem_candidates_iff.mp ((q.manager.chosen_sublist now).subset hc)
    exact ⟨r, hr, heligible.isOpen, rfl⟩
  have hrecord : ∀ id, (q.manager.trim now).2.record? id =
      if id ∈ (q.manager.trim now).1.map Prod.snd then
        (q.manager.record? id).map ConnectionManager.marked
      else q.manager.record? id := by
    intro id
    rw [hids]
    exact hmarks.records id
  refine ⟨fun id r hr => ?_, fun id hid => ?_, ?_, fun e he => ?_, fun id r hr hclosing => ?_, ?_,
    fun e he => ?_, fun e he => ?_⟩
  · -- the tracked connections are the same as before
    have hr' : (q.manager.trim now).2.record? id = some r := hr
    rw [hrecord] at hr'
    split at hr'
    · obtain ⟨r', hr', -⟩ := Option.map_eq_some_iff.mp hr'
      exact h.reported id r' hr'
    · exact h.reported id r hr'
  · show (q.manager.trim now).2.record? id = none
    rw [hrecord, h.ended id hid]
    exact ite_self _
  · rw [List.map_append, List.nodup_append]
    refine ⟨h.nodup, q.manager.nodup_trim now, ?_⟩
    rintro id hold _ hid rfl
    obtain ⟨e, he, rfl⟩ := List.mem_map.mp hold
    obtain ⟨e', he', hsame⟩ := List.mem_map.mp hid
    obtain ⟨r, hr, hopen, -⟩ := hnew e' he'
    rw [hsame] at hr
    rcases h.marked e he with hclosed | ⟨r', hr', hclosing, -⟩
    · rw [h.ended _ hclosed] at hr
      cases hr
    · rw [hr] at hr'
      cases hr'
      rw [hopen] at hclosing
      cases hclosing
  · rcases List.mem_append.mp he with he | he
    · refine (h.marked e he).imp_right ?_
      rintro ⟨r, hr, hclosing, hpeer⟩
      show ∃ r, (q.manager.trim now).2.record? e.2 = some r ∧ _
      rw [hrecord, hr]
      split
      · exact ⟨_, rfl, rfl, hpeer⟩
      · exact ⟨r, rfl, hclosing, hpeer⟩
    · obtain ⟨r, hr, -, hpeer⟩ := hnew e he
      refine .inr ⟨ConnectionManager.marked r, ?_, rfl, hpeer⟩
      show (q.manager.trim now).2.record? e.2 = _
      rw [hrecord, if_pos (List.mem_map_of_mem he), hr]
      rfl
  · have hr' : (q.manager.trim now).2.record? id = some r := hr
    rw [List.map_append, List.mem_append]
    rw [hrecord] at hr'
    split at hr'
    · rename_i hid
      exact .inr hid
    · exact .inl (h.chosen id r hr' hclosing)
  · show (emitted ++ (q.queue ++ (q.manager.trim now).1)).Sublist _
    rw [← List.append_assoc]
    exact h.order.append_right _
  · show e ∈ emitted ++ (q.queue ++ (q.manager.trim now).1) ∨ _
    rw [← List.append_assoc]
    rcases List.mem_append.mp he with he | he
    · exact (h.rest e he).imp_left (List.mem_append_left _)
    · exact .inl (List.mem_append_right _ he)
  · rcases List.mem_append.mp he with he | he
    · exact h.waiting e he
    · -- a connection that has closed is not tracked
      intro hclosed
      obtain ⟨r, hr, -⟩ := hnew e he
      rw [h.ended _ hclosed] at hr
      cases hr

/-- A connection with a new name is tracked and not marked. -/
theorem Follows.established (h : Follows q steps selected emitted) (id : ConnectionId)
    (peer : PeerId) (direction : Direction) (now passAt : Instant)
    (hfresh : ∀ earlier ∈ steps, earlier.named? ≠ some id) :
    Follows (q.noted (.established id peer direction now passAt))
      (steps ++ [.established id peer direction now passAt]) selected emitted := by
  have hclosed : ∀ id', .closed id' ∈ steps ++ [.established id peer direction now passAt] ↔
      .closed id' ∈ steps := by
    simp
  have hnew : .closed id ∉ steps := fun hmem => hfresh _ hmem rfl
  have hrecord : ∀ id', (q.noted (.established id peer direction now passAt)).manager.record? id' =
      if id = id' then some ⟨peer, direction, now, false⟩ else q.manager.record? id' :=
    fun id' => q.manager.record?_connect id id' peer direction now
  refine ⟨fun id' r hr => ?_, fun id' hid' => ?_, h.nodup, fun e he => ?_,
    fun id' r hr hclosing => ?_, h.order, fun e he => ?_, fun e he => ?_⟩
  · rw [hrecord] at hr
    split at hr
    · rename_i hid
      exact ⟨_, List.mem_append_right _ (List.mem_singleton_self _), congrArg some hid⟩
    · obtain ⟨earlier, hearlier, hnamed⟩ := h.reported id' r hr
      exact ⟨earlier, List.mem_append_left _ hearlier, hnamed⟩
  · rw [hclosed] at hid'
    rw [hrecord, if_neg]
    · exact h.ended id' hid'
    · rintro rfl
      exact hnew hid'
  · rw [hclosed]
    refine (h.marked e he).imp_right ?_
    rintro ⟨r, hr, hmarked⟩
    refine ⟨r, ?_, hmarked⟩
    rw [hrecord, if_neg]
    · exact hr
    · rintro rfl
      obtain ⟨earlier, hearlier, hnamed⟩ := h.reported e.2 r hr
      exact hfresh earlier hearlier hnamed
  · rw [hrecord] at hr
    split at hr
    · cases hr
      cases hclosing
    · exact h.chosen id' r hr hclosing
  · rw [hclosed]
    exact h.rest e he
  · rw [hclosed]
    exact h.waiting e he

/-- A connection that closes is neither tracked nor queued any more. -/
theorem Follows.closed (h : Follows q steps selected emitted) (id : ConnectionId) :
    Follows (q.closed id) (steps ++ [.closed id]) selected emitted := by
  have hclosed : ∀ id', .closed id' ∈ steps ++ [.closed id] ↔ .closed id' ∈ steps ∨ id' = id := by
    simp
  have hrecord : ∀ id', (q.closed id).manager.record? id' =
      if id = id' then none else q.manager.record? id' :=
    fun id' => q.manager.record?_disconnect id id'
  refine ⟨fun id' r hr => ?_, fun id' hid' => ?_, h.nodup, fun e he => ?_,
    fun id' r hr hclosing => ?_, ?_, fun e he => ?_, fun e he => ?_⟩
  · rw [hrecord] at hr
    split at hr
    · cases hr
    · obtain ⟨earlier, hearlier, hnamed⟩ := h.reported id' r hr
      exact ⟨earlier, List.mem_append_left _ hearlier, hnamed⟩
  · rw [hrecord]
    split
    · rfl
    · rename_i hid
      rcases (hclosed id').mp hid' with hid' | hid'
      · exact h.ended id' hid'
      · exact absurd hid'.symm hid
  · rw [hclosed]
    by_cases hid : e.2 = id
    · exact .inl (.inr hid)
    · rcases h.marked e he with hold | ⟨r, hr, hmarked⟩
      · exact .inl (.inl hold)
      · refine .inr ⟨r, ?_, hmarked⟩
        rw [hrecord, if_neg (Ne.symm hid)]
        exact hr
  · rw [hrecord] at hr
    split at hr
    · cases hr
    · exact h.chosen id' r hr hclosing
  · exact (List.filter_sublist.append_left emitted).trans h.order
  · rw [hclosed]
    by_cases hid : e.2 = id
    · exact .inr (.inr hid)
    · refine (h.rest e he).imp ?_ .inl
      intro hmem
      rcases List.mem_append.mp hmem with hmem | hmem
      · exact List.mem_append_left _ hmem
      · exact List.mem_append_right _ (List.mem_filter.mpr ⟨hmem, by simpa using hid⟩)
  · obtain ⟨hmem, hid⟩ := List.mem_filter.mp he
    rw [hclosed]
    rintro (hold | hid')
    · exact h.waiting e hmem hold
    · simp [hid'] at hid

/-- A poll moves the head of the queue to the end of what was emitted. -/
theorem Follows.poll (h : Follows q steps selected emitted) :
    Follows q.poll.2 steps selected (emitted ++ q.poll.1.toList) := by
  obtain ⟨m, queue⟩ := q
  cases queue with
  | nil =>
    have hnil : emitted ++ (poll ⟨m, []⟩).1.toList = emitted := List.append_nil _
    rw [hnil]
    exact h
  | cons e queue =>
    have hmove : emitted ++ e :: queue = emitted ++ [e] ++ queue := List.append_cons ..
    refine ⟨h.reported, h.ended, h.nodup, h.marked, h.chosen, ?_, fun e' he' => ?_,
      fun e' he' => h.waiting e' (List.mem_cons_of_mem e he')⟩
    · show (emitted ++ [e] ++ queue).Sublist selected
      rw [← hmove]
      exact h.order
    · show e' ∈ emitted ++ [e] ++ queue ∨ _
      rw [← hmove]
      exact h.rest e' he'

theorem emits_of_ne_poll (h : step ≠ .poll) : q.emits step = [] := by
  cases step with
  | poll => exact absurd rfl h
  | established | closed | trim | protect | unprotect | tag | untag | close => rfl

/-- What a step does before its pass. -/
theorem Follows.noted (h : Follows q steps selected emitted) (hfresh : Fresh (steps ++ [step])) :
    Follows (q.noted step) (steps ++ [step]) selected (emitted ++ q.emits step) := by
  by_cases hpoll : step = .poll
  · subst hpoll
    exact h.poll.snoc rfl
  · rw [emits_of_ne_poll hpoll, List.append_nil]
    cases step with
    | poll => exact absurd rfl hpoll
    | established id peer direction now passAt =>
      exact h.established id peer direction now passAt (hfresh.named?_ne rfl)
    | closed id => exact h.closed id
    | trim now => exact h.snoc rfl
    | protect | unprotect | tag | untag | close =>
      -- the standing of a peer, or the end of all passes
      refine Follows.snoc ?_ rfl
      exact h.congr rfl

theorem follows_perform (h : Follows q steps selected emitted) (hfresh : Fresh (steps ++ [step])) :
    Follows (q.perform step) (steps ++ [step]) (selected ++ q.selects step)
      (emitted ++ q.emits step) := by
  have hnoted := h.noted hfresh
  unfold selects
  cases hpass : step.passAt? with
  | none =>
    rw [perform_of_no_pass hpass, List.append_nil]
    exact hnoted
  | some now =>
    rw [perform_of_pass hpass]
    exact hnoted.pass now

theorem follows_run (marks : Watermarks) (hfresh : Fresh steps) :
    Follows ((ofMarks marks).run steps) steps ((ofMarks marks).gather selects steps)
      ((ofMarks marks).gather emits steps) := by
  induction steps using List.reverseRecOn with
  | nil => exact follows_ofMarks marks
  | append_singleton steps step ih =>
    rw [run_append, gather_append, gather_append, gather_singleton, gather_singleton]
    exact follows_perform (ih hfresh.of_append) hfresh

/-! ## The state after a run -/

/-- After any run in which the swarm names every connection anew: the queue holds different
connections, each tracked with its peer and marked; no connection was emitted twice, and the next
one to be emitted was neither emitted before nor has it closed.  The marked connections are those
in the queue and those that were emitted and have not closed yet.  The emitted connections and then
the queued ones come in the order in which they were selected, and a selected connection that is
not among them has closed.  Polling on emits the whole queue. -/
theorem run_closes (marks : Watermarks) (steps : List Step) (hsteps : Fresh steps) :
    let q := (ofMarks marks).run steps
    let selected := (ofMarks marks).gather selects steps
    let emitted := (ofMarks marks).gather emits steps
    ((q.queue.map Prod.snd).Nodup ∧ ∀ e ∈ q.queue, q.IsMarked e) ∧
    ((emitted.map Prod.snd).Nodup ∧
      ∀ e, q.poll.1 = some e → e.2 ∉ emitted.map Prod.snd ∧ .closed e.2 ∉ steps) ∧
    (∀ id, (∃ r, q.manager.record? id = some r ∧ r.closing = true) ↔
      id ∈ q.queue.map Prod.snd ∨ id ∈ emitted.map Prod.snd ∧ .closed id ∉ steps) ∧
    ((emitted ++ q.queue).Sublist selected ∧
      ∀ e ∈ selected, e ∉ emitted → e ∉ q.queue → .closed e.2 ∈ steps) ∧
    q.gather emits (List.replicate q.queue.length .poll) = q.queue := by
  intro q selected emitted
  have h : Follows q steps selected emitted := follows_run marks hsteps
  have hnodup : ((emitted ++ q.queue).map Prod.snd).Nodup := h.nodup.sublist (h.order.map _)
  have hdisjoint := hnodup
  rw [List.map_append, List.nodup_append] at hdisjoint
  obtain ⟨hemitted, hqueue, hapart⟩ := hdisjoint
  have hmarked : ∀ e ∈ emitted ++ q.queue, .closed e.2 ∉ steps → q.IsMarked e := by
    intro e he hopen
    rcases h.marked e (h.order.subset he) with hclosed | hmarked
    · exact absurd hclosed hopen
    · exact hmarked
  refine ⟨⟨hqueue, fun e he => hmarked e (List.mem_append_right _ he) (h.waiting e he)⟩,
    ⟨hemitted, fun e he => ?_⟩, fun id => ⟨?_, ?_⟩, ⟨h.order, fun e he hnot hout => ?_⟩,
    q.gather_polls⟩
  · have hhead : e ∈ q.queue := by
      unfold poll at he
      split at he
      · cases he
      · rename_i hcons
        rw [hcons, ← Option.some.inj he]
        exact List.mem_cons_self
    refine ⟨fun hold => ?_, h.waiting e hhead⟩
    exact hapart e.2 hold e.2 (List.mem_map_of_mem hhead) rfl
  · rintro ⟨r, hr, hclosing⟩
    obtain ⟨e, he, rfl⟩ := List.mem_map.mp (h.chosen id r hr hclosing)
    have hopen : .closed e.2 ∉ steps := by
      intro hclosed
      rw [h.ended e.2 hclosed] at hr
      cases hr
    rcases h.rest e he with hmem | hclosed
    · rcases List.mem_append.mp hmem with hmem | hmem
      · exact .inr ⟨List.mem_map_of_mem hmem, hopen⟩
      · exact .inl (List.mem_map_of_mem hmem)
    · exact absurd hclosed hopen
  · rintro (hid | ⟨hid, hopen⟩)
    · obtain ⟨e, he, rfl⟩ := List.mem_map.mp hid
      obtain ⟨r, hr, hclosing, -⟩ := hmarked e (List.mem_append_right _ he) (h.waiting e he)
      exact ⟨r, hr, hclosing⟩
    · obtain ⟨e, he, rfl⟩ := List.mem_map.mp hid
      obtain ⟨r, hr, hclosing, -⟩ := hmarked e (List.mem_append_left _ he) hopen
      exact ⟨r, hr, hclosing⟩
  · rcases h.rest e he with hmem | hclosed
    · rcases List.mem_append.mp hmem with hmem | hmem
      · exact absurd hmem hnot
      · exact absurd hmem hout
    · exact hclosed

/-- Two connections reach the high mark, the one that the pass selects is emitted, and one of them
closes before a third comes. -/
theorem run_closes_selected :
    let marks : Watermarks := ⟨1, 2, .zero, .zero, by decide, by decide⟩
    let steps : List Step := [
      .established 1 ⟨.sha256, [1]⟩ .inbound 0 0, .established 2 ⟨.sha256, [2]⟩ .outbound 5 6,
      .poll, .closed 1, .established 3 ⟨.sha256, [1]⟩ .inbound 9 9]
    let q := (ofMarks marks).run steps
    let emitted := (ofMarks marks).gather emits steps
    Fresh steps ∧
    (∀ e ∈ q.queue, q.IsMarked e) ∧ (emitted.map Prod.snd).Nodup ∧
    ∀ id, (∃ r, q.manager.record? id = some r ∧ r.closing = true) ↔
      id ∈ q.queue.map Prod.snd ∨ id ∈ emitted.map Prod.snd ∧ .closed id ∉ steps := by
  intro marks steps q emitted
  have hfresh : Fresh steps := by decide
  obtain ⟨hqueue, hemitted, hmarked, -⟩ := run_closes marks steps hfresh
  exact ⟨hfresh, hqueue.2, hemitted.1, hmarked⟩

end ClosingQueue

end CircuitRelay
