import CircuitRelay.Proofs.Runs
import CircuitRelay.Routing.Session

/-!
# Stages of joining

Whether a round is running and when the next one is due are recorded beside the state of joining,
in two fields that every step writes by itself: a round may end by its search, by a tick or by the
end of routing, and a search that cannot begin fails its round at once.  A `Stage` is a state
together with what belongs to it, so that a running round without its search, or a failed round
without a time for the next one, cannot be written down.

A step that may begin a round carries the overlay's answer.  A step that crashes leads nowhere:
`perform?` and `run?` are `none` from there on.

* `Step`, `perform`, `run`, `perform?`, `run?`: runs of joining.
* `asks`, `begins?`, `begun`: the searches that they begin.
* `start_eq`, `retry_eq`, `tick_eq`: what the overlay does to joining is one of these steps.
* `Stage`, `next?`: the stages, and where a step leads from each of them.
* `goes_perform`, `isAt_perform`: the recorded fields are those of a stage.
* `Moves`, `moves_of_next?`: all that a step can do; `next?_eq_none_iff`: when it crashes.
-/

namespace CircuitRelay

/-! ## Stages -/

namespace Bootstrap

variable {b : Bootstrap}

/-- A state of joining with what is recorded in it. -/
inductive Stage where
  | idle
  | bootstrapping (round : Round)
  | active
  /-- The last round failed, and the next one is due at a time. -/
  | degraded (retry : Instant)
  | stopped

namespace Stage

/-- The state of a stage. -/
def state : Stage → RoutingState
  | .idle => .idle
  | .bootstrapping _ => .bootstrapping
  | .active => .active
  | .degraded _ => .degraded
  | .stopped => .stopped

/-- The round that runs in a stage. -/
def round? : Stage → Option Round
  | .bootstrapping round => some round
  | .idle | .active | .degraded _ | .stopped => none

/-- When the next round is due. -/
def due? : Stage → Option Instant
  | .degraded retry => some retry
  | .idle | .bootstrapping _ | .active | .stopped => none

theorem isSome_round?_iff (stage : Stage) :
    stage.round?.isSome ↔ stage.state = .bootstrapping := by
  cases stage <;> simp [round?, state]

theorem isSome_due?_iff (stage : Stage) : stage.due?.isSome ↔ stage.state = .degraded := by
  cases stage <;> simp [due?, state]

theorem round?_eq_some_iff {stage : Stage} {round : Round} :
    stage.round? = some round ↔ stage = .bootstrapping round := by
  cases stage <;> simp [round?]

theorem due?_eq_some_iff {stage : Stage} {due : Instant} :
    stage.due? = some due ↔ stage = .degraded due := by
  cases stage <;> simp [due?]

theorem state_eq_idle_iff {stage : Stage} : stage.state = .idle ↔ stage = .idle := by
  cases stage <;> simp [state]

theorem state_eq_stopped_iff {stage : Stage} : stage.state = .stopped ↔ stage = .stopped := by
  cases stage <;> simp [state]

end Stage

/-- What is recorded is what belongs to a stage. -/
structure IsAt (b : Bootstrap) (stage : Stage) : Prop where
  state : b.state = stage.state
  round : b.round = stage.round?
  nextRetry : b.nextRetry = stage.due?

theorem IsAt.unique {stage stage' : Stage} (h : b.IsAt stage) (h' : b.IsAt stage') :
    stage = stage' := by
  have hstate := h.state.symm.trans h'.state
  have hround := h.round.symm.trans h'.round
  have hretry := h.nextRetry.symm.trans h'.nextRetry
  cases stage <;> cases stage' <;> simp_all [Stage.state, Stage.round?, Stage.due?]

/-- The stage of a round that failed at a time; none if the time of the next one cannot be held. -/
def failed? (b : Bootstrap) (now : Instant) : Option Stage :=
  (Instant.after? now b.retryInterval).map .degraded

/-- The stage after a round was begun: it runs, or it failed because there is no search for it. -/
def opened? (b : Bootstrap) (begun : Option QueryId) (now : Instant) : Option Stage :=
  match begun with
  | some query =>
    (Instant.after? now b.timeout).map fun deadline => .bootstrapping ⟨query, deadline⟩
  | none => b.failed? now

/-- The stage after the search of the running round ended. -/
def concluded? (b : Bootstrap) (now : Instant) : Option Stage :=
  if b.minResponses ≤ b.responded.length then some .active else b.failed? now

/-- On the way to a stage nothing changes but what is recorded of it, and the outcomes. -/
def Leads (b : Bootstrap) (stage : Stage) (b' : Bootstrap) : Prop :=
  ∃ outcomes, b' = { b with
    state := stage.state, round := stage.round?, nextRetry := stage.due?, outcomes := outcomes }

/-- A step leads to a stage, or it crashes. -/
def Goes (b : Bootstrap) (stage? : Option Stage) (b' : Bootstrap) : Prop :=
  match stage? with
  | some stage => b.Leads stage b'
  | none => b' = { b with crashed := true }

theorem IsAt.leads {stage : Stage} (h : b.IsAt stage) : b.Leads stage b :=
  ⟨b.outcomes, by rw [← h.state, ← h.round, ← h.nextRetry]⟩

theorem goes_orCrash {stage? : Option Stage} {after? : Option Bootstrap}
    (h : Option.Rel b.Leads stage? after?) : b.Goes stage? (b.orCrash after?) := by
  cases h with
  | some hleads => exact hleads
  | none => rfl

/-- Entering a state writes the state, and counts an outcome perhaps. -/
theorem leads_enter (stage : Stage) (hround : b.round = stage.round?)
    (hretry : b.nextRetry = stage.due?) : b.Leads stage (b.enter stage.state) := by
  unfold enter Leads
  dsimp only
  rw [← hround, ← hretry]
  split
  · exact ⟨b.outcomes, rfl⟩
  · cases outcomeOf? stage.state with
    | some o => exact ⟨b.outcomes.record o, rfl⟩
    | none => exact ⟨b.outcomes, rfl⟩

theorem leads_degrade? (h : b.round = none) (now : Instant) :
    Option.Rel b.Leads (b.failed? now) (b.degrade? now) := by
  unfold failed? degrade?
  cases Instant.after? now b.retryInterval with
  | none => exact .none
  | some due =>
    exact .some (leads_enter (b := { b with nextRetry := some due }) (.degraded due) h rfl)

theorem leads_beginRound? (h : b.round = none) (begun : Option QueryId) (now : Instant) :
    Option.Rel b.Leads (b.opened? begun now) (b.beginRound? begun now) := by
  cases begun with
  | none => exact leads_degrade? (b := { b with nextRetry := none }) h now
  | some query =>
    unfold opened? beginRound?
    dsimp only
    cases Instant.after? now b.timeout with
    | none => exact .none
    | some deadline =>
      let round : Round := ⟨query, deadline⟩
      exact .some (leads_enter (b := { b with nextRetry := none, round := some round })
        (.bootstrapping round) rfl rfl)

theorem goes_queryEnded {round : Round} (h : b.IsAt (.bootstrapping round)) (now : Instant) :
    b.Goes (b.concluded? now) (b.queryEnded round.query now) := by
  have hround : b.round = some round := h.round
  have hretry : b.nextRetry = none := h.nextRetry
  unfold queryEnded concluded?
  rw [hround]
  dsimp only
  rw [if_pos rfl]
  split
  · exact leads_enter (b := { b with round := none }) .active rfl hretry
  · exact goes_orCrash (leads_degrade? (b := { b with round := none }) rfl now)

/-- The end of a search that belongs to no running round is passed over. -/
theorem queryEnded_of_ne {query : QueryId} (h : b.round.map Round.query ≠ some query)
    (now : Instant) : b.queryEnded query now = b := by
  unfold queryEnded
  cases hround : b.round with
  | none => rfl
  | some round =>
    rw [hround] at h
    exact if_neg fun heq => h (congrArg some heq)

theorem leads_stop {stage : Stage} (h : b.IsAt stage) : b.Leads .stopped b.stop := by
  unfold stop
  split
  · rename_i hstopped
    rw [← Stage.state_eq_stopped_iff.mp (h.state.symm.trans hstopped)]
    exact h.leads
  · cases hround : b.round with
    | none =>
      exact leads_enter (b := { b with nextRetry := none }) .stopped hround rfl
    | some round =>
      obtain ⟨outcomes, heq⟩ := leads_enter .stopped
        (b := { { b with round := none }.record .aborted with nextRetry := none }) rfl rfl
      exact ⟨outcomes, heq⟩

end Bootstrap

/-! ## Steps -/

namespace Routing

open Bootstrap

/-- Whatever can happen to joining.  The steps that may begin a round carry the overlay's answer,
which only matters when they ask. -/
inductive Step where
  | start (begun : Option QueryId) (now : Instant)
  | retry (begun : Option QueryId) (now : Instant)
  | connected (peer : PeerId)
  | disconnected (peer : PeerId)
  | progress (p : Progress) (now : Instant)
  | tick (begun : Option QueryId) (now : Instant)
  | stop
  deriving DecidableEq

variable {r : Routing} {stage : Stage} {step : Step} {before after steps : List Step}
  {peer : PeerId} {round : Round} {now : Instant}

/-- Joining after a step. -/
def perform (r : Routing) : Step → Routing
  | .start begun now => r.mapBootstrap (·.start begun now)
  | .retry begun now => r.mapBootstrap (·.retry begun now)
  | .connected peer => r.mapBootstrap (·.peerConnected peer)
  | .disconnected peer => r.mapBootstrap (·.peerDisconnected peer)
  | .progress p now => r.progressed p now
  | .tick begun now => r.mapBootstrap (·.tick begun now)
  | .stop => r.stop

/-- Joining after a run. -/
def run (r : Routing) (steps : List Step) : Routing := steps.foldl perform r

/-- Joining after a step, unless the step crashes. -/
def perform? (r : Routing) (step : Step) : Option Routing :=
  if (r.perform step).bootstrap.crashed then none else some (r.perform step)

/-- Joining after a run, unless one of its steps crashes. -/
def run? (r : Routing) (steps : List Step) : Option Routing := steps.foldlM perform? r

theorem run_append (r : Routing) (before after : List Step) :
    r.run (before ++ after) = (r.run before).run after :=
  List.foldl_append

theorem run_snoc (r : Routing) (steps : List Step) (step : Step) :
    r.run (steps ++ [step]) = (r.run steps).perform step := by
  rw [run_append]
  rfl

theorem perform?_eq_some_iff {r' : Routing} :
    r.perform? step = some r' ↔
      (r.perform step).bootstrap.crashed = false ∧ r.perform step = r' := by
  unfold perform?
  cases (r.perform step).bootstrap.crashed <;> simp

theorem run?_snoc (r : Routing) (steps : List Step) (step : Step) :
    r.run? (steps ++ [step]) = (r.run? steps).bind fun after => after.perform? step := by
  simp [run?, List.foldlM_append]

/-- Whether a step asks the overlay for a search. -/
def asks (r : Routing) : Step → Bool
  | .start _ _ => r.bootstrap.startAsks
  | .retry _ _ => r.bootstrap.retryAsks
  | .tick _ now => r.bootstrap.tickAsks now
  | .connected _ | .disconnected _ | .progress _ _ | .stop => false

/-- The search in the overlay's answer that a step carries, with the time of the step. -/
def Step.answer? : Step → Option (QueryId × Instant)
  | .start begun now | .retry begun now | .tick begun now => begun.map fun query => (query, now)
  | .connected _ | .disconnected _ | .progress _ _ | .stop => none

/-- The time of a step, if it has one. -/
def Step.time? : Step → Option Instant
  | .start _ now | .retry _ now | .progress _ now | .tick _ now => some now
  | .connected _ | .disconnected _ | .stop => none

/-- The search that a step begins, and when. -/
def begins? (r : Routing) (step : Step) : Option (QueryId × Instant) :=
  if r.asks step then step.answer? else none

/-- The searches that a run begins, in order. -/
def begun (r : Routing) : List Step → List QueryId
  | [] => []
  | step :: rest => ((r.begins? step).map Prod.fst).toList ++ (r.perform step).begun rest

theorem begun_append (r : Routing) (before after : List Step) :
    r.begun (before ++ after) = r.begun before ++ (r.run before).begun after := by
  induction before generalizing r with
  | nil => rfl
  | cons step before ih =>
    rw [List.cons_append, begun, begun, ih, List.append_assoc]
    rfl

/-! ## What the overlay does to joining -/

theorem start_eq (r : Routing) (o : Overlay) (now : Instant) :
    ∃ begun, (r.start o now).1 = r.perform (.start begun now) :=
  ⟨_, rfl⟩

theorem retry_eq (r : Routing) (o : Overlay) (now : Instant) :
    ∃ step, (r.retry o now).1 = r.perform step := by
  unfold retry
  split
  · exact ⟨.start _ now, rfl⟩
  · exact ⟨.retry _ now, rfl⟩

theorem tick_eq (r : Routing) (o : Overlay) (now : Instant) :
    ∃ begun, (r.tick o now).1 = r.perform (.tick begun now) :=
  ⟨_, rfl⟩

/-! ## Where a step leads -/

/-- Whether a report is the last one about the search of a round. -/
def Progress.ends (p : Progress) (round : Round) : Bool :=
  p.joins && p.last && p.query = round.query

/-- Whether a step ends a running round. -/
def Step.ends (round : Round) : Step → Bool
  | .progress p _ => p.ends round
  | .tick _ now => round.deadline ≤ now
  | .stop => true
  | .start _ _ | .retry _ _ | .connected _ | .disconnected _ => false

/-- Whether the running round fails in a step: its search ends while too few seeds are connected,
or it takes too long. -/
def losesRound (r : Routing) : Step → Bool
  | .progress p _ => r.bootstrap.round.any p.ends &&
      r.bootstrap.responded.length < r.bootstrap.minResponses
  | .tick _ now => r.bootstrap.round.any (·.deadline ≤ now)
  | .start _ _ | .retry _ _ | .connected _ | .disconnected _ | .stop => false

/-- Whether a round fails in a step: the running one, or one that there is no search for. -/
def fails (r : Routing) (step : Step) : Bool :=
  r.losesRound step || r.asks step && step.answer?.isNone

/-- Whether a step asks for a search in a stage. -/
def asksAt : Stage → Step → Bool
  | .idle, .start _ _ | .idle, .retry _ _ | .active, .retry _ _ | .degraded _, .retry _ _ => true
  | .degraded due, .tick _ now => due ≤ now
  | _, _ => false

/-- The stage after a step, unless the step crashes. -/
def next? (b : Bootstrap) : Stage → Step → Option Stage
  | .idle, .start begun now | .idle, .retry begun now => b.opened? begun now
  | .active, .retry begun now | .degraded _, .retry begun now => b.opened? begun now
  | .degraded due, .tick begun now =>
    if due ≤ now then b.opened? begun now else some (.degraded due)
  | .bootstrapping round, .progress p now =>
    if p.ends round then b.concluded? now else some (.bootstrapping round)
  | .bootstrapping round, .tick _ now =>
    if round.deadline ≤ now then b.failed? now else some (.bootstrapping round)
  | _, .stop => some .stopped
  | stage, _ => some stage

/-- The connected seeds after a step. -/
def respondedAfter (b : Bootstrap) : Step → List PeerId
  | .connected peer => if b.isSeed peer then pushNew b.responded peer else b.responded
  | .disconnected peer => b.responded.filter (· ≠ peer)
  | .start _ _ | .retry _ _ | .progress _ _ | .tick _ _ | .stop => b.responded

theorem asks_eq (h : r.bootstrap.IsAt stage) (step : Step) :
    r.asks step = asksAt stage step := by
  cases step with
  | start begun now =>
    rw [asks, startAsks, h.state]
    cases stage <;> rfl
  | retry begun now =>
    rw [asks, retryAsks, h.state]
    cases stage <;> rfl
  | tick begun now =>
    rw [asks, tickAsks, h.round, h.state, h.nextRetry]
    cases stage <;> simp [Stage.round?, Stage.state, Stage.due?, asksAt]
  | connected | disconnected | progress | stop => cases stage <;> rfl

theorem failed?_eq_some_iff {b : Bootstrap} :
    b.failed? now = some stage ↔ ∃ due, Instant.after? now b.retryInterval = some due ∧
      stage = .degraded due := by
  rw [failed?, Option.map_eq_some_iff]
  exact exists_congr fun due => and_congr_right fun _ => eq_comm

theorem opened?_eq_some_iff {b : Bootstrap} {begun : Option QueryId} :
    b.opened? begun now = some stage ↔
      (∃ query deadline, begun = some query ∧ Instant.after? now b.timeout = some deadline ∧
        stage = .bootstrapping ⟨query, deadline⟩) ∨
      begun = none ∧ ∃ due, Instant.after? now b.retryInterval = some due ∧
        stage = .degraded due := by
  cases begun with
  | none => simp [opened?, failed?_eq_some_iff]
  | some query =>
    simp only [opened?, Option.map_eq_some_iff, Option.some.injEq, exists_and_left,
      exists_eq_left', reduceCtorEq, false_and, or_false]
    exact exists_congr fun deadline => and_congr_right fun _ => eq_comm

theorem failed?_eq_none_iff {b : Bootstrap} :
    b.failed? now = none ↔ Instant.limit ≤ now + b.retryInterval.nanos := by
  rw [failed?, Option.map_eq_none_iff, Instant.after?_eq_none_iff]

theorem opened?_eq_none_iff {b : Bootstrap} {begun : Option QueryId} :
    b.opened? begun now = none ↔
      (begun.isSome ∧ Instant.limit ≤ now + b.timeout.nanos) ∨
      begun.isNone ∧ Instant.limit ≤ now + b.retryInterval.nanos := by
  cases begun with
  | none => simp [opened?, failed?_eq_none_iff]
  | some query => simp [opened?, Instant.after?_eq_none_iff]

theorem concluded?_eq_none_iff {b : Bootstrap} :
    b.concluded? now = none ↔ b.responded.length < b.minResponses ∧
      Instant.limit ≤ now + b.retryInterval.nanos := by
  by_cases henough : b.minResponses ≤ b.responded.length
  · simp [concluded?, henough, Nat.not_lt.mpr henough]
  · simp [concluded?, henough, failed?_eq_none_iff, Nat.lt_of_not_le henough]

/-- Only the last report about the search of the running round matters. -/
theorem goes_progress (h : r.bootstrap.IsAt stage) (p : Progress) (now : Instant) :
    r.bootstrap.Goes (next? r.bootstrap stage (.progress p now))
      (r.progressed p now).bootstrap := by
  have hround := h.round
  unfold progressed
  cases hlast : p.joins && p.last with
  | false =>
    have hnext : next? r.bootstrap stage (.progress p now) = some stage := by
      cases stage with
      | bootstrapping round => exact if_neg (by simp [Progress.ends, hlast])
      | idle | active | degraded | stopped => rfl
    rw [hnext]
    exact h.leads
  | true =>
    show r.bootstrap.Goes _ (r.bootstrap.queryEnded p.query now)
    cases stage with
    | idle | active | degraded | stopped =>
      rw [queryEnded_of_ne (by rw [hround]; nofun)]
      exact h.leads
    | bootstrapping round =>
      by_cases hquery : p.query = round.query
      · rw [hquery, next?, if_pos (by simp [Progress.ends, hlast, hquery])]
        exact goes_queryEnded h now
      · rw [queryEnded_of_ne (by rw [hround]; exact fun heq => hquery (Option.some.inj heq).symm),
          next?, if_neg (by simp [Progress.ends, hquery])]
        exact h.leads

theorem goes_tick (h : r.bootstrap.IsAt stage) (begun : Option QueryId) (now : Instant) :
    r.bootstrap.Goes (next? r.bootstrap stage (.tick begun now)) (r.bootstrap.tick begun now) := by
  have hround := h.round
  have hasks : r.bootstrap.tickAsks now = asksAt stage (.tick begun now) :=
    asks_eq h (.tick begun now)
  unfold Bootstrap.tick
  rw [hround, hasks]
  cases stage with
  | bootstrapping round =>
    show r.bootstrap.Goes (ite _ _ _) (ite _ _ _)
    split
    · exact goes_orCrash (leads_degrade? (b := { r.bootstrap with round := none }) rfl now)
    · exact h.leads
  | degraded due =>
    show r.bootstrap.Goes (ite _ _ _) (ite (decide _ = true) _ _)
    simp only [decide_eq_true_eq]
    split
    · exact goes_orCrash (leads_beginRound? hround begun now)
    · exact h.leads
  | idle | active | stopped => exact h.leads

/-- Every step leads to the next stage or crashes, and follows the connected seeds. -/
theorem goes_perform (h : r.bootstrap.IsAt stage) (step : Step) :
    { r.bootstrap with responded := respondedAfter r.bootstrap step }.Goes
      (next? r.bootstrap stage step) (r.perform step).bootstrap := by
  have hround := h.round
  have hstate := h.state
  cases step with
  | start begun now =>
    show r.bootstrap.Goes _ (r.bootstrap.start begun now)
    unfold Bootstrap.start startAsks
    rw [hstate]
    cases stage with
    | idle => exact goes_orCrash (leads_beginRound? hround begun now)
    | bootstrapping | active | degraded | stopped => exact h.leads
  | retry begun now =>
    show r.bootstrap.Goes _ (r.bootstrap.retry begun now)
    unfold Bootstrap.retry retryAsks
    rw [hstate]
    cases stage with
    | idle | active | degraded => exact goes_orCrash (leads_beginRound? hround begun now)
    | bootstrapping | stopped => exact h.leads
  | connected peer =>
    have hnext : next? r.bootstrap stage (.connected peer) = some stage := by cases stage <;> rfl
    have hb : (r.perform (.connected peer)).bootstrap =
        { r.bootstrap with responded := respondedAfter r.bootstrap (.connected peer) } := by
      show r.bootstrap.peerConnected peer = _
      cases hseed : r.bootstrap.isSeed peer <;> simp [peerConnected, respondedAfter, hseed]
    rw [hnext, hb]
    exact IsAt.leads ⟨hstate, hround, h.nextRetry⟩
  | disconnected peer =>
    have hnext : next? r.bootstrap stage (.disconnected peer) = some stage := by
      cases stage <;> rfl
    rw [hnext]
    exact IsAt.leads
      (b := { r.bootstrap with responded := r.bootstrap.responded.filter (· ≠ peer) })
      ⟨hstate, hround, h.nextRetry⟩
  | progress p now => exact goes_progress h p now
  | tick begun now => exact goes_tick h begun now
  | stop =>
    have hnext : next? r.bootstrap stage .stop = some .stopped := by cases stage <;> rfl
    rw [hnext]
    exact leads_stop h

/-- A step that crashes leaves the stage. -/
theorem isAt_perform (h : r.bootstrap.IsAt stage) (step : Step) :
    (r.perform step).bootstrap.IsAt ((next? r.bootstrap stage step).getD stage) := by
  have hgoes := goes_perform h step
  cases hnext : next? r.bootstrap stage step with
  | none =>
    rw [hnext] at hgoes
    rw [show (r.perform step).bootstrap = _ from hgoes]
    exact ⟨h.state, h.round, h.nextRetry⟩
  | some stage' =>
    rw [hnext] at hgoes
    obtain ⟨outcomes, heq⟩ := hgoes
    rw [heq]
    exact ⟨rfl, rfl, rfl⟩

theorem crashed_perform (h : r.bootstrap.IsAt stage) (step : Step) :
    (r.perform step).bootstrap.crashed =
      (r.bootstrap.crashed || (next? r.bootstrap stage step).isNone) := by
  have hgoes := goes_perform h step
  cases hnext : next? r.bootstrap stage step with
  | none =>
    rw [hnext] at hgoes
    rw [show (r.perform step).bootstrap = _ from hgoes]
    simp
  | some stage' =>
    rw [hnext] at hgoes
    obtain ⟨outcomes, heq⟩ := hgoes
    rw [heq]
    simp

theorem perform?_eq_none_iff (h : r.bootstrap.IsAt stage) (hr : r.bootstrap.crashed = false) :
    r.perform? step = none ↔ next? r.bootstrap stage step = none := by
  simp [perform?, crashed_perform h, hr]

theorem isAt_of_perform? {r' : Routing} (h : r.bootstrap.IsAt stage)
    (hstep : r.perform? step = some r') :
    ∃ stage', next? r.bootstrap stage step = some stage' ∧ r'.bootstrap.IsAt stage' := by
  obtain ⟨hcrashed, rfl⟩ := perform?_eq_some_iff.mp hstep
  rw [crashed_perform h, Bool.or_eq_false_iff, Option.isNone_eq_false_iff] at hcrashed
  obtain ⟨stage', hnext⟩ := Option.isSome_iff_exists.mp hcrashed.2
  have hafter := isAt_perform h step
  rw [hnext] at hafter
  exact ⟨stage', hnext, hafter⟩

/-- The running round of a stage ends with a step. -/
def EndsRound (stage : Stage) (step : Step) : Prop :=
  ∃ round, stage = .bootstrapping round ∧ step.ends round = true

/-- What a step does that does not crash. -/
inductive Moves (b : Bootstrap) (stage : Stage) (step : Step) : Stage → Prop where
  | stays (asks : asksAt stage step = false) (ends : ¬ EndsRound stage step) :
    Moves b stage step stage
  /-- A round begins. -/
  | opens {query : QueryId} {now deadline : Instant} (asks : asksAt stage step = true)
    (answer : step.answer? = some (query, now))
    (reckoned : Instant.after? now b.timeout = some deadline) :
    Moves b stage step (.bootstrapping ⟨query, deadline⟩)
  /-- A round fails: there is no search for it, or it ended too early or too late. -/
  | fails {now due : Instant}
    (cause : asksAt stage step = true ∧ step.answer? = none ∨ EndsRound stage step)
    (time : step.time? = some now) (reckoned : Instant.after? now b.retryInterval = some due) :
    Moves b stage step (.degraded due)
  /-- The running round succeeds. -/
  | succeeds (ends : EndsRound stage step) : Moves b stage step .active
  | stops (stop : step = .stop) : Moves b stage step .stopped

/-- A step only asks for a search while no round is running. -/
theorem round?_of_asksAt (hasks : asksAt stage step = true) : stage.round? = none := by
  cases stage <;> cases step <;> simp_all [asksAt, Stage.round?]

theorem next?_of_asksAt (b : Bootstrap) (hasks : asksAt stage step = true) :
    ∃ begun now, step.answer? = begun.map (·, now) ∧ step.time? = some now ∧
      next? b stage step = b.opened? begun now := by
  cases step with
  | start begun now | retry begun now =>
    refine ⟨begun, now, rfl, rfl, ?_⟩
    cases stage <;> first | rfl | cases hasks
  | tick begun now =>
    refine ⟨begun, now, rfl, rfl, ?_⟩
    cases stage with
    | degraded due => exact if_pos (of_decide_eq_true hasks)
    | idle | bootstrapping | active | stopped => cases hasks
  | connected | disconnected | progress | stop => cases stage <;> cases hasks

/-- Without a running round, only a step that asks for a search and the end lead elsewhere. -/
theorem next?_of_not_asksAt (b : Bootstrap) (hasks : asksAt stage step = false)
    (hround : stage.round? = none) (hstop : step ≠ .stop) : next? b stage step = some stage := by
  cases step with
  | stop => exact absurd rfl hstop
  | tick begun now =>
    cases stage with
    | degraded due => exact if_neg (of_decide_eq_false hasks)
    | bootstrapping => cases hround
    | idle | active | stopped => rfl
  | start | retry => cases stage <;> first | rfl | cases hasks
  | connected | disconnected | progress => cases stage <;> first | rfl | cases hround

theorem next?_stop (b : Bootstrap) (stage : Stage) : next? b stage .stop = some .stopped := by
  cases stage <;> rfl

theorem moves_of_next? {b : Bootstrap} {stage' : Stage} (hnext : next? b stage step = some stage') :
    Moves b stage step stage' := by
  cases hasks : asksAt stage step with
  | true =>
    obtain ⟨begun, now, hanswer, htime, hopened⟩ := next?_of_asksAt b hasks
    rcases opened?_eq_some_iff.mp (hopened.symm.trans hnext) with
      ⟨query, deadline, rfl, hdeadline, rfl⟩ | ⟨rfl, due, hdue, rfl⟩
    · exact .opens hasks hanswer hdeadline
    · exact .fails (.inl ⟨hasks, hanswer⟩) htime hdue
  | false =>
    by_cases hstop : step = .stop
    · subst hstop
      cases (next?_stop b stage).symm.trans hnext
      exact .stops rfl
    cases stage with
    | bootstrapping round =>
      have hstays : step.ends round = false → some (.bootstrapping round) = some stage' →
          Moves b (.bootstrapping round) step stage' := by
        rintro hends ⟨⟩
        refine .stays hasks ?_
        rintro ⟨_, ⟨rfl⟩, hends'⟩
        exact Bool.noConfusion (hends.symm.trans hends')
      have hfails : ∀ {now}, b.failed? now = some stage' → step.ends round = true →
          step.time? = some now → Moves b (.bootstrapping round) step stage' := by
        intro now hfailed hends htime
        obtain ⟨due, hdue, rfl⟩ := failed?_eq_some_iff.mp hfailed
        exact .fails (.inr ⟨round, rfl, hends⟩) htime hdue
      cases step with
      | progress p now =>
        change ite (p.ends round = true) _ _ = _ at hnext
        split at hnext
        · rename_i hends
          unfold concluded? at hnext
          split at hnext
          · cases hnext
            exact .succeeds ⟨round, rfl, hends⟩
          · exact hfails hnext hends rfl
        · rename_i hends
          exact hstays (Bool.eq_false_iff.mpr hends) hnext
      | tick begun now =>
        change ite (round.deadline ≤ now) _ _ = _ at hnext
        split at hnext
        · rename_i hends
          exact hfails hnext (decide_eq_true hends) rfl
        · rename_i hends
          exact hstays (decide_eq_false hends) hnext
      | stop => exact absurd rfl hstop
      | start | retry | connected | disconnected => exact hstays rfl hnext
    | idle | active | degraded | stopped =>
      cases (next?_of_not_asksAt b hasks rfl hstop).symm.trans hnext
      exact .stays hasks nofun

/-- A step crashes exactly when it comes to a time that the clock cannot hold: that at which the
round that it begins is given up, or that of the round after one that fails. -/
theorem next?_eq_none_iff (h : r.bootstrap.IsAt stage) :
    next? r.bootstrap stage step = none ↔ ∃ now, step.time? = some now ∧
      ((r.begins? step).isSome ∧ Instant.limit ≤ now + r.bootstrap.timeout.nanos ∨
        r.fails step = true ∧ Instant.limit ≤ now + r.bootstrap.retryInterval.nanos) := by
  cases hasks : asksAt stage step with
  | true =>
    obtain ⟨begun, now, hanswer, htime, hopened⟩ := next?_of_asksAt r.bootstrap hasks
    have hnone : r.bootstrap.round = none := h.round.trans (round?_of_asksAt hasks)
    have hbegins : r.begins? step = begun.map (·, now) := by
      rw [begins?, asks_eq h, hasks, if_pos rfl, hanswer]
    have hloses : r.losesRound step = false := by cases step <;> simp [losesRound, hnone]
    simp [hopened, opened?_eq_none_iff, hbegins, fails, asks_eq h, hasks, hloses, hanswer, htime]
  | false =>
    have hbegins : r.begins? step = none := by
      rw [begins?, asks_eq h, hasks, if_neg Bool.false_ne_true]
    have hfails : r.fails step = r.losesRound step := by simp [fails, asks_eq h, hasks]
    rw [hbegins, hfails]
    cases stage with
    | bootstrapping round =>
      have hround : r.bootstrap.round = some round := h.round
      cases step with
      | progress p now =>
        cases hends : p.ends round <;>
          simp [next?, losesRound, hround, Step.time?, hends, concluded?_eq_none_iff]
      | tick begun now =>
        by_cases hends : round.deadline ≤ now <;>
          simp [next?, losesRound, hround, Step.time?, hends, failed?_eq_none_iff]
      | start | retry | connected | disconnected | stop => simp [next?, losesRound]
    | idle | active | degraded | stopped =>
      have hround : r.bootstrap.round = none := h.round
      by_cases hstop : step = .stop
      · subst hstop
        simp [next?_stop, losesRound]
      · rw [next?_of_not_asksAt _ hasks rfl hstop]
        cases step <;> simp [losesRound, hround]

/-- The round after a step is the one that it begins, or the running one unless it ends. -/
theorem round?_of_next? {stage' : Stage} (h : r.bootstrap.IsAt stage)
    (hnext : next? r.bootstrap stage step = some stage') :
    stage'.round? =
      match r.begins? step with
      | some (query, began) => some ⟨query, began + r.bootstrap.timeout.nanos⟩
      | none => stage.round?.filter fun round => !step.ends round := by
  have hanswered : asksAt stage step = true → r.begins? step = step.answer? := fun hasks =>
    if_pos ((asks_eq h step).trans hasks)
  have hkept : asksAt stage step = false → r.begins? step = none := fun hasks =>
    if_neg (by rw [asks_eq h, hasks]; exact Bool.false_ne_true)
  have hended : EndsRound stage step → asksAt stage step = false ∧
      (stage.round?.filter fun round => !step.ends round) = none := by
    rintro ⟨round, rfl, hends⟩
    refine ⟨?_, by simp [Stage.round?, hends]⟩
    cases step <;> rfl
  cases moves_of_next? hnext with
  | stays hasks hends =>
    rw [hkept hasks]
    cases stage with
    | bootstrapping round =>
      have hgoes : step.ends round = false := Bool.eq_false_iff.mpr fun h => hends ⟨round, rfl, h⟩
      simp [Stage.round?, Option.filter, hgoes]
    | idle | active | degraded | stopped => rfl
  | opens hasks hanswer hreckoned =>
    rw [hanswered hasks, hanswer, (Instant.after?_eq_some_iff.mp hreckoned).2]
    rfl
  | fails hcause htime hreckoned =>
    rcases hcause with ⟨hasks, hanswer⟩ | hends
    · rw [hanswered hasks, hanswer, round?_of_asksAt hasks]
      rfl
    · rw [hkept (hended hends).1]
      exact (hended hends).2.symm
  | succeeds hends =>
    rw [hkept (hended hends).1]
    exact (hended hends).2.symm
  | stops hstop =>
    subst hstop
    rw [hkept (by cases stage <;> rfl)]
    cases stage <;> rfl

/-- A time for the next round was recorded before, or is reckoned from the step that records it. -/
theorem due_of_next? {b : Bootstrap} {due : Instant}
    (hnext : next? b stage step = some (.degraded due)) :
    stage = .degraded due ∨
      ∃ now, step.time? = some now ∧ due = now + b.retryInterval.nanos := by
  cases moves_of_next? hnext with
  | stays => exact .inl rfl
  | fails hcause htime hreckoned =>
    exact .inr ⟨_, htime, (Instant.after?_eq_some_iff.mp hreckoned).2⟩

/-- A search that ends leads to success or to failure, whichever it is. -/
theorem state_of_concluded? {b : Bootstrap} (hstage : b.concluded? now = some stage) :
    stage.state = if b.minResponses ≤ b.responded.length then .active else .degraded := by
  unfold concluded? at hstage
  split at hstage
  · cases hstage
    rw [if_pos ‹_›]
    rfl
  · obtain ⟨due, -, rfl⟩ := failed?_eq_some_iff.mp hstage
    rw [if_neg ‹_›]
    rfl

/-- Nothing leads back to the start. -/
theorem eq_idle_of_next? {b : Bootstrap} (hnext : next? b stage step = some .idle) :
    stage = .idle := by
  cases moves_of_next? hnext
  rfl

/-- Nothing leads away from the end. -/
theorem next?_stopped (b : Bootstrap) (step : Step) :
    next? b .stopped step = some .stopped := by
  cases step <;> rfl

end Routing

end CircuitRelay
