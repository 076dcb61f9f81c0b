import CircuitRelay.Proofs.Routing.Rounds

/-!
# Outcomes of rounds

An outcome is counted when a state is entered from another one, and when a running round is cut
short; nothing is counted for a round as such.  Still every round comes to one outcome.  While it
runs it is the one that is recorded, and when it is recorded no longer, the step that ended it has
counted something: its end leads to another state, and the end of routing counts it as aborted.

A round that cannot begin is counted as well, by the change of state that it causes.  Only where the
state is degraded already there is no change, and no outcome.

Of a step that crashes nothing is said: no state follows it.

* `total`: the outcomes counted so far; `accounted`: together with the round that is running.
* `accounted_beginRound?`, `accounted_queryEnded`, `accounted_tick`, `accounted_stop`: what the
  changes of joining add to it.
* `failsAnew`, `failures`: rounds that could not begin, where this changed the state.
* `accounted_perform`: a step adds the round that it begins, or the one that cannot begin.
* `run_outcomes`: the outcomes along any run.
-/

namespace CircuitRelay

/-! ## Changes of joining -/

namespace Bootstrap

variable {b b' : Bootstrap} {stage : Stage} {now : Instant}

/-- The outcomes that were counted. -/
def total (t : Tally Outcome) : Nat := t.count .active + t.count .degraded + t.count .aborted

/-- The outcomes that were counted, and the round that is running. -/
def accounted (b : Bootstrap) : Nat := total b.outcomes + if b.round.isSome then 1 else 0

theorem total_record (t : Tally Outcome) (o : Outcome) : total (t.record o) = total t + 1 := by
  simp only [total, Tally.count_record]
  cases o <;> simp <;> omega

@[simp] theorem round_enter (b : Bootstrap) (state : RoutingState) :
    (b.enter state).round = b.round := by
  unfold enter
  split
  · rfl
  · cases outcomeOf? state <;> rfl

/-- Entering a state counts an outcome if the state is another one and has an outcome. -/
theorem total_enter (b : Bootstrap) (state : RoutingState) : total (b.enter state).outcomes =
    total b.outcomes + if b.state ≠ state ∧ (outcomeOf? state).isSome then 1 else 0 := by
  unfold enter
  split
  · simp [*]
  · rename_i hne
    cases outcomeOf? state with
    | none => simp
    | some o => simp [record, total_record, hne]

theorem eq_some_of_orCrash {after? : Option Bootstrap}
    (hgoing : (b.orCrash after?).crashed = false) : after? = some (b.orCrash after?) := by
  cases after? with
  | none => cases hgoing
  | some b' => rfl

/-- A round that failed is counted unless the state is degraded already. -/
theorem accounted_degrade? (hdegrade : b.degrade? now = some b') :
    b'.accounted = b.accounted + if b.state = .degraded then 0 else 1 := by
  obtain ⟨due, -, rfl⟩ := Option.map_eq_some_iff.mp hdegrade
  by_cases h : b.state = .degraded <;> simp [accounted, total_enter, outcomeOf?, h]
  omega

/-- A round that begins is running, and one that cannot begin has failed. -/
theorem accounted_beginRound? (h : b.round = none) {begun : Option QueryId}
    (hbegin : b.beginRound? begun now = some b') :
    b'.accounted = b.accounted + if begun = none ∧ b.state = .degraded then 0 else 1 := by
  cases begun with
  | some query =>
    obtain ⟨deadline, -, rfl⟩ := Option.map_eq_some_iff.mp hbegin
    simp [accounted, total_enter, outcomeOf?, h]
  | none =>
    rw [accounted_degrade? (b := { b with nextRetry := none }) hbegin]
    simp only [true_and]
    rfl

/-- A round that is given up is counted in place of running. -/
theorem accounted_giveUp (hround : b.round.isSome) (hstate : b.state = .bootstrapping)
    (hdegrade : { b with round := none }.degrade? now = some b') : b'.accounted = b.accounted := by
  rw [accounted_degrade? hdegrade]
  simp [accounted, hround, hstate]

/-- The round that a search belongs to is not running after its end, but counted. -/
theorem accounted_queryEnded (h : b.IsAt stage) (query : QueryId)
    (hgoing : (b.queryEnded query now).crashed = false) :
    (b.queryEnded query now).accounted = b.accounted := by
  by_cases hquery : b.round.map Round.query = some query
  · obtain ⟨round, hround, rfl⟩ := Option.map_eq_some_iff.mp hquery
    obtain rfl := Stage.round?_eq_some_iff.mp (h.round.symm.trans hround)
    have hstate : b.state = .bootstrapping := h.state
    unfold queryEnded at hgoing ⊢
    rw [hround] at hgoing ⊢
    dsimp only at hgoing ⊢
    rw [if_pos rfl] at hgoing ⊢
    split at hgoing
    · rw [if_pos ‹_›]
      simp [accounted, total_enter, outcomeOf?, hstate, hround]
    · rw [if_neg ‹_›]
      exact accounted_giveUp (by rw [hround]; rfl) hstate (eq_some_of_orCrash hgoing)
  · rw [queryEnded_of_ne hquery]

/-- A tick leaves the running round alone, or gives it up. -/
theorem accounted_tick (h : b.IsAt stage) (hround : b.round.isSome) {begun : Option QueryId}
    (hgoing : (b.tick begun now).crashed = false) :
    (b.tick begun now).accounted = b.accounted := by
  obtain ⟨round, hsome⟩ := Option.isSome_iff_exists.mp hround
  obtain rfl := Stage.round?_eq_some_iff.mp (h.round.symm.trans hsome)
  unfold tick at hgoing ⊢
  rw [hsome] at hgoing ⊢
  dsimp only at hgoing ⊢
  split at hgoing
  · rw [if_pos ‹_›]
    exact accounted_giveUp hround h.state (eq_some_of_orCrash hgoing)
  · rw [if_neg ‹_›]

/-- The round that is running at the end is counted as aborted. -/
theorem accounted_stop (b : Bootstrap) : b.stop.accounted = b.accounted := by
  unfold stop
  split
  · rfl
  · cases hround : b.round with
    | none => simp [accounted, total_enter, outcomeOf?, hround]
    | some round => simp [accounted, total_enter, outcomeOf?, record, total_record, hround]

end Bootstrap

/-! ## Steps and runs -/

namespace Routing

open Bootstrap

variable {r r' : Routing} {stage : Stage} {steps : List Step}

/-- Whether a step asks for a search in vain, in a state in which no round was tried or the last one
succeeded. -/
def failsAnew (r : Routing) (step : Step) : Bool :=
  r.asks step && step.answer?.isNone && (r.state = .idle || r.state = .active)

/-- How often a run asks for a search in vain in such a state. -/
def failures (r : Routing) : List Step → Nat
  | [] => 0
  | step :: rest => (if r.failsAnew step then 1 else 0) + (r.perform step).failures rest

/-- What a step adds: the round that it begins, or the one that it fails to begin where this changes
the state. -/
def opens (r : Routing) (step : Step) : Nat :=
  (if (r.begins? step).isSome then 1 else 0) + if r.failsAnew step then 1 else 0

theorem opens_of_not_asks {step : Step} (h : r.asks step = false) : r.opens step = 0 := by
  simp [opens, begins?, failsAnew, h]

/-- Only from these states a step asks for a search. -/
theorem state_of_asks {step : Step} (h : r.bootstrap.IsAt stage) (hasks : r.asks step = true) :
    r.state = .idle ∨ r.state = .active ∨ r.state = .degraded := by
  rw [asks_eq h] at hasks
  rw [state, h.state]
  cases stage <;> cases step <;> simp_all [asksAt, Stage.state]

/-- Where a step asks for a search, it adds the round that begins with it, or the one that fails;
otherwise it adds nothing. -/
theorem accounted_opened (h : r.bootstrap.IsAt stage) {step : Step} {begun : Option QueryId}
    {now : Instant} {b' : Bootstrap} (hanswer : step.answer? = begun.map fun query => (query, now))
    (hb' : b' = if r.asks step then r.bootstrap.orCrash (r.bootstrap.beginRound? begun now)
      else r.bootstrap) (hgoing : b'.crashed = false) :
    b'.accounted = r.bootstrap.accounted + r.opens step := by
  cases hasks : r.asks step with
  | false =>
    rw [hb', hasks, opens_of_not_asks hasks]
    rfl
  | true =>
    rw [hasks, if_pos rfl] at hb'
    have hround : r.bootstrap.round = none :=
      h.round.trans (round?_of_asksAt ((asks_eq h step).symm.trans hasks))
    have hbegin : r.bootstrap.beginRound? begun now = some b' := by
      rw [hb'] at hgoing ⊢
      exact eq_some_of_orCrash hgoing
    have hb : r.bootstrap.state = r.state := rfl
    rw [accounted_beginRound? hround hbegin, hb]
    cases begun with
    | some query => simp [opens, begins?, failsAnew, hasks, hanswer]
    | none =>
      rcases state_of_asks h hasks with hstate | hstate | hstate <;>
        simp [opens, begins?, failsAnew, hasks, hanswer, hstate]

theorem accounted_perform (h : r.bootstrap.IsAt stage) {step : Step}
    (hstep : r.perform? step = some r') :
    r'.bootstrap.accounted = r.bootstrap.accounted + r.opens step := by
  obtain ⟨hgoing, rfl⟩ := perform?_eq_some_iff.mp hstep
  cases step with
  | start begun now => exact accounted_opened h rfl rfl hgoing
  | retry begun now => exact accounted_opened h rfl rfl hgoing
  | connected peer =>
    show (r.bootstrap.peerConnected peer).accounted = _
    unfold peerConnected
    split <;> rfl
  | disconnected peer => rfl
  | progress p now =>
    change (r.progressed p now).bootstrap.crashed = false at hgoing
    show (r.progressed p now).bootstrap.accounted = _
    unfold progressed at hgoing ⊢
    split at hgoing
    · rw [if_pos ‹_›]
      exact accounted_queryEnded h p.query hgoing
    · rw [if_neg ‹_›]
      rfl
  | tick begun now =>
    cases hround : r.bootstrap.round with
    | some round =>
      have hasks : r.asks (.tick begun now) = false := by simp [asks, tickAsks, hround]
      rw [opens_of_not_asks hasks]
      exact accounted_tick h (by rw [hround]; rfl) hgoing
    | none =>
      refine accounted_opened h rfl ?_ hgoing
      show r.bootstrap.tick begun now = _
      unfold Bootstrap.tick
      rw [hround]
      rfl
  | stop => exact accounted_stop r.bootstrap

theorem accounted_run (h : r.bootstrap.IsAt stage) (hrun : r.run? steps = some r') :
    r'.bootstrap.accounted =
      r.bootstrap.accounted + ((r.begun steps).length + r.failures steps) := by
  induction steps generalizing r stage with
  | nil =>
    cases hrun
    rfl
  | cons step steps ih =>
    obtain ⟨after, hstep, hrest⟩ := Option.bind_eq_some_iff.mp hrun
    have hadded := accounted_perform h hstep
    obtain ⟨stage', -, h'⟩ := isAt_of_perform? h hstep
    obtain ⟨-, rfl⟩ := perform?_eq_some_iff.mp hstep
    have hlength : ((r.begins? step).map Prod.fst).toList.length =
        if (r.begins? step).isSome then 1 else 0 := by
      cases r.begins? step <;> rfl
    rw [ih h' hrest, hadded, begun, failures, List.length_append, hlength, opens]
    omega

/-- Along any run without a crash every round that was begun has come to one outcome, active,
degraded or aborted, or is the one in flight; and the outcomes beyond these are those of the rounds
that could not begin, once each, unless the state was degraded already.  A round is in flight from
the step that begins it until its search is reported ended, or a tick comes to its deadline, or
joining ends. -/
theorem run_outcomes (settings : RoutingSettings) (start : Routing)
    (hstart : ofSettings settings = .ok start) (steps : List Step) (r : Routing)
    (hrun : start.run? steps = some r) :
    let b := r.bootstrap
    (start.begun steps).length + start.failures steps =
      b.outcomes.count .active + b.outcomes.count .degraded + b.outcomes.count .aborted +
        (if b.round.isSome then 1 else 0) ∧
    (b.round.isSome ↔ ∃ before step after query began, steps = before ++ step :: after ∧
      (start.run before).begins? step = some (query, began) ∧
      ∀ later ∈ after, later.ends ⟨query, began + settings.timeout.nanos⟩ = false) := by
  intro b
  refine ⟨?_, fun hround => ?_, ?_⟩
  · obtain ⟨hidle, -, -⟩ := follows_ofSettings hstart
    have hnone : start.bootstrap.accounted = 0 := by
      unfold ofSettings Bootstrap.ofSettings at hstart
      cases hseeds : settings.seeds with
      | error e =>
        rw [hseeds] at hstart
        cases hstart
      | ok seeds =>
        rw [hseeds] at hstart
        cases hstart
        rfl
    have hall := accounted_run hidle hrun
    rw [hnone, Nat.zero_add] at hall
    exact hall.symm
  · obtain ⟨⟨query, deadline⟩, hsome⟩ := Option.isSome_iff_exists.mp hround
    obtain ⟨before, step, after, began, heq, hbegins, hdeadline, hafter, -⟩ :=
      opened_run hstart hrun hsome
    obtain rfl : deadline = began + settings.timeout.nanos := hdeadline
    exact ⟨before, step, after, query, began, heq, hbegins, hafter⟩
  · rintro ⟨before, step, after, query, began, rfl, hbegins, hafter⟩
    rw [round_of_begins? hstart hbegins hafter hrun]
    rfl

/-- Two rounds that cannot begin, of which the first changes the state; one that takes too long, and
one that its search ends too early, with a late report in between; and one that is in flight. -/
theorem run_outcomes_report :
    let settings : RoutingSettings := ⟨[], .ofWord 60, 1, .ofWord 300⟩
    let start : Routing :=
      ⟨⟨.ofWord 60, 1, .ofWord 300, [], [], none, none, .idle, .empty, false⟩, 0⟩
    let before : List Step := [.start none 0, .tick none 300, .retry (some 0) 310, .tick none 370,
      .tick (some 1) 670, .progress ⟨0, true, true⟩ 680, .progress ⟨1, true, true⟩ 690]
    let steps := before ++ [.tick (some 2) 990, .progress ⟨1, true, true⟩ 995]
    let r := start.run steps
    let b := r.bootstrap
    ofSettings settings = .ok start ∧ start.run? steps = some r ∧
    (start.begun steps).length = 3 ∧ start.failures steps = 1 ∧ b.round.isSome ∧
    3 + 1 = b.outcomes.count .active + b.outcomes.count .degraded + b.outcomes.count .aborted +
      (if b.round.isSome then 1 else 0) := by
  intro settings start before steps r b
  have hstart : ofSettings settings = .ok start := rfl
  obtain ⟨hidle, hgoing, -⟩ := follows_ofSettings hstart
  have hrun : start.run? steps = some r := (run?_eq_some_iff hidle hgoing).mpr ⟨by decide, rfl⟩
  have hbegun : (start.begun steps).length = 3 := by decide
  have hfailures : start.failures steps = 1 := by decide
  obtain ⟨houtcomes, hflight⟩ := run_outcomes settings start hstart steps r hrun
  rw [hbegun, hfailures] at houtcomes
  refine ⟨hstart, hrun, hbegun, hfailures, hflight.mpr ?_, houtcomes⟩
  exact ⟨before, .tick (some 2) 990, [.progress ⟨1, true, true⟩ 995], 2, 990, rfl, by decide,
    by decide⟩

end Routing

end CircuitRelay
