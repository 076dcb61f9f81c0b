import CircuitRelay.Proofs.Routing.Stages

/-!
# Rounds along a run

A step that begins a round asks the overlay for a search, and a search has a number that no search
before it had.  What joining has recorded after a run is read off the steps: the seeds that
answered, the round that is running, and where it comes from.

* `isAt_run`, `isAt_stopped_run`, `isAt_idle_of_run`: the stages along a run;
  `run?_eq_some_iff`: runs without a crash.
* `Connected`, `Follows`, `follows_run`: the seeds that answered.
* `round_snoc`, `opened_run`, `round_of_begins?`: where a running round comes from.
* `state_of_round`, `progressed_of_ne`, `opened_of_asks_tick`, `due_of_perform?`: the next step.
* `run_rounds`: the rounds along any run.
-/

namespace CircuitRelay

namespace Routing

open Bootstrap

variable {r r' : Routing} {stage : Stage} {step : Step} {before after steps : List Step}
  {round : Round}

/-! ## Runs -/

theorem isAt_run (h : r.bootstrap.IsAt stage) (steps : List Step) :
    ∃ stage', (r.run steps).bootstrap.IsAt stage' := by
  induction steps generalizing r stage with
  | nil => exact ⟨stage, h⟩
  | cons step steps ih => exact ih (isAt_perform h step)

/-- A crash is never undone: a run is without a crash if none is recorded after it. -/
theorem run?_eq_some_iff (h : r.bootstrap.IsAt stage) (hgoing : r.bootstrap.crashed = false) :
    r.run? steps = some r' ↔ (r.run steps).bootstrap.crashed = false ∧ r.run steps = r' := by
  induction steps using List.reverseRecOn generalizing r' with
  | nil => exact ⟨fun heq => ⟨hgoing, Option.some.inj heq⟩, fun heq => congrArg some heq.2⟩
  | append_singleton steps step ih =>
    obtain ⟨stage', h'⟩ := isAt_run h steps
    rw [run?_snoc, run_snoc]
    cases hcrashed : (r.run steps).bootstrap.crashed with
    | false =>
      rw [ih.mpr ⟨hcrashed, rfl⟩]
      exact perform?_eq_some_iff
    | true =>
      have hnone : r.run? steps = none := Option.eq_none_iff_forall_ne_some.mpr fun r' heq =>
        Bool.noConfusion (hcrashed.symm.trans (ih.mp heq).1)
      rw [hnone, crashed_perform h', hcrashed]
      simp

/-- The end is never left. -/
theorem isAt_stopped_run (h : r.bootstrap.IsAt .stopped) (steps : List Step) :
    (r.run steps).bootstrap.IsAt .stopped := by
  induction steps generalizing r with
  | nil => exact h
  | cons step steps ih =>
    refine ih ?_
    have hafter := isAt_perform h step
    rwa [next?_stopped] at hafter

/-- The start is never reached again. -/
theorem isAt_idle_of_run (h : r.bootstrap.IsAt stage) (steps : List Step)
    (hidle : (r.run steps).bootstrap.IsAt .idle) : stage = .idle := by
  induction steps generalizing r stage with
  | nil => exact h.unique hidle
  | cons step steps ih =>
    have hafter := ih (isAt_perform h step) hidle
    cases hnext : next? r.bootstrap stage step with
    | none => rwa [hnext] at hafter
    | some stage' =>
      rw [hnext] at hafter
      obtain rfl : stage' = .idle := hafter
      exact eq_idle_of_next? hnext

/-- Connections to a peer were reported, and the latest report is not that the last one closed. -/
def Connected (steps : List Step) (peer : PeerId) : Prop :=
  Since steps (.connected peer) (.disconnected peer)

/-- What joining has to do with its settings and with the steps so far. -/
structure Follows (settings : RoutingSettings) (steps : List Step) (b : Bootstrap) : Prop where
  timeout : b.timeout = settings.timeout
  minResponses : b.minResponses = settings.minResponses
  retryInterval : b.retryInterval = settings.retryInterval
  seeds : settings.seeds = .ok b.seeds
  nodup : b.responded.Nodup
  responded : ∀ peer, peer ∈ b.responded ↔ b.isSeed peer = true ∧ Connected steps peer

theorem follows_ofSettings {settings : RoutingSettings} (hr : ofSettings settings = .ok r) :
    r.bootstrap.IsAt .idle ∧ r.bootstrap.crashed = false ∧ Follows settings [] r.bootstrap := by
  unfold ofSettings Bootstrap.ofSettings at hr
  cases hseeds : settings.seeds with
  | error e =>
    rw [hseeds] at hr
    cases hr
  | ok seeds =>
    rw [hseeds] at hr
    cases hr
    refine ⟨⟨rfl, rfl, rfl⟩, rfl, rfl, rfl, rfl, hseeds, List.nodup_nil, fun peer => ?_⟩
    exact ⟨fun hmem => absurd hmem List.not_mem_nil, fun h => absurd h.2 not_since_nil⟩

theorem nodup_respondedAfter (h : r.bootstrap.responded.Nodup) (step : Step) :
    (respondedAfter r.bootstrap step).Nodup := by
  cases step with
  | connected peer =>
    show (ite _ _ _ : List PeerId).Nodup
    split
    · exact nodup_pushNew h peer
    · exact h
  | disconnected peer => exact h.filter _
  | start | retry | progress | tick | stop => exact h

/-- A step adds the seed that it connects, and removes the one that it disconnects. -/
theorem mem_respondedAfter {peer : PeerId}
    (h : peer ∈ r.bootstrap.responded ↔ r.bootstrap.isSeed peer = true ∧ Connected steps peer)
    (step : Step) :
    peer ∈ respondedAfter r.bootstrap step ↔
      r.bootstrap.isSeed peer = true ∧ Connected (steps ++ [step]) peer := by
  rw [Connected] at h
  rw [Connected, since_snoc]
  cases step with
  | connected peer' =>
    show peer ∈ ite _ _ _ ↔ _
    by_cases hseed : r.bootstrap.isSeed peer' = true
    · rw [if_pos hseed, mem_pushNew, h]
      by_cases hpeer : peer' = peer
      · simp [← hpeer, hseed]
      · simp [hpeer, Ne.symm hpeer]
    · rw [if_neg hseed, h]
      by_cases hpeer : peer' = peer
      · simp [← hpeer, hseed]
      · simp [hpeer]
  | disconnected peer' =>
    by_cases hpeer : peer' = peer
    · subst hpeer
      simp [respondedAfter]
    · simp [respondedAfter, hpeer, h, Ne.symm hpeer]
  | start | retry | progress | tick | stop => simpa [respondedAfter] using h

theorem Follows.snoc {settings : RoutingSettings} (hfollows : Follows settings steps r.bootstrap)
    (h : r.bootstrap.IsAt stage) (step : Step) :
    Follows settings (steps ++ [step]) (r.perform step).bootstrap := by
  have hnodup := nodup_respondedAfter hfollows.nodup step
  have hresponded := fun peer => mem_respondedAfter (hfollows.responded peer) step
  have hgoes := goes_perform h step
  cases hnext : next? r.bootstrap stage step with
  | none =>
    rw [hnext] at hgoes
    rw [show (r.perform step).bootstrap = _ from hgoes]
    exact ⟨hfollows.timeout, hfollows.minResponses, hfollows.retryInterval, hfollows.seeds,
      hnodup, hresponded⟩
  | some stage' =>
    rw [hnext] at hgoes
    obtain ⟨outcomes, heq⟩ := hgoes
    rw [heq]
    exact ⟨hfollows.timeout, hfollows.minResponses, hfollows.retryInterval, hfollows.seeds,
      hnodup, hresponded⟩

theorem follows_run {settings : RoutingSettings} (hr : ofSettings settings = .ok r)
    (steps : List Step) : Follows settings steps (r.run steps).bootstrap := by
  obtain ⟨hstart, -, hfollows⟩ := follows_ofSettings hr
  induction steps using List.reverseRecOn with
  | nil => exact hfollows
  | append_singleton steps step ih =>
    obtain ⟨stage, hstage⟩ := isAt_run hstart steps
    rw [run_snoc]
    exact ih.snoc hstage step

/-! ## The running round -/

variable {settings : RoutingSettings} {start : Routing}

/-- The last step of a run without a crash, and the running round after it. -/
theorem round_snoc (hstart : ofSettings settings = .ok start)
    (hrun : start.run? (steps ++ [step]) = some r') :
    ∃ r, start.run? steps = some r ∧
      r'.bootstrap.round =
        match (start.run steps).begins? step with
        | some (query, began) => some ⟨query, began + settings.timeout.nanos⟩
        | none => r.bootstrap.round.filter fun round => !step.ends round := by
  obtain ⟨hidle, hgoing, -⟩ := follows_ofSettings hstart
  rw [run?_snoc] at hrun
  obtain ⟨r, hbefore, hstep⟩ := Option.bind_eq_some_iff.mp hrun
  obtain ⟨-, rfl⟩ := (run?_eq_some_iff hidle hgoing).mp hbefore
  obtain ⟨stage, h⟩ := isAt_run hidle steps
  obtain ⟨stage', hnext, h'⟩ := isAt_of_perform? h hstep
  have hround := round?_of_next? h hnext
  rw [← h'.round, ← h.round, (follows_run hstart steps).timeout] at hround
  exact ⟨_, hbefore, hround⟩

/-- While a round is running, no step asks for a search. -/
theorem begins?_of_round (h : r.bootstrap.IsAt stage) (hround : r.bootstrap.round = some round)
    (step : Step) : r.begins? step = none := by
  obtain rfl := Stage.round?_eq_some_iff.mp (h.round.symm.trans hround)
  rw [begins?, asks_eq h]
  cases step <;> rfl

/-- A running round was begun by a step; since then it was not ended, and no search was begun. -/
theorem opened_run (hstart : ofSettings settings = .ok start) (hrun : start.run? steps = some r)
    (hround : r.bootstrap.round = some round) :
    ∃ before step after began, steps = before ++ step :: after ∧
      (start.run before).begins? step = some (round.query, began) ∧
      round.deadline = began + settings.timeout.nanos ∧
      (∀ later ∈ after, later.ends round = false) ∧
      ((start.run before).perform step).begun after = [] := by
  induction steps using List.reverseRecOn generalizing r with
  | nil =>
    obtain rfl := Option.some.inj hrun
    cases (follows_ofSettings hstart).1.round.symm.trans hround
  | append_singleton steps step ih =>
    obtain ⟨old, hbefore, hold⟩ := round_snoc hstart hrun
    rw [hround] at hold
    cases hbegins : (start.run steps).begins? step with
    | some begun =>
      obtain ⟨query, began⟩ := begun
      rw [hbegins] at hold
      obtain rfl := Option.some.inj hold
      exact ⟨steps, step, [], began, rfl, hbegins, rfl, nofun, rfl⟩
    | none =>
      rw [hbegins] at hold
      obtain ⟨hrunning, hkept⟩ := Option.filter_eq_some_iff.mp hold.symm
      obtain ⟨before, step', after, began, rfl, hbegan, hdeadline, hafter, hquiet⟩ :=
        ih hbefore hrunning
      refine ⟨before, step', after ++ [step], began, by simp, hbegan, hdeadline, ?_, ?_⟩
      · intro later hlater
        rcases List.mem_append.mp hlater with hlater | hlater
        · exact hafter later hlater
        · obtain rfl := List.mem_singleton.mp hlater
          simpa using hkept
      · have hrun' : ((start.run before).perform step').run after =
            start.run (before ++ step' :: after) := (run_append start before (step' :: after)).symm
        rw [begun_append, hquiet, hrun', begun, hbegins]
        rfl

/-- A round that was begun is running as long as no step ends it. -/
theorem round_of_begins? {query : QueryId} {began : Instant}
    (hstart : ofSettings settings = .ok start)
    (hbegins : (start.run before).begins? step = some (query, began))
    (hafter : ∀ later ∈ after, later.ends ⟨query, began + settings.timeout.nanos⟩ = false)
    (hrun : start.run? (before ++ step :: after) = some r) :
    r.bootstrap.round = some ⟨query, began + settings.timeout.nanos⟩ := by
  induction after using List.reverseRecOn generalizing r with
  | nil =>
    obtain ⟨old, -, hround⟩ := round_snoc hstart hrun
    rwa [hbegins] at hround
  | append_singleton after later ih =>
    rw [← List.cons_append, ← List.append_assoc] at hrun
    obtain ⟨old, hbefore, hround⟩ := round_snoc hstart hrun
    have hrunning := ih (fun l hl => hafter l (List.mem_append_left _ hl)) hbefore
    obtain ⟨hidle, hgoing, -⟩ := follows_ofSettings hstart
    obtain ⟨-, rfl⟩ := (run?_eq_some_iff hidle hgoing).mp hbefore
    obtain ⟨stage, h⟩ := isAt_run hidle (before ++ step :: after)
    rw [begins?_of_round h hrunning, hrunning] at hround
    rw [hround]
    simp [Option.filter, hafter later (by simp)]

/-! ## The next step -/

/-- What a step makes of the state while a round is running: only the last report about its search,
a tick at its deadline or later and the end change it. -/
theorem state_of_round (h : r.bootstrap.IsAt stage) (hround : r.bootstrap.round = some round) :
    r.perform? step = some r' → r'.state =
      match step with
      | .progress p _ =>
        if p.ends round then
          if r.bootstrap.minResponses ≤ r.bootstrap.responded.length then .active else .degraded
        else .bootstrapping
      | .tick _ now => if round.deadline ≤ now then .degraded else .bootstrapping
      | .stop => .stopped
      | _ => .bootstrapping := by
  intro hstep
  obtain rfl := Stage.round?_eq_some_iff.mp (h.round.symm.trans hround)
  obtain ⟨stage', hnext, h'⟩ := isAt_of_perform? h hstep
  rw [state, h'.state]
  cases step with
  | progress p now =>
    change ite (p.ends round = true) _ _ = _ at hnext
    show stage'.state = ite _ _ _
    split at hnext
    · rw [if_pos ‹_›, state_of_concluded? hnext]
    · rw [if_neg ‹_›, ← Option.some.inj hnext]
      rfl
  | tick begun now =>
    change ite (round.deadline ≤ now) _ _ = _ at hnext
    show stage'.state = ite _ _ _
    split at hnext
    · obtain ⟨due, -, rfl⟩ := failed?_eq_some_iff.mp hnext
      rw [if_pos ‹_›]
      rfl
    · rw [if_neg ‹_›, ← Option.some.inj hnext]
      rfl
  | start | retry | connected | disconnected | stop =>
    obtain rfl := Option.some.inj hnext
    rfl

/-- Reports about another search than that of the running round are passed over. -/
theorem progressed_of_ne {p : Progress}
    (hp : ∀ round, r.bootstrap.round = some round → p.query ≠ round.query) (now : Instant) :
    r.progressed p now = r := by
  have hquery : r.bootstrap.round.map Round.query ≠ some p.query := by
    intro hsome
    obtain ⟨round, hround, heq⟩ := Option.map_eq_some_iff.mp hsome
    exact hp round hround heq.symm
  unfold progressed
  split
  · show { r with bootstrap := r.bootstrap.queryEnded p.query now } = r
    rw [queryEnded_of_ne hquery]
  · rfl

/-- A tick asks for a search from the failure of a round on, as soon as the next one is due. -/
theorem asks_tick_iff (h : r.bootstrap.IsAt stage) (begun : Option QueryId) (now : Instant) :
    r.asks (.tick begun now) = true ↔ ∃ due, stage = .degraded due ∧ due ≤ now := by
  rw [asks_eq h]
  cases stage <;> simp [asksAt]

/-- A tick that asks for a search begins a round, or fails it when there is no search. -/
theorem opened_of_asks_tick (h : r.bootstrap.IsAt stage) {begun : Option QueryId} {now : Instant}
    (hasks : r.asks (.tick begun now) = true) (hstep : r.perform? (.tick begun now) = some r') :
    r'.bootstrap.round =
        begun.map (fun query => ⟨query, now + r.bootstrap.timeout.nanos⟩) ∧
      r'.state = if begun.isSome then .bootstrapping else .degraded := by
  obtain ⟨due, rfl, hdue⟩ := (asks_tick_iff h begun now).mp hasks
  obtain ⟨stage', hnext, h'⟩ := isAt_of_perform? h hstep
  have hopened : next? r.bootstrap (.degraded due) (.tick begun now) =
      r.bootstrap.opened? begun now := if_pos hdue
  rw [state, h'.round, h'.state]
  rcases opened?_eq_some_iff.mp (hopened.symm.trans hnext) with
    ⟨query, deadline, rfl, hdeadline, rfl⟩ | ⟨rfl, due', -, rfl⟩
  · rw [(Instant.after?_eq_some_iff.mp hdeadline).2]
    exact ⟨rfl, rfl⟩
  · exact ⟨rfl, rfl⟩

/-- The time for the next round stood before the step, or is the interval behind it. -/
theorem due_of_perform? (h : r.bootstrap.IsAt stage) {due : Instant}
    (hstep : r.perform? step = some r') (hdue : r'.bootstrap.nextRetry = some due) :
    r.bootstrap.nextRetry = some due ∨
      ∃ now, step.time? = some now ∧ due = now + r.bootstrap.retryInterval.nanos := by
  obtain ⟨stage', hnext, h'⟩ := isAt_of_perform? h hstep
  obtain rfl := Stage.due?_eq_some_iff.mp (h'.nextRetry.symm.trans hdue)
  exact (due_of_next? hnext).imp_left fun heq => h.nextRetry.trans (by rw [heq]; rfl)

/-! ## Rounds along a run -/

/-- Along any run in which every search has a new number, and no step crashed.  A round is recorded
exactly while the state is bootstrapping, and a time for the next one exactly while it is degraded.
The connected seeds are known, each of them once.

The recorded round was begun by a step of the run, and its deadline is the timeout behind that
step.  It is left by the last report about its search, by a tick at its deadline or later, and by
the end of routing.  Reports about any other search, those of earlier rounds among them, change
nothing.

A tick asks for a search exactly when the state is degraded and the recorded time has come; then it
begins a round, or fails it at once when there is no search for it.  The recorded time is the
interval behind the step that recorded it.  The start is not reached again, and the end is not
left.

A step crashes exactly when it comes to a time that the clock cannot hold: it begins a round whose
deadline would be such a time, or a round fails in it and the next one would be due at such a time.
-/
theorem run_rounds (settings : RoutingSettings) (start : Routing)
    (hstart : ofSettings settings = .ok start) (steps : List Step)
    (hfresh : (start.begun steps).Nodup) (r : Routing) (hrun : start.run? steps = some r) :
    let b := r.bootstrap
    ((b.round.isSome ↔ r.state = .bootstrapping) ∧ (b.nextRetry.isSome ↔ r.state = .degraded)) ∧
    (b.responded.Nodup ∧ ∀ peer, peer ∈ b.responded ↔
      (∃ seeds, settings.seeds = .ok seeds ∧ ∃ seed ∈ seeds, seed.peer = peer) ∧
        Connected steps peer) ∧
    (∀ round, b.round = some round →
      (∃ before step after began, steps = before ++ step :: after ∧
        (start.run before).begins? step = some (round.query, began) ∧
        round.deadline = began + settings.timeout.nanos ∧
        start.begun steps = start.begun before ++ [round.query] ∧
        round.query ∉ start.begun before) ∧
      ∀ step r', r.perform? step = some r' → r'.state =
        match step with
        | .progress p _ =>
          if p.ends round then
            if settings.minResponses ≤ b.responded.length then .active else .degraded
          else .bootstrapping
        | .tick _ now => if round.deadline ≤ now then .degraded else .bootstrapping
        | .stop => .stopped
        | _ => .bootstrapping) ∧
    (∀ p now, (∀ round, b.round = some round → p.query ≠ round.query) →
      r.perform? (.progress p now) = some r) ∧
    (∀ begun now,
      (r.asks (.tick begun now) = true ↔
        r.state = .degraded ∧ ∃ due, b.nextRetry = some due ∧ due ≤ now) ∧
      (r.asks (.tick begun now) = true → ∀ r', r.perform? (.tick begun now) = some r' →
        r'.bootstrap.round = begun.map (fun query => ⟨query, now + settings.timeout.nanos⟩) ∧
          r'.state = if begun.isSome then .bootstrapping else .degraded)) ∧
    (∀ step r' due, r.perform? step = some r' → r'.bootstrap.nextRetry = some due →
      b.nextRetry = some due ∨
        ∃ now, step.time? = some now ∧ due = now + settings.retryInterval.nanos) ∧
    (∀ before after, steps = before ++ after →
      (r.state = .idle → (start.run before).state = .idle) ∧
      ((start.run before).state = .stopped → r.state = .stopped)) ∧
    ∀ step, r.perform? step = none ↔ ∃ now, step.time? = some now ∧
      ((r.begins? step).isSome ∧ Instant.limit ≤ now + settings.timeout.nanos ∨
        r.fails step = true ∧ Instant.limit ≤ now + settings.retryInterval.nanos) := by
  intro b
  obtain ⟨hidle, hgoing, -⟩ := follows_ofSettings hstart
  obtain ⟨hcrashed, hrun'⟩ := (run?_eq_some_iff hidle hgoing).mp hrun
  rw [hrun'] at hcrashed
  have hfollows : Follows settings steps b := by
    have hfollows := follows_run hstart steps
    rwa [hrun'] at hfollows
  obtain ⟨stage, h⟩ : ∃ stage, b.IsAt stage := by
    have hstage := isAt_run hidle steps
    rwa [hrun'] at hstage
  refine ⟨⟨?_, ?_⟩, ⟨hfollows.nodup, fun peer => ?_⟩,
    fun round hround => ⟨?_, fun step r' hstep => ?_⟩, fun p now hp => ?_, fun begun now => ?_,
    fun step r' due hstep hdue => ?_,
    fun before after hsplit => ⟨fun hr => ?_, fun hbefore => ?_⟩, fun step => ?_⟩
  · rw [h.round, stage.isSome_round?_iff, ← h.state]
    rfl
  · rw [h.nextRetry, stage.isSome_due?_iff, ← h.state]
    rfl
  · rw [hfollows.responded]
    refine and_congr_left fun _ => ?_
    simp [isSeed, hfollows.seeds]
  · obtain ⟨before, step, after, began, rfl, hbegins, hdeadline, -, hafter⟩ :=
      opened_run hstart hrun hround
    have hbegun : start.begun (before ++ step :: after) = start.begun before ++ [round.query] := by
      rw [begun_append, begun, hbegins, hafter]
      rfl
    rw [hbegun, List.nodup_append] at hfresh
    refine ⟨before, step, after, began, rfl, hbegins, hdeadline, hbegun, fun hmem => ?_⟩
    exact hfresh.2.2 _ hmem _ (List.mem_singleton_self _) rfl
  · rw [← hfollows.minResponses]
    exact state_of_round h hround hstep
  · rw [perform?_eq_some_iff, show r.perform (.progress p now) = r from progressed_of_ne hp now]
    exact ⟨hcrashed, rfl⟩
  · refine ⟨?_, fun hasks r' hstep => ?_⟩
    · rw [asks_tick_iff h]
      constructor
      · rintro ⟨due, rfl, hdue⟩
        exact ⟨h.state, due, h.nextRetry, hdue⟩
      · rintro ⟨-, due, hretry, hdue⟩
        exact ⟨due, Stage.due?_eq_some_iff.mp (h.nextRetry.symm.trans hretry), hdue⟩
    · rw [← hfollows.timeout]
      exact opened_of_asks_tick h hasks hstep
  · rw [← hfollows.retryInterval]
    exact due_of_perform? h hstep hdue
  · obtain ⟨stage', h'⟩ := isAt_run hidle before
    obtain rfl := Stage.state_eq_idle_iff.mp (h.state.symm.trans hr)
    have hlast : ((start.run before).run after).bootstrap.IsAt .idle := by
      rw [← run_append, ← hsplit, hrun']
      exact h
    obtain rfl := isAt_idle_of_run h' after hlast
    exact h'.state
  · obtain ⟨stage', h'⟩ := isAt_run hidle before
    obtain rfl := Stage.state_eq_stopped_iff.mp (h'.state.symm.trans hbefore)
    have hlast : r = (start.run before).run after := by rw [← run_append, ← hsplit, hrun']
    rw [hlast]
    exact (isAt_stopped_run h' after).state
  · rw [perform?_eq_none_iff h hcrashed, next?_eq_none_iff h, ← hfollows.timeout,
      ← hfollows.retryInterval]

/-- A round times out and another one is begun; the report about the first search comes late, and
the one about the second while a seed is connected. -/
theorem run_rounds_late_report :
    let seed : PeerId := ⟨.sha256, [1]⟩
    let settings : RoutingSettings := ⟨[⟨[.tcp 4001, .p2p seed]⟩], .ofWord 60, 1, .ofWord 300⟩
    let start : Routing := ⟨⟨.ofWord 60, 1, .ofWord 300, [⟨seed, ⟨[.tcp 4001]⟩⟩], [], none, none,
      .idle, .empty, false⟩, 0⟩
    let steps : List Step := [.start (some 0) 0, .tick none 60, .tick (some 1) 360,
      .progress ⟨0, true, true⟩ 361, .connected seed]
    let r := start.run steps
    let r' := r.perform (.progress ⟨1, true, true⟩ 362)
    ofSettings settings = .ok start ∧ (start.begun steps).Nodup ∧ start.run? steps = some r ∧
    (r.bootstrap.round.isSome ↔ r.state = .bootstrapping) ∧
    r.perform? (.progress ⟨1, true, true⟩ 362) = some r' ∧ r'.state = .active := by
  intro seed settings start steps r r'
  have hstart : ofSettings settings = .ok start := rfl
  have hfresh : (start.begun steps).Nodup := by decide
  obtain ⟨hidle, hgoing, -⟩ := follows_ofSettings hstart
  have hrun : start.run? steps = some r := (run?_eq_some_iff hidle hgoing).mpr ⟨by decide, rfl⟩
  have hstep : r.perform? (.progress ⟨1, true, true⟩ 362) = some r' :=
    perform?_eq_some_iff.mpr ⟨by decide, rfl⟩
  have hrunning : r.bootstrap.round = some ⟨1, 420⟩ := by decide
  obtain ⟨hrecorded, -, hround, -⟩ := run_rounds settings start hstart steps hfresh r hrun
  exact ⟨hstart, hfresh, hrun, hrecorded.1, hstep,
    ((hround ⟨1, 420⟩ hrunning).2 (.progress ⟨1, true, true⟩ 362) r' hstep).trans (by decide)⟩

end Routing

end CircuitRelay
