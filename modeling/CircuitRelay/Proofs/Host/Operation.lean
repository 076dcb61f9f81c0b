import CircuitRelay.Host.Event
import CircuitRelay.Proofs.Host.Refusal
import CircuitRelay.Proofs.Routing.Rounds

/-!
# Operations of a host

A host is told to stop, is asked to join the overlay or to enable its relay, hears of events and of
time, and hands out its relay and its connection manager, which others use directly.  Beside the
relay there are two more holders of guards: the connections that were admitted, and whoever else
keeps guards of the same resource manager.  A `SharedHost` is a host with these guards.

Seen from its parts an operation is one of four things.  It is work on the parts that are there,
`Works`: some operations of the relay, steps of the connections and of joining, and dropping or
closing in the resource manager, one after the other.  Or it starts to join the overlay, or it
enables the relay, or it stops the host, each of which happens once.  Whatever work keeps is shown
part by part.

* `perform_cases`: an operation is work, or it starts to join, or it enables the relay.
* `Keeps`, `keeps_works`: the books are those of the permits of the relay and of further guards.
* `Sound`, `sound_perform`, `sound_run`: what holds of every host.
-/

namespace CircuitRelay

namespace Host

variable {h h' : Host}

/-- Whatever a host is asked, told or used for. -/
inductive Operation where
  | stop
  | startRouting (now : Instant)
  /-- The operator asks for another round. -/
  | requestRound
  /-- The host takes a request of the operator. -/
  | retryRouting (now : Instant)
  | enableRelay (switch : RelaySwitch) (list : AccessList)
  | relay (operation : Relay.Operation)
  | connections (step : ClosingQueue.Step)
  | event (now : Instant) (event : Event)
  | tick (now : Instant)
  | introduce

/-- The host after an operation; one that fails leaves it alone. -/
def perform (h : Host) : Operation → Host
  | .stop => h.stop
  | .startRouting now =>
    match h.startRouting now with
    | .ok started => started
    | .error _ => h
  | .requestRound => h.mapRouting .request
  | .retryRouting now => h.stepRouting fun r o => r.takeRequest.2.retry o now
  | .enableRelay switch list =>
    match h.enableRelay switch list with
    | .ok (_, enabled) => enabled
    | .error _ => h
  | .relay operation => h.mapRelay (·.perform operation)
  | .connections step => { h with connections := h.connections.perform step }
  | .event now e => (h.handle now e).2
  | .tick now => h.tick now
  | .introduce => h.introduce.2

/-! ## Parts -/

/-- The state of joining, once it was started. -/
def bootstrap? (h : Host) : Option Bootstrap := h.routing.map Routing.bootstrap

/-- The permits of the relay. -/
def permits (h : Host) : List Permit :=
  match h.relay with
  | none => []
  | some (_, gate) => gate.permits

/-- Work on the parts of a host, whatever happens to the rest of it. -/
inductive Works : Host → Host → Prop where
  | aside {h h' : Host} (connections : h'.connections = h.connections)
    (resources : h'.resources = h.resources) (relay : h'.relay = h.relay)
    (bootstrap : h'.bootstrap? = h.bootstrap?) (stopped : h'.stopped = h.stopped) : Works h h'
  | relay (h : Host) (operation : Relay.Operation) : Works h (h.mapRelay (·.perform operation))
  | connections (h : Host) (step : ClosingQueue.Step) :
    Works h { h with connections := h.connections.perform step }
  | routing (h : Host) (step : Routing.Step) : Works h (h.mapRouting (·.perform step))
  | collect (h : Host) : Works h { h with resources := h.resources.collect.2 }
  | close (h : Host) : Works h { h with resources := h.resources.close }
  | trans {h h' h'' : Host} (first : Works h h') (second : Works h' h'') : Works h h''

theorem Works.refl (h : Host) : Works h h := .aside rfl rfl rfl rfl rfl

theorem stopped_works (hw : Works h h') : h'.stopped = h.stopped := by
  induction hw with
  | aside hconnections hresources hrelay hbootstrap hstopped => exact hstopped
  | relay h operation =>
    unfold mapRelay stepRelay
    split
    · rfl
    · rfl
  | connections | routing | collect | close => rfl
  | trans first second ih ih' => exact ih'.trans ih

theorem mapRelay_of_none (hrelay : h.relay = none) (f : Relay → Relay) : h.mapRelay f = h := by
  rw [mapRelay, stepRelay, relay?, hrelay]
  rfl

theorem mapRelay_of_some {access : AccessControl} {gate : RelayGate}
    (hrelay : h.relay = some (access, gate)) (f : Relay → Relay) :
    h.mapRelay f = h.putRelay (f ⟨access, h.connections.manager, h.resources, gate⟩) := by
  rw [mapRelay, stepRelay, relay?, hrelay]
  rfl

/-- A report of the relay protocol is an operation of the relay, or nothing. -/
theorem works_mapRelay_handle (h : Host) (event : Relay.Event) :
    Works h (h.mapRelay (·.handle event)) := by
  have hhandle : (fun r : Relay => r.handle event) =
      fun r => (event.operation?.map r.perform).getD r :=
    funext fun r => r.handle_eq event
  rw [hhandle]
  cases event.operation? with
  | none =>
    cases hrelay : h.relay with
    | none =>
      rw [mapRelay_of_none hrelay]
      exact .refl h
    | some parts =>
      rw [mapRelay_of_some hrelay]
      exact .aside rfl rfl hrelay.symm rfl rfl
  | some operation => exact .relay h operation

/-- What the overlay does to joining is a step of it. -/
theorem works_stepRouting (h : Host) {f : Routing → Overlay → Routing × Overlay}
    (hf : ∀ r o, ∃ step, (f r o).1.bootstrap = (r.perform step).bootstrap) :
    Works h (h.stepRouting f) := by
  unfold stepRouting
  split
  · exact .refl h
  · rename_i r hrouting
    obtain ⟨step, hstep⟩ := hf r h.overlay
    refine (Works.routing h step).trans (.aside rfl rfl rfl ?_ rfl)
    rw [bootstrap?, bootstrap?, mapRouting, hrouting]
    exact congrArg some hstep

theorem stop_of_stopped (hstopped : h.stopped = true) : h.stop = h := if_pos hstopped

/-- Once the flag is set, stopping is work on every part. -/
theorem works_stop (hrunning : h.stopped = false) : Works { h with stopped := true } h.stop := by
  let flagged := { h with stopped := true }
  let halted := flagged.mapRelay (·.perform .stop)
  let ended := halted.mapRouting (·.perform .stop)
  have hended : Works flagged ended := .trans (.relay flagged .stop) (.routing halted .stop)
  rw [stop, if_neg (by rw [hrunning]; exact Bool.false_ne_true)]
  exact (hended.trans (.connections ended .close)).trans (.close _)

theorem works_report (h : Host) : Works h h.report.2 := by
  unfold report
  dsimp only
  split
  · exact .refl h
  · exact .aside rfl rfl rfl rfl rfl

theorem works_event (h : Host) (now : Instant) (e : Event) : Works h (h.handle now e).2 := by
  have hremove : ∀ (as : List Address) (n : Host), Works n (as.foldl removeListen n) := by
    intro as
    induction as with
    | nil => exact .refl
    | cons a as ih =>
      intro n
      have hremoved : Works n (n.removeListen a) := .aside rfl rfl rfl rfl rfl
      exact hremoved.trans (ih _)
  cases e with
  | listening a =>
    have hadded : Works h (h.addListen a) := .aside rfl rfl rfl rfl rfl
    exact hadded.trans (works_report _)
  | listeningEnded a => exact (hremove [a] h).trans (works_report _)
  | listenerClosed as => exact (hremove as h).trans (works_report _)
  | established peer => exact .routing h (.connected peer)
  | closed peer remaining =>
    show Works h (ite (remaining = 0) _ _ : List String × Host).2
    split
    · exact (Works.routing h (.disconnected peer)).trans (.relay _ (.peerDisconnected peer))
    · exact .refl h
  | identified peer protocols addresses =>
    show Works h (ite (overlayProtocol ∈ protocols) _ _ : List String × Host).2
    split
    · exact .aside rfl rfl rfl rfl rfl
    · exact .refl h
  | relay event => exact works_mapRelay_handle h event
  | progress p => exact .routing h (.progress p now)
  | other => exact .refl h

theorem works_tick (h : Host) (now : Instant) : Works h (h.tick now) := by
  let trimmed := { h with connections := (h.connections.trim now).2 }
  let cleaned := { trimmed with resources := trimmed.resources.collect.2 }
  let expired := cleaned.mapRelay (·.perform (.expirePending now))
  have hexpired : Works h expired :=
    ((Works.connections h (.trim now)).trans (.collect trimmed)).trans (.relay cleaned _)
  show Works h (expired.stepRouting fun r o => r.tick o now)
  refine hexpired.trans (works_stepRouting expired fun r o => ?_)
  obtain ⟨begun, heq⟩ := r.tick_eq o now
  exact ⟨_, congrArg Routing.bootstrap heq⟩

theorem works_introduce (h : Host) : Works h h.introduce.2 := by
  have hpublished : Works h (h.publish ⟨h.disclosure.announced, []⟩) := .aside rfl rfl rfl rfl rfl
  unfold introduce
  dsimp only
  split
  · exact hpublished.trans (works_report _)
  · exact hpublished

/-- An operation is work on the parts that are there, or it stops the host, or it starts to join the
overlay, or it enables the relay. -/
theorem perform_cases (h : Host) (operation : Operation) :
    Works h (h.perform operation) ∨
    (operation = .stop ∧ h.stopped = false ∧
      Works { h with stopped := true } (h.perform operation)) ∨
    (h.routing = none ∧ ∃ r : Routing, r.bootstrap.IsAt .idle ∧
      Works { h with routing := some r } (h.perform operation)) ∨
    (h.relay = none ∧ ∃ list settings,
      h.perform operation = { h with relay := some (.ofList list, .ofSettings settings) }) := by
  cases operation with
  | stop =>
    cases hstopped : h.stopped with
    | true =>
      refine .inl ?_
      rw [perform, stop_of_stopped hstopped]
      exact .refl h
    | false => exact .inr (.inl ⟨rfl, rfl, works_stop hstopped⟩)
  | startRouting now =>
    have hperform : h.perform (.startRouting now) =
        match h.startRouting now with
        | .ok started => started
        | .error _ => h := rfl
    rw [hperform, Host.startRouting]
    cases hrouting : h.routing with
    | some _ => exact .inl (.refl h)
    | none =>
      cases hsettings : Routing.ofSettings h.routingSettings with
      | error f => exact .inl (.refl h)
      | ok r =>
        refine .inr (.inr (.inl ⟨rfl, r, (Routing.follows_ofSettings hsettings).1, ?_⟩))
        show Works _ ({ h with routing := some r }.stepRouting fun r o => r.start o now)
        refine works_stepRouting { h with routing := some r } fun r o => ?_
        obtain ⟨begun, heq⟩ := r.start_eq o now
        exact ⟨_, congrArg Routing.bootstrap heq⟩
  | requestRound =>
    refine .inl (.aside rfl rfl rfl ?_ rfl)
    show (h.routing.map Routing.request).map Routing.bootstrap = _
    rw [Option.map_map]
    rfl
  | retryRouting now =>
    left
    show Works h (h.stepRouting fun r o => r.takeRequest.2.retry o now)
    refine works_stepRouting h fun r o => ?_
    obtain ⟨step, heq⟩ := r.retry_eq o now
    have hsame : (r.takeRequest.2.retry o now).1.bootstrap = (r.retry o now).1.bootstrap := by
      have htaken : r.takeRequest.2.bootstrap = r.bootstrap := rfl
      unfold Routing.retry
      rw [htaken]
      split
      · rfl
      · rfl
    exact ⟨step, hsame.trans (congrArg Routing.bootstrap heq)⟩
  | enableRelay switch list =>
    have hperform : h.perform (.enableRelay switch list) =
        match h.enableRelay switch list with
        | .ok (_, enabled) => enabled
        | .error _ => h := rfl
    rw [hperform, Host.enableRelay]
    by_cases henabled : switch.enabled = false
    · rw [if_pos henabled]
      exact .inl (.refl h)
    · rw [if_neg henabled, Relay.start]
      cases hrelay : h.relay with
      | some parts => exact .inl (.refl h)
      | none =>
        cases switch.check with
        | error f => exact .inl (.refl h)
        | ok settings => exact .inr (.inr (.inr ⟨rfl, list, settings, rfl⟩))
  | relay operation => exact .inl (.relay h operation)
  | connections step => exact .inl (.connections h step)
  | event now e => exact .inl (h.works_event now e)
  | tick now => exact .inl (h.works_tick now)
  | introduce => exact .inl h.works_introduce

/-! ## The books -/

variable {ceilings : Ceilings} {R C : PeerId → Permit → Prop} {gs gs' : List Guard}

/-- The books of the resource manager are those of the permits of the relay and of further guards,
and every permit satisfies what it has to. -/
structure Keeps (ceilings : Ceilings) (R C : PeerId → Permit → Prop) (gs : List Guard)
    (h : Host) : Prop where
  balanced : h.resources.Balanced ceilings (Permit.guards h.permits ++ gs)
  holds : ∀ {access gate}, h.relay = some (access, gate) → gate.Holds R C

/-- Whatever else is done in the resource manager, the relay keeps its permits. -/
theorem Keeps.of_balanced (hk : h.Keeps ceilings R C gs) {m : ResourceManager}
    (hm : m.Balanced ceilings (Permit.guards h.permits ++ gs')) :
    { h with resources := m }.Keeps ceilings R C gs' :=
  ⟨hm, hk.holds⟩

theorem Keeps.mapRelay (hk : h.Keeps ceilings R C gs)
    (hadmits : ∀ r, h.relay? = some r → r.Admits R C) (operation : Relay.Operation) :
    (h.mapRelay (·.perform operation)).Keeps ceilings R C gs := by
  cases hrelay : h.relay with
  | none =>
    rw [mapRelay_of_none hrelay]
    exact hk
  | some parts =>
    obtain ⟨access, gate⟩ := parts
    let r : Relay := ⟨access, h.connections.manager, h.resources, gate⟩
    have hr : r.Keeps ceilings gate.settings R C gs := by
      refine ⟨rfl, hk.holds hrelay, ?_⟩
      have hbalanced := hk.balanced
      rwa [permits, hrelay] at hbalanced
    have hfound : h.relay? = some r := by rw [relay?, hrelay]; rfl
    have hperformed := hr.perform (hadmits r hfound) operation
    rw [mapRelay_of_some hrelay]
    refine ⟨hperformed.balanced, fun {access' gate'} hsome => ?_⟩
    cases hsome
    exact hperformed.holds

theorem keeps_works (hw : Works h h')
    (hadmits : ∀ {n}, Works h n → ∀ r, n.relay? = some r → r.Admits R C)
    (hk : h.Keeps ceilings R C gs) : h'.Keeps ceilings R C gs := by
  induction hw with
  | @aside h h' hconnections hresources hrelay hbootstrap =>
    refine ⟨?_, fun hsome => hk.holds (hrelay.symm.trans hsome)⟩
    rw [permits, hresources, hrelay]
    exact hk.balanced
  | relay h operation => exact hk.mapRelay (hadmits (.refl h)) operation
  | connections h step => exact ⟨hk.balanced, hk.holds⟩
  | routing h step => exact ⟨hk.balanced, hk.holds⟩
  | collect h => exact hk.of_balanced hk.balanced.collect
  | close h => exact hk.of_balanced hk.balanced.close
  | trans first second ih ih' => exact ih' (fun hw => hadmits (first.trans hw)) (ih hadmits hk)

/-! ## Every host -/

/-- A relay that has stopped keeps no permits. -/
def Emptied (h : Host) : Prop :=
  ∀ access gate, h.relay = some (access, gate) → gate.closed = true → gate.counters = .stop

theorem emptied_works (hw : Works h h') (he : h.Emptied) : h'.Emptied := by
  induction hw with
  | aside hconnections hresources hrelay hbootstrap hstopped =>
    exact fun access gate hsome => he access gate (hrelay.symm.trans hsome)
  | relay h operation =>
    cases hrelay : h.relay with
    | none =>
      rw [mapRelay_of_none hrelay]
      exact he
    | some parts =>
      obtain ⟨access, gate⟩ := parts
      have hgate : Relay.Emptied ⟨access, h.connections.manager, h.resources, gate⟩ :=
        he access gate hrelay
      rw [mapRelay_of_some hrelay]
      intro access' gate' hsome
      cases hsome
      exact Relay.emptied_perform hgate operation
  | connections | routing | collect | close => exact he
  | trans first second ih ih' => exact ih' (ih he)

/-- Joining, if it was started, is in a state with a property. -/
def Joins (P : Bootstrap → Prop) (h : Host) : Prop := ∀ b, h.bootstrap? = some b → P b

/-- Work neither starts joining nor ends it, and only makes steps of it. -/
theorem joins_works {P : Bootstrap → Prop}
    (hP : ∀ (r : Routing) (step : Routing.Step), P r.bootstrap → P (r.perform step).bootstrap)
    (hw : Works h h') (hj : h.Joins P) :
    h'.Joins P ∧ h'.bootstrap?.isSome = h.bootstrap?.isSome := by
  induction hw with
  | aside hconnections hresources hrelay hbootstrap hstopped =>
    refine ⟨fun b hsome => hj b (hbootstrap.symm.trans hsome), ?_⟩
    rw [hbootstrap]
  | relay h operation =>
    cases hrelay : h.relay with
    | none =>
      rw [mapRelay_of_none hrelay]
      exact ⟨hj, rfl⟩
    | some parts =>
      obtain ⟨access, gate⟩ := parts
      rw [mapRelay_of_some hrelay]
      exact ⟨hj, rfl⟩
  | routing h step =>
    refine ⟨fun b hsome => ?_, ?_⟩
    · obtain ⟨r, hr, rfl⟩ := Option.map_eq_some_iff.mp hsome
      obtain ⟨r, hrouting, rfl⟩ := Option.map_eq_some_iff.mp hr
      exact hP r step (hj r.bootstrap (congrArg (Option.map Routing.bootstrap) hrouting))
    · show ((h.routing.map _).map _).isSome = (h.routing.map _).isSome
      rw [Option.isSome_map, Option.isSome_map, Option.isSome_map]
  | connections | collect | close => exact ⟨hj, rfl⟩
  | trans first second ih ih' =>
    obtain ⟨hfirst, hsome⟩ := ih hj
    obtain ⟨hsecond, hsome'⟩ := ih' hfirst
    exact ⟨hsecond, hsome'.trans hsome⟩

/-- What holds of every host: its books balance, a relay that has stopped keeps nothing, and what is
recorded of joining belongs to a stage. -/
structure Sound (ceilings : Ceilings) (gs : List Guard) (h : Host) : Prop where
  keeps : h.Keeps ceilings (fun _ _ => True) (fun _ _ => True) gs
  emptied : h.Emptied
  staged : h.Joins fun b => ∃ stage, b.IsAt stage

theorem sound_works (hw : Works h h') (hs : h.Sound ceilings gs) : h'.Sound ceilings gs where
  keeps := keeps_works hw (fun _ r _ => r.admits_true) hs.keeps
  emptied := emptied_works hw hs.emptied
  staged := (joins_works (fun _ step ⟨_, hstage⟩ => ⟨_, Routing.isAt_perform hstage step⟩) hw
    hs.staged).1

/-- The relay is enabled without permits. -/
theorem keeps_enabled (hk : h.Keeps ceilings R C gs) (hrelay : h.relay = none) (list : AccessList)
    (settings : RelaySettings) (R' C' : PeerId → Permit → Prop) :
    { h with relay := some (.ofList list, .ofSettings settings) }.Keeps ceilings R' C' gs := by
  refine ⟨?_, fun hsome => ?_⟩
  · have hbalanced := hk.balanced
    rwa [permits, hrelay] at hbalanced
  · cases hsome
    exact ⟨PermitQueues.holds_empty _, PermitQueues.holds_empty _, PermitQueues.holds_empty _,
      PermitQueues.holds_empty _⟩

theorem sound_perform (hs : h.Sound ceilings gs) (operation : Operation) :
    (h.perform operation).Sound ceilings gs := by
  rcases h.perform_cases operation with
    hw | ⟨-, -, hw⟩ | ⟨-, r, hidle, hw⟩ | ⟨hrelay, list, settings, heq⟩
  · exact sound_works hw hs
  · exact sound_works hw ⟨⟨hs.keeps.balanced, hs.keeps.holds⟩, hs.emptied, hs.staged⟩
  · refine sound_works hw ⟨⟨hs.keeps.balanced, hs.keeps.holds⟩, hs.emptied, fun b hsome => ?_⟩
    cases hsome
    exact ⟨.idle, hidle⟩
  · rw [heq]
    refine ⟨keeps_enabled hs.keeps hrelay list settings _ _, fun access gate hsome hclosed => ?_,
      hs.staged⟩
    cases hsome
    cases hclosed

/-- A built host is sound and runs, and nobody keeps guards of it. -/
theorem sound_build {localPeer : PeerId} {settings : HostSettings}
    (hbuild : build localPeer settings = .ok h) :
    h.Sound settings.ceilings [] ∧ h.stopped = false := by
  unfold build at hbuild
  split at hbuild
  · cases hbuild
  · split at hbuild
    · cases hbuild
    · cases hbuild
      exact ⟨⟨⟨ResourceManager.balanced_ofCeilings _, nofun⟩, nofun, nofun⟩, rfl⟩

end Host

/-! ## A host among other holders -/

/-- A host with the guards that are kept of its resource manager beside those of its relay. -/
structure SharedHost (ν : Type) where
  host : Host
  /-- The guards of the connections that were admitted. -/
  admitted : Table ConnectionId ConnectionGuard
  /-- The guards of the others. -/
  guards : Table ν Guard

namespace SharedHost

variable {ν : Type} [DecidableEq ν] {s : SharedHost ν} {ceilings : Ceilings}
  {R C : PeerId → Permit → Prop}

/-- A host of which nobody keeps a guard. -/
def ofHost (h : Host) : SharedHost ν := ⟨h, .empty, .empty⟩

/-- The admission of connections by the resource manager of the host. -/
def admission (s : SharedHost ν) : ConnectionAdmission := ⟨s.host.resources, s.admitted⟩

/-- What the others hold. -/
def others (s : SharedHost ν) : Holdings ν := ⟨s.host.resources, s.guards⟩

/-- All guards but those of the permits. -/
def elsewhere (s : SharedHost ν) : List Guard :=
  s.admission.toHoldings.guards.values ++ s.guards.values

/-- An operation of the host, a callback about a connection, or whatever the others do. -/
inductive Step (ν : Type) where
  | host (operation : Host.Operation)
  | callback (c : ConnectionAdmission.Callback)
  | others (step : Holdings.Step ν)

/-- The host and its guards after a step. -/
def perform (s : SharedHost ν) : Step ν → SharedHost ν
  | .host operation => { s with host := s.host.perform operation }
  | .callback c =>
    let a := (s.admission.answer c).2
    { s with host := { s.host with resources := a.manager }, admitted := a.guards }
  | .others step =>
    let held := s.others.perform step
    { s with host := { s.host with resources := held.manager }, guards := held.guards }

/-- The host and its guards after a run. -/
def run (s : SharedHost ν) (steps : List (Step ν)) : SharedHost ν := steps.foldl perform s

/-- The holders beside the relay keep the books as well. -/
theorem keeps_perform (hk : s.host.Keeps ceilings R C s.elsewhere) (step : Step ν)
    (hstep : ∀ operation, step ≠ .host operation) :
    (s.perform step).host.Keeps ceilings R C (s.perform step).elsewhere := by
  cases step with
  | host operation => exact absurd rfl (hstep operation)
  | callback c =>
    obtain ⟨steps, hsteps⟩ := s.admission.exists_run_answer c
    have hbefore : s.admission.toHoldings.Balanced ceilings
        (s.guards.values ++ Permit.guards s.host.permits) := by
      refine hk.balanced.perm ?_
      rw [← List.append_assoc]
      exact List.perm_append_comm
    have hafter := Holdings.balanced_run hbefore steps
    rw [← hsteps] at hafter
    refine hk.of_balanced (hafter.perm ?_)
    rw [← List.append_assoc]
    exact List.perm_append_comm
  | others step =>
    have hbefore : s.others.Balanced ceilings
        (Permit.guards s.host.permits ++ s.admission.toHoldings.guards.values) := by
      refine hk.balanced.perm ?_
      rw [elsewhere, ← List.append_assoc]
      exact List.perm_append_comm
    refine hk.of_balanced ((Holdings.balanced_perform hbefore step).perm ?_)
    refine List.perm_append_comm.trans ?_
    rw [List.append_assoc]
    exact .refl _

theorem sound_perform (hs : s.host.Sound ceilings s.elsewhere) (step : Step ν) :
    (s.perform step).host.Sound ceilings (s.perform step).elsewhere := by
  cases step with
  | host operation => exact Host.sound_perform hs operation
  | callback | others => exact ⟨keeps_perform hs.keeps _ nofun, hs.emptied, hs.staged⟩

theorem sound_run (hs : s.host.Sound ceilings s.elsewhere) (steps : List (Step ν)) :
    (s.run steps).host.Sound ceilings (s.run steps).elsewhere := by
  induction steps generalizing s with
  | nil => exact hs
  | cons step steps ih => exact ih (sound_perform hs step)

end SharedHost

end CircuitRelay
