import CircuitRelay.Proofs.Host.Operation

/-!
# The end of a host is final

Only stopping a host looks at the flag that says that it has stopped.  Every other operation still
goes through: a relay can be enabled, the overlay can be joined, connections come and go and guards
are moved and given back.  What makes the end final is what stopping leaves behind, `Over`: both
managers are closed, the relay has no permits, and every later operation keeps it so.  A relay that
is enabled afterwards is open, but it is refused every charge.

* `Over`, `over_works`: what the end is, and that work does not undo it.
* `over_stop`, `joins_stop`: stopping brings it about.
* `over_perform`: no step undoes it, and the system counts less and less.
* `run_ends`: what holds after any run that follows a stop.
-/

namespace CircuitRelay

namespace Host

variable {h h' : Host} {q : ClosingQueue} {ceilings : Ceilings} {gs : List Guard}

/-! ## The end -/

/-- Both managers are closed, nothing was selected for closing since `q`, and the relay has no
permits. -/
structure Over (q : ClosingQueue) (ceilings : Ceilings) (gs : List Guard) (h : Host) : Prop where
  resources : h.resources.closed = true
  connections : q.Rests h.connections
  keeps : h.Keeps ceilings (fun _ _ => False) (fun _ _ => False) gs

theorem closed_works (hw : Works h h') (hclosed : h.resources.closed = true) :
    h'.resources.closed = true := by
  induction hw with
  | aside hconnections hresources hrelay hbootstrap hstopped =>
    rw [hresources]
    exact hclosed
  | relay h operation =>
    cases hrelay : h.relay with
    | none =>
      rw [mapRelay_of_none hrelay]
      exact hclosed
    | some parts =>
      obtain ⟨access, gate⟩ := parts
      rw [mapRelay_of_some hrelay]
      exact (Relay.sameFlags_perform _ operation).1.trans hclosed
  | connections | routing | collect => exact hclosed
  | close => rfl
  | trans first second ih ih' => exact ih' (ih hclosed)

theorem rests_works (hw : Works h h') (hrests : q.Rests h.connections) :
    q.Rests h'.connections := by
  induction hw with
  | aside hconnections hresources hrelay hbootstrap hstopped =>
    rw [hconnections]
    exact hrests
  | relay h operation =>
    cases hrelay : h.relay with
    | none =>
      rw [mapRelay_of_none hrelay]
      exact hrests
    | some parts =>
      obtain ⟨access, gate⟩ := parts
      obtain ⟨-, hclosed, hpruned⟩ := Relay.sameFlags_perform
        ⟨access, h.connections.manager, h.resources, gate⟩ operation
      rw [mapRelay_of_some hrelay]
      exact ⟨hclosed.trans hrests.closed, hpruned.trans hrests.pruned, hrests.queue⟩
  | connections h step => exact hrests.perform step
  | routing | collect | close => exact hrests
  | trans first second ih ih' => exact ih' (ih hrests)

/-- A relay of a host at the end admits nothing, whether its gate was closed or not. -/
theorem Over.admitsNothing (ho : h.Over q ceilings gs) {r : Relay} (hr : h.relay? = some r) :
    r.AdmitsNothing := by
  obtain ⟨parts, -, rfl⟩ := Option.map_eq_some_iff.mp hr
  exact Relay.admitsNothing_of_resources ho.resources

/-- Work does not undo the end. -/
theorem over_works (hw : Works h h') (ho : h.Over q ceilings gs) : h'.Over q ceilings gs where
  resources := closed_works hw ho.resources
  connections := rests_works hw ho.connections
  keeps := by
    refine keeps_works hw (fun {n} hn r hr => ?_) ho.keeps
    obtain ⟨parts, -, rfl⟩ := Option.map_eq_some_iff.mp hr
    exact Relay.admitsNothing_of_resources (closed_works hn ho.resources)

theorem over_perform (ho : h.Over q ceilings gs) (operation : Operation) :
    (h.perform operation).Over q ceilings gs := by
  rcases h.perform_cases operation with
    hw | ⟨-, -, hw⟩ | ⟨-, r, -, hw⟩ | ⟨hrelay, list, settings, heq⟩
  · exact over_works hw ho
  · exact over_works hw ⟨ho.resources, ho.connections, ho.keeps.balanced, ho.keeps.holds⟩
  · exact over_works hw ⟨ho.resources, ho.connections, ho.keeps.balanced, ho.keeps.holds⟩
  · rw [heq]
    exact ⟨ho.resources, ho.connections, keeps_enabled ho.keeps hrelay list settings _ _⟩

theorem Over.permits_eq_nil (ho : h.Over q ceilings gs) : h.permits = [] := by
  unfold permits
  split
  · rfl
  · rename_i access gate hrelay
    exact RelayGate.permits_eq_nil (ho.keeps.holds hrelay)

/-- All that the system still counts are the guards of others. -/
theorem Over.get_usage (ho : h.Over q ceilings gs) (r : Resource) :
    (h.resources.usage .system).get r = Guard.total gs .system r := by
  rw [ho.keeps.balanced.usage_eq, ho.permits_eq_nil]
  rfl

/-! ## Stopping -/

/-- What stopping does to the parts, the first time. -/
theorem stop_of_running (hrunning : h.stopped = false) :
    let ended := ({ h with stopped := true }.mapRelay .stop).mapRouting .stop
    h.stop = { ended with
      connections := { ended.connections with manager := ended.connections.manager.close }
      resources := ended.resources.close } :=
  if_neg (by rw [hrunning]; exact Bool.false_ne_true)

theorem stopped_stop (h : Host) : h.stop.stopped = true := by
  cases hstopped : h.stopped with
  | true => rw [stop_of_stopped hstopped, hstopped]
  | false => exact stopped_works (works_stop hstopped)

/-- Nothing takes the flag back. -/
theorem stopped_perform (hstopped : h.stopped = true) (operation : Operation) :
    (h.perform operation).stopped = true := by
  rcases h.perform_cases operation with
    hw | ⟨-, hrunning, -⟩ | ⟨-, r, -, hw⟩ | ⟨-, list, settings, heq⟩
  · exact (stopped_works hw).trans hstopped
  · exact Bool.noConfusion (hstopped.symm.trans hrunning)
  · exact (stopped_works hw).trans hstopped
  · rw [heq]
    exact hstopped

/-- Only stopping sets the flag. -/
theorem eq_stop_of_stopped {operation : Operation} (hrunning : h.stopped = false)
    (hstopped : (h.perform operation).stopped = true) : operation = .stop := by
  rcases h.perform_cases operation with
    hw | ⟨hstop, -, -⟩ | ⟨-, r, -, hw⟩ | ⟨-, list, settings, heq⟩
  · exact Bool.noConfusion (hrunning.symm.trans ((stopped_works hw).symm.trans hstopped))
  · exact hstop
  · exact Bool.noConfusion (hrunning.symm.trans ((stopped_works hw).symm.trans hstopped))
  · rw [heq] at hstopped
    exact Bool.noConfusion (hrunning.symm.trans hstopped)

/-- Stopping ends the relay, if there is one. -/
theorem closed_stop (hrunning : h.stopped = false) {access : AccessControl} {gate : RelayGate}
    (hrelay : h.stop.relay = some (access, gate)) : gate.closed = true := by
  have hclosed : ∀ r : Relay, r.stop.gate.closed = true := by
    intro r
    unfold Relay.stop
    split
    · rename_i hclosed
      exact hclosed
    · rfl
  let flagged := { h with stopped := true }
  rw [stop_of_running hrunning] at hrelay
  replace hrelay : (flagged.mapRelay .stop).relay = some (access, gate) := hrelay
  cases hbefore : flagged.relay with
  | none =>
    rw [mapRelay_of_none hbefore, hbefore] at hrelay
    cases hrelay
  | some parts =>
    rw [mapRelay_of_some hbefore] at hrelay
    cases hrelay
    exact hclosed _

theorem over_stop (hs : h.Sound ceilings gs) (hrunning : h.stopped = false) :
    h.stop.Over h.stop.connections ceilings gs := by
  have hsound : h.stop.Sound ceilings gs := sound_perform hs .stop
  refine ⟨?_, .refl ?_, hsound.keeps.balanced, fun {access gate} hrelay => ?_⟩
  · rw [stop_of_running hrunning]
    rfl
  · rw [stop_of_running hrunning]
    rfl
  · refine RelayGate.holdsNothing_of_counters (hsound.keeps.holds hrelay) ?_
    exact hsound.emptied access gate hrelay (closed_stop hrunning hrelay)

theorem bootstrap?_stop (hrunning : h.stopped = false) :
    h.stop.bootstrap? = h.bootstrap?.map Bootstrap.stop := by
  let flagged := { h with stopped := true }
  have hrelay : (flagged.mapRelay .stop).routing = h.routing := by
    cases hbefore : flagged.relay with
    | none => rw [mapRelay_of_none hbefore]
    | some parts =>
      rw [mapRelay_of_some hbefore]
      rfl
  rw [stop_of_running hrunning]
  show ((flagged.mapRelay .stop).routing.map Routing.stop).map Routing.bootstrap =
    (h.routing.map Routing.bootstrap).map Bootstrap.stop
  rw [hrelay, Option.map_map, Option.map_map]
  rfl

/-- Joining that was started before the end has ended with it. -/
theorem joins_stop (hs : h.Sound ceilings gs) (hrunning : h.stopped = false) :
    h.stop.Joins (·.IsAt .stopped) := by
  intro b hsome
  rw [bootstrap?_stop hrunning] at hsome
  obtain ⟨b, hb, rfl⟩ := Option.map_eq_some_iff.mp hsome
  obtain ⟨stage, hstage⟩ := hs.staged b hb
  have hafter := Routing.isAt_perform (r := ⟨b, 0⟩) hstage .stop
  rwa [Routing.next?_stop] at hafter

/-- Joining that has ended stays so, and there is no other. -/
theorem joins_perform (hj : h.Joins (·.IsAt .stopped)) (hsome : h.bootstrap?.isSome = true)
    (operation : Operation) : (h.perform operation).Joins (·.IsAt .stopped) ∧
      (h.perform operation).bootstrap?.isSome = true := by
  have hstep : ∀ (r : Routing) (step : Routing.Step), r.bootstrap.IsAt .stopped →
      (r.perform step).bootstrap.IsAt .stopped := by
    intro r step hr
    have hafter := Routing.isAt_perform hr step
    rwa [Routing.next?_stopped] at hafter
  rcases h.perform_cases operation with
    hw | ⟨-, -, hw⟩ | ⟨hnone, -⟩ | ⟨-, list, settings, heq⟩
  · obtain ⟨hj', hsome'⟩ := joins_works hstep hw hj
    exact ⟨hj', hsome'.trans hsome⟩
  · obtain ⟨hj', hsome'⟩ := joins_works hstep hw (h := { h with stopped := true }) hj
    exact ⟨hj', hsome'.trans hsome⟩
  · rw [bootstrap?, hnone] at hsome
    cases hsome
  · rw [heq]
    exact ⟨hj, hsome⟩

end Host

/-! ## Among other holders -/

namespace SharedHost

variable {ν : Type} [DecidableEq ν] {s : SharedHost ν} {q : ClosingQueue} {ceilings : Ceilings}

/-- No step undoes the end, and what the other holders take of the system only becomes less. -/
theorem over_perform (ho : s.host.Over q ceilings s.elsewhere) (step : Step ν) :
    (s.perform step).host.Over q ceilings (s.perform step).elsewhere ∧
      ∀ r, Guard.total (s.perform step).elsewhere .system r ≤
        Guard.total s.elsewhere .system r := by
  have hkeeps := keeps_perform ho.keeps step
  cases step with
  | host operation => exact ⟨Host.over_perform ho operation, fun _ => Nat.le_refl _⟩
  | callback c =>
    obtain ⟨steps, hsteps⟩ := s.admission.exists_run_answer c
    have hless : s.admission.toHoldings.Dwindles (s.admission.answer c).2.toHoldings := by
      rw [hsteps]
      exact Holdings.dwindles_run ho.resources steps
    refine ⟨⟨hless.closed, ho.connections, hkeeps (by rintro _ ⟨⟩)⟩, fun r => ?_⟩
    rw [elsewhere, elsewhere, Guard.total_append, Guard.total_append]
    exact Nat.add_le_add_right (hless.total_le r) _
  | others step =>
    have hless : s.others.Dwindles (s.others.perform step) :=
      Holdings.dwindles_perform ho.resources step
    refine ⟨⟨hless.closed, ho.connections, hkeeps (by rintro _ ⟨⟩)⟩, fun r => ?_⟩
    rw [elsewhere, elsewhere, Guard.total_append, Guard.total_append]
    exact Nat.add_le_add_left (hless.total_le r) _

theorem over_run (ho : s.host.Over q ceilings s.elsewhere) (steps : List (Step ν)) :
    (s.run steps).host.Over q ceilings (s.run steps).elsewhere := by
  induction steps generalizing s with
  | nil => exact ho
  | cons step steps ih => exact ih (over_perform ho step).1

/-- The system never counts more than before. -/
theorem usage_perform_le (ho : s.host.Over q ceilings s.elsewhere) (step : Step ν) (r : Resource) :
    ((s.perform step).host.resources.usage .system).get r ≤
      (s.host.resources.usage .system).get r := by
  obtain ⟨hafter, hle⟩ := over_perform ho step
  rw [hafter.get_usage, ho.get_usage]
  exact hle r

theorem stopped_run (hstopped : s.host.stopped = true) (steps : List (Step ν)) :
    (s.run steps).host.stopped = true := by
  induction steps generalizing s with
  | nil => exact hstopped
  | cons step steps ih =>
    refine ih ?_
    cases step with
    | host operation => exact Host.stopped_perform hstopped operation
    | callback | others => exact hstopped

theorem joins_run (hj : s.host.Joins (·.IsAt .stopped)) (hsome : s.host.bootstrap?.isSome = true)
    (steps : List (Step ν)) : (s.run steps).host.Joins (·.IsAt .stopped) ∧
      (s.run steps).host.bootstrap?.isSome = true := by
  induction steps generalizing s with
  | nil => exact ⟨hj, hsome⟩
  | cons step steps ih =>
    cases step with
    | host operation =>
      obtain ⟨hj', hsome'⟩ := Host.joins_perform hj hsome operation
      exact ih (s := s.perform (.host operation)) hj' hsome'
    | callback c => exact ih (s := s.perform (.callback c)) hj hsome
    | others step => exact ih (s := s.perform (.others step)) hj hsome

/-- A host that has stopped is at the end. -/
theorem over_of_stopped (hs : s.host.Sound ceilings s.elsewhere)
    (hbefore : s.host.stopped = true → ∃ q, s.host.Over q ceilings s.elsewhere)
    (steps : List (Step ν)) (hstopped : (s.run steps).host.stopped = true) :
    ∃ q, (s.run steps).host.Over q ceilings (s.run steps).elsewhere := by
  induction steps generalizing s with
  | nil => exact hbefore hstopped
  | cons step steps ih =>
    refine ih (sound_perform hs step) (fun hafter => ?_) hstopped
    cases hrunning : s.host.stopped with
    | true =>
      obtain ⟨q, ho⟩ := hbefore hrunning
      exact ⟨q, (over_perform ho step).1⟩
    | false =>
      cases step with
      | host operation =>
        obtain rfl := Host.eq_stop_of_stopped hrunning hafter
        exact ⟨_, Host.over_stop hs hrunning⟩
      | callback | others => exact Bool.noConfusion (hrunning.symm.trans hafter)

/-- A stop brings a host to the end, whether it is the first one or not. -/
theorem over_perform_stop (hs : s.host.Sound ceilings s.elsewhere)
    (hbefore : s.host.stopped = true → ∃ q, s.host.Over q ceilings s.elsewhere) :
    (s.perform (.host .stop)).host.Over (s.perform (.host .stop)).host.connections ceilings
      (s.perform (.host .stop)).elsewhere := by
  cases hrunning : s.host.stopped with
  | true =>
    obtain ⟨q, ho⟩ := hbefore hrunning
    have hsame : s.perform (.host .stop) = s :=
      congrArg (fun h => { s with host := h }) (Host.stop_of_stopped hrunning)
    rw [hsame]
    exact ⟨ho.resources, .refl ho.connections.closed, ho.keeps⟩
  | false => exact Host.over_stop hs hrunning

/-- A host that was built, goes through any steps, is told to stop, and goes through any steps
again.  From the stop on its relay has no permits, whether it was enabled before the stop or after
it, and admits no request.  Its resource manager refuses every connection and every stream, and no
step makes the system count more of any resource.  No connection is selected for closing any more,
and the queue of those that wait to be closed is never added to.  Joining the overlay that was
started before the first stop stays stopped, and another stop changes nothing. -/
theorem run_ends (localPeer : PeerId) (settings : HostSettings) (host : Host)
    (hbuild : Host.build localPeer settings = .ok host) (before after : List (Step ν)) :
    let old := (ofHost host).run before
    let ended := old.perform (.host .stop)
    let s := ended.run after
    (∀ access gate, s.host.relay = some (access, gate) → gate.permits = []) ∧
    (∀ relay, s.host.relay? = some relay → ∀ peer source now,
      (relay.admitReservation peer source now).1.isOk = false ∧
      (relay.admitCircuit peer source now).1.isOk = false) ∧
    (∀ direction usesFd,
      (s.host.resources.openConnection direction usesFd).1 = .error .closed) ∧
    (∀ peer protocol direction memory,
      (s.host.resources.reserveStream peer protocol direction memory).1 = .error .closed) ∧
    (∀ step r, ((s.perform step).host.resources.usage .system).get r ≤
      (s.host.resources.usage .system).get r) ∧
    ((∀ now, s.host.connections.manager.trim now = ([], s.host.connections.manager)) ∧
      s.host.connections.manager.pruned = ended.host.connections.manager.pruned ∧
      s.host.connections.queue.Sublist ended.host.connections.queue) ∧
    (old.host.stopped = false → ∀ joining, old.host.routing = some joining →
      ∃ joining', s.host.routing = some joining' ∧ joining'.state = .stopped) ∧
    s.perform (.host .stop) = s := by
  intro old ended s
  obtain ⟨hstart, hrunning⟩ : (ofHost host : SharedHost ν).host.Sound settings.ceilings
      (ofHost host : SharedHost ν).elsewhere ∧ host.stopped = false := Host.sound_build hbuild
  have hold : old.host.Sound settings.ceilings old.elsewhere := sound_run hstart before
  have hended := over_perform_stop hold (over_of_stopped hstart
    (fun hstopped => Bool.noConfusion (hrunning.symm.trans hstopped)) before)
  have ho : s.host.Over ended.host.connections settings.ceilings s.elsewhere :=
    over_run hended after
  have hstopped : s.host.stopped = true :=
    stopped_run (s := ended) (Host.stopped_stop old.host) after
  refine ⟨fun access gate hrelay => RelayGate.permits_eq_nil (ho.keeps.holds hrelay),
    fun relay hrelay peer source now => ⟨?_, ?_⟩, fun direction usesFd => ?_,
    fun peer protocol direction memory => ?_, usage_perform_le ho,
    ⟨ConnectionManager.trim_of_closed ho.connections.closed, ho.connections.pruned,
      ho.connections.queue⟩, fun hfirst joining hjoining => ?_, ?_⟩
  · exact Relay.admitReservation_of_admitsNothing (ho.admitsNothing hrelay) peer source now
  · exact Relay.admitCircuit_of_admitsNothing (ho.admitsNothing hrelay) peer source now
  · rw [ResourceManager.openConnection_of_closed ho.resources]
  · rw [ResourceManager.reserveStream_of_closed ho.resources]
  · have hsome : ended.host.bootstrap?.isSome = true := by
      show old.host.stop.bootstrap?.isSome = true
      rw [Host.bootstrap?_stop hfirst, Host.bootstrap?, hjoining]
      rfl
    obtain ⟨hj, hsome'⟩ := joins_run (s := ended) (Host.joins_stop hold hfirst) hsome after
    obtain ⟨b, hb⟩ := Option.isSome_iff_exists.mp hsome'
    obtain ⟨joining', hjoining', rfl⟩ := Option.map_eq_some_iff.mp hb
    exact ⟨joining', hjoining', (hj _ hb).state⟩
  · exact congrArg (fun h => { s with host := h }) (Host.stop_of_stopped hstopped)

/-- A host is stopped while a connection is charged; afterwards its relay is enabled for the first
time, is asked for a reservation, and the connection gets its peer. -/
theorem run_ends_enabled :
    let peer : PeerId := ⟨.sha256, [1]⟩
    let settings : HostSettings := ⟨[], .automatic, .ok .standard, .unlimited, .standard⟩
    let host : Host := {
      localPeer := peer
      connections := .ofMarks .standard
      resources := .ofCeilings .unlimited
      disclosure := .ofPolicy .automatic
      external := []
      routingSettings := .standard
      overlay := .ofPeer peer
      routing := none
      relay := none
      reported := none
      stopped := false }
    let before : List (Step Nat) := [.callback (.pendingInbound 7 ⟨[]⟩)]
    let after : List (Step Nat) := [
      .host (.enableRelay .standard .open), .host (.relay (.admitReservation peer ⟨[]⟩ 5)),
      .callback (.established 7 peer .inbound ⟨[]⟩)]
    let s := (((ofHost host).run before).perform (.host .stop)).run after
    Host.build peer settings = .ok host ∧ s.host.relay.isSome = true ∧
    (∀ access gate, s.host.relay = some (access, gate) → gate.permits = []) ∧
    ∀ relay, s.host.relay? = some relay → ∀ peer source now,
      (relay.admitReservation peer source now).1.isOk = false ∧
      (relay.admitCircuit peer source now).1.isOk = false := by
  intro peer settings host before after s
  obtain ⟨hpermits, hrefused, -⟩ := run_ends peer settings host rfl before after
  exact ⟨rfl, rfl, hpermits, hrefused⟩

end SharedHost

end CircuitRelay
