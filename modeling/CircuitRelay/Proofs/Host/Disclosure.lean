import CircuitRelay.Host.Event
import CircuitRelay.Proofs.Disclosure.Candidates

/-!
# What the swarm and the operator know of the disclosed addresses

The host never compares the external addresses of its swarm with what is announced, it only carries
changes over.  Both start with the same list, and events of listeners are the only ones that reach
them; whatever else happens to the host in between leaves the disclosure, the external addresses and
the report alone.

* `Event.moves`, `moves`, `run`: the moves of listeners behind the events of a run.
* `sameDisclosure_handle`, `handle_of_isListener`: events that leave the three alone, and the
  others.
* `handle_eq_moves`, `run_eq_moves`: what an event and a run do to the three.
* `introduce_eq`, `disclosure_of_build`: the start.
* `run_discloses`: candidates, announced list, changes, external addresses and report after a run.
-/

namespace CircuitRelay

open Disclosure

namespace Host

variable {h : Host}

/-- The moves of listeners that an event reports. -/
def Event.moves : Event → List Move
  | .listening a => [.add a]
  | .listeningEnded a => [.remove a]
  | .listenerClosed as => as.map .remove
  | _ => []

/-- Whether an event is about listeners. -/
def Event.isListener : Event → Bool
  | .listening _ | .listeningEnded _ | .listenerClosed _ => true
  | _ => false

/-- The host after the events of a run. -/
def run (h : Host) (events : List (Instant × Event)) : Host :=
  events.foldl (fun h e => (h.handle e.1 e.2).2) h

/-- The moves of listeners that the events of a run report. -/
def moves (events : List (Instant × Event)) : List Move := events.flatMap fun e => e.2.moves

/-! ## One event -/

/-- Nothing is disclosed otherwise than before, and nobody was told anything. -/
structure SameDisclosure (h h' : Host) : Prop where
  disclosure : h'.disclosure = h.disclosure
  external : h'.external = h.external
  reported : h'.reported = h.reported

theorem sameDisclosure_mapRelay (h : Host) (f : Relay → Relay) :
    h.SameDisclosure (h.mapRelay f) := by
  unfold mapRelay stepRelay
  split
  · exact ⟨rfl, rfl, rfl⟩
  · exact ⟨rfl, rfl, rfl⟩

theorem sameDisclosure_handle {e : Event} (h : Host) (now : Instant) (he : e.isListener = false) :
    h.SameDisclosure (h.handle now e).2 := by
  cases e with
  | listening | listeningEnded | listenerClosed => cases he
  | established | progress | other => exact ⟨rfl, rfl, rfl⟩
  | closed peer remaining =>
    show h.SameDisclosure (ite (remaining = 0) _ _ : List String × Host).2
    split
    · obtain ⟨hdisclosure, hexternal, hreported⟩ := sameDisclosure_mapRelay
        (h.mapRouting fun r => r.mapBootstrap (·.peerDisconnected peer)) (·.peerDisconnected peer)
      exact ⟨hdisclosure, hexternal, hreported⟩
    · exact ⟨rfl, rfl, rfl⟩
  | identified peer protocols addresses =>
    show h.SameDisclosure (ite (overlayProtocol ∈ protocols) _ _ : List String × Host).2
    split
    · exact ⟨rfl, rfl, rfl⟩
    · exact ⟨rfl, rfl, rfl⟩
  | relay event => exact sameDisclosure_mapRelay h (·.handle event)

/-- A move of a listener, carried over to the swarm. -/
def listen (h : Host) (move : Move) : Host :=
  { h with disclosure := (h.disclosure.step move).2 }.publish (h.disclosure.step move).1

/-- Every event of listeners makes its moves one after the other, and then a report. -/
theorem handle_of_isListener {e : Event} (h : Host) (now : Instant) (he : e.isListener = true) :
    h.handle now e = (e.moves.foldl listen h).report := by
  cases e with
  | listening a => rfl
  | listeningEnded a => rfl
  | listenerClosed as =>
    show (as.foldl removeListen h).report = ((as.map Move.remove).foldl listen h).report
    rw [List.foldl_map]
    rfl
  | established | closed | identified | relay | progress | other => cases he

theorem foldl_listen (h : Host) (moves : List Move) :
    (moves.foldl listen h).disclosure = h.disclosure.run moves ∧
      (moves.foldl listen h).external =
        (h.disclosure.changes moves).foldl Change.replay h.external := by
  induction moves generalizing h with
  | nil => exact ⟨rfl, rfl⟩
  | cons move moves ih => exact ih (h.listen move)

theorem report_snd (h : Host) :
    h.report.2 = { h with reported := some h.disclosure.announced } := by
  unfold report
  dsimp only
  split
  · rename_i hreported
    rw [← hreported]
  · rfl

/-- The operator knows the announced list. -/
def IsReported (h : Host) : Prop := h.reported = some h.disclosure.announced

theorem handle_eq_moves (h : Host) (now : Instant) (e : Event) :
    (h.handle now e).2.disclosure = h.disclosure.run e.moves ∧
      (h.handle now e).2.external =
        (h.disclosure.changes e.moves).foldl Change.replay h.external ∧
      (e.isListener = true ∨ h.IsReported → (h.handle now e).2.IsReported) := by
  cases he : e.isListener with
  | true =>
    obtain ⟨hdisclosure, hexternal⟩ := h.foldl_listen e.moves
    rw [handle_of_isListener h now he, report_snd]
    exact ⟨hdisclosure, hexternal, fun _ => rfl⟩
  | false =>
    have hsame := h.sameDisclosure_handle now he
    have hmoves : e.moves = [] := by
      cases e with
      | listening | listeningEnded | listenerClosed => cases he
      | established | closed | identified | relay | progress | other => rfl
    rw [hmoves]
    refine ⟨hsame.disclosure, hsame.external, ?_⟩
    rintro (hfalse | hreported)
    · cases hfalse
    · rw [IsReported, hsame.reported, hsame.disclosure]
      exact hreported

/-! ## Runs -/

theorem run_eq_moves (h : Host) (events : List (Instant × Event)) :
    (h.run events).disclosure = h.disclosure.run (moves events) ∧
      (h.run events).external =
        (h.disclosure.changes (moves events)).foldl Change.replay h.external ∧
      ((∃ e ∈ events, e.2.isListener = true) ∨ h.IsReported → (h.run events).IsReported) := by
  induction events generalizing h with
  | nil =>
    refine ⟨rfl, rfl, ?_⟩
    rintro (⟨e, he, -⟩ | hreported)
    · cases he
    · exact hreported
  | cons e events ih =>
    obtain ⟨hdisclosure, hexternal, hreported⟩ := h.handle_eq_moves e.1 e.2
    obtain ⟨hdisclosure', hexternal', hreported'⟩ := ih (h.handle e.1 e.2).2
    have hmoves : moves (e :: events) = e.2.moves ++ moves events := List.flatMap_cons
    rw [hdisclosure] at hdisclosure' hexternal'
    rw [hexternal] at hexternal'
    rw [hmoves, run_append, changes_append, List.foldl_append]
    refine ⟨hdisclosure', hexternal', fun h' => hreported' ?_⟩
    rcases h' with ⟨e', he', hlistener⟩ | hbefore
    · rcases List.mem_cons.mp he' with rfl | he'
      · exact .inr (hreported (.inl hlistener))
      · exact .inl ⟨e', he', hlistener⟩
    · exact .inr (hreported (.inr hbefore))

theorem introduce_eq (h : Host) :
    h.introduce.2.disclosure = h.disclosure ∧
      h.introduce.2.external = Change.replay h.external ⟨h.disclosure.announced, []⟩ ∧
      (h.disclosure.policy.isFixed = true → h.introduce.2.IsReported) := by
  unfold introduce
  dsimp only
  split
  · rw [report_snd]
    exact ⟨rfl, rfl, fun _ => rfl⟩
  · rename_i hfixed
    exact ⟨rfl, rfl, fun h' => absurd h' hfixed⟩

/-- A built host discloses nothing to its swarm before it is introduced. -/
theorem disclosure_of_build {localPeer : PeerId} {settings : HostSettings}
    (hbuild : build localPeer settings = .ok h) :
    h.disclosure = .ofPolicy settings.disclosure ∧ h.external = [] := by
  unfold build at hbuild
  split at hbuild
  · cases hbuild
  · split at hbuild
    · cases hbuild
    · cases hbuild
      exact ⟨rfl, rfl⟩

/-- A host that was built with a list of addresses to announce, is introduced, and then handles any
events.  Its candidates are the addresses added and not removed since, each of them once; an address
stands right behind those that were candidates already when it last became one.  The announced list
is the configured one without repetitions, or the public candidates when none is configured.  Every
change reported on the way is the difference of the announced lists before and after it, and a
configured list never changes.  The swarm only follows these changes, and its external addresses are
the announced ones.  The operator knows the announced list once a listener was heard of, and a
configured one from the start. -/
theorem run_discloses (localPeer : PeerId) (settings : HostSettings) (announce : List Address)
    (hsettings : settings.disclosure = .ofAddresses announce) (host : Host)
    (hbuild : build localPeer settings = .ok host) (events : List (Instant × Event)) :
    let start := Disclosure.ofPolicy (.ofAddresses announce)
    let h := host.introduce.2.run events
    let d := h.disclosure
    d = start.run (moves events) ∧
    (d.candidates.Nodup ∧ (∀ a, a ∈ d.candidates ↔ Stands (moves events) a) ∧
      ∀ before a after, moves events = before ++ .add a :: after →
        a ∉ (start.run before).candidates → .remove a ∉ after →
        ∃ later, d.candidates =
          (start.run before).candidates.filter (fun b => .remove b ∉ after) ++ a :: later) ∧
    d.announced =
      (if announce = [] then d.candidates.filter Address.isPublic else distinct announce) ∧
    (∀ before move after, moves events = before ++ move :: after →
      let old := (start.run before).announced
      let new := ((start.run before).step move).2.announced
      let change := ((start.run before).step move).1
      change.added = new.filter (· ∉ old) ∧ change.removed = old.filter (· ∉ new) ∧
        (announce ≠ [] → change = .none)) ∧
    (h.external = (start.changes (moves events)).foldl Change.replay start.announced ∧
      h.external.Nodup ∧ ∀ a, a ∈ h.external ↔ a ∈ d.announced) ∧
    (announce ≠ [] ∨ (∃ e ∈ events, e.2.isListener = true) → h.reported = some d.announced) := by
  intro start h d
  have hderived : start.IsDerived := isDerived_ofPolicy _
  have hpolicy : ∀ before, (start.run before).policy = .ofAddresses announce := fun before =>
    policy_run hderived before
  -- the host starts with the disclosure of the policy, published as a whole
  obtain ⟨hbuilt, hnothing⟩ := disclosure_of_build hbuild
  rw [hsettings] at hbuilt
  obtain ⟨hintroduced, hpublished, htold⟩ := host.introduce_eq
  rw [hbuilt] at hintroduced
  rw [hbuilt, hnothing] at hpublished
  have hinitial : Change.replay [] ⟨start.announced, []⟩ = start.announced :=
    Change.replay_nil (nodup_announced announce [])
  obtain ⟨hd, hexternal, hreported⟩ := host.introduce.2.run_eq_moves events
  replace hd : d = start.run (moves events) :=
    hd.trans (congrArg (Disclosure.run · (moves events)) hintroduced)
  rw [hintroduced, hpublished.trans hinitial] at hexternal
  have hnodup : d.candidates.Nodup := by
    have hrun := nodup_candidates_run hderived List.nodup_nil (moves events)
    rwa [← hd] at hrun
  refine ⟨hd, ⟨hnodup, fun a => ?_, fun before a after hsplit hnew hafter => ?_⟩, ?_,
    fun before move after _ => ⟨?_, ?_, fun hannounce => ?_⟩, ⟨hexternal, ?_, fun a => ?_⟩,
    fun hheard => hreported ?_⟩
  · have hmem := mem_candidates_run_iff hderived (candidates_ofPolicy _) (moves events) (a := a)
    rwa [← hd] at hmem
  · have hbehind := exists_behind hderived hnew hafter
    rwa [← hsplit, ← hd] at hbehind
  · have hlist := isDerived_run hderived (moves events)
    rw [IsDerived, hpolicy, ← hd, announced_ofAddresses announce hnodup] at hlist
    exact hlist
  · exact added_step (isDerived_run hderived before) move
  · exact removed_step (isDerived_run hderived before) move
  · refine step_of_isFixed (isDerived_run hderived before) ?_ move
    rw [hpolicy]
    exact isFixed_ofAddresses hannounce
  · rw [hexternal]
    exact nodup_foldl_replay (nodup_announced announce []) _
  · have hfollows := mem_foldl_replay_iff hderived (fun _ => Iff.rfl) (moves events) (a := a)
    rw [← hd] at hfollows
    rw [hexternal]
    exact hfollows
  · rcases hheard with hannounce | hlistener
    · refine .inr (htold ?_)
      rw [hbuilt]
      exact isFixed_ofAddresses hannounce
    · exact .inl hlistener

/-- A host without a configured list hears of a private and of a public address, and the listener
of the private one closes. -/
theorem run_discloses_public :
    let peer : PeerId := ⟨.sha256, [1]⟩
    let settings : HostSettings := ⟨[], .ofAddresses [], .ok .standard, .unlimited, .standard⟩
    let host : Host := {
      localPeer := peer
      connections := .ofMarks .standard
      resources := .ofCeilings .unlimited
      disclosure := .ofPolicy .automatic
      external := []
      routingSettings := .standard
      overlay := .ofPeer peer
      routing := none
      relay := none
      reported := none
      stopped := false }
    let inner : Address := ⟨[.ip4 (.ofOctets 10 0 0 1), .tcp 4001]⟩
    let outer : Address := ⟨[.ip4 (.ofOctets 34 120 1 1), .tcp 4001]⟩
    let events : List (Instant × Event) :=
      [(0, .listening inner), (1, .other), (2, .listening outer), (3, .listenerClosed [inner])]
    let h := host.introduce.2.run events
    settings.disclosure = .ofAddresses [] ∧ build peer settings = .ok host ∧
    (∀ a, a ∈ h.external ↔ a ∈ h.disclosure.announced) ∧
    h.reported = some h.disclosure.announced := by
  intro peer settings host inner outer events h
  obtain ⟨-, -, -, -, hexternal, hreported⟩ := run_discloses peer settings [] rfl host rfl events
  exact ⟨rfl, rfl, hexternal.2.2, hreported (.inr ⟨_, List.mem_cons_self, rfl⟩)⟩

end Host

end CircuitRelay
