import CircuitRelay.Proofs.Resource.Accounting
import CircuitRelay.Resource.Admission
import Mathlib.Data.List.Induction

/-!
# One charge for each admitted connection

The swarm may deny, repeat or skip steps of a connection: it announces an id again while its guard
is held, establishes one that it never announced, or ends one that it never began.  A ledger is
drawn up from the callbacks and their answers alone: for each id, how the connection was opened that
holds it now, and its peer.  Along a run the guards of the table are those of the ledger, id by id,
and they are all that the scopes count of connections and descriptors, as long as nobody else opens
connections in the same manager.  The others may reserve streams, drop them, collect and close.

* `Callback`, `answer`, `Answered`: what the swarm tells and what it is told.
* `Entry`, `ledger`: what a list of answered callbacks comes to.
* `open_cases`, `assign_cases`, `get?_release`: what becomes of the table.
* `records_answer`: the table follows the ledger through a callback.
* `exists_run_answer`: a callback is a short run of a holder of guards, so that it keeps the books.
* `Keeps.get_usage`: a scope counts the entries of the ledger that belong to it.
* `run_charges`: the state after any run, and what the next callback does.
-/

namespace CircuitRelay

/-! ## Streams take no connections -/

/-- A guard that `reserveStream` gives. -/
def Guard.IsStream (g : Guard) : Prop :=
  ∃ direction memory peer protocol, g = .stream ⟨.stream direction memory, peer, protocol⟩

namespace Holdings

variable {ν : Type} [DecidableEq ν] {h : Holdings ν}

/-- Whether a step opens a connection. -/
def Step.opensConnection : Step ν → Bool
  | .openConnection .. => true
  | _ => false

/-- A holder that opens no connection only has guards of streams. -/
theorem streams_perform (hs : ∀ g ∈ h.guards.values, g.IsStream) {step : Step ν}
    (hstep : step.opensConnection = false) : ∀ g ∈ (h.perform step).guards.values, g.IsStream := by
  intro g hg
  rcases mem_values_perform hg with
    hold | ⟨_, _, _, rfl, -⟩ | ⟨c, peer, hold, -⟩ | ⟨_, peer, protocol, direction, memory, -, rfl⟩
  · exact hs g hold
  · cases hstep
  · obtain ⟨_, _, _, _, hstream⟩ := hs _ hold
    cases hstream
  · exact ⟨direction, memory, peer, protocol, rfl⟩

end Holdings

namespace ConnectionAdmission

/-! ## Callbacks and their answers -/

/-- What the swarm tells about connections. -/
inductive Callback where
  | pendingInbound (id : ConnectionId) (remote : Address)
  | pendingOutbound (id : ConnectionId) (addresses : List Address)
  | established (id : ConnectionId) (peer : PeerId) (direction : Direction) (remote : Address)
  | closed (id : ConnectionId)
  | listenFailed (id : ConnectionId)
  | dialFailed (id : ConnectionId)

namespace Callback

/-- The connection that a callback is about. -/
def connection : Callback → ConnectionId
  | pendingInbound id _ | pendingOutbound id _ | established id _ _ _ => id
  | closed id | listenFailed id | dialFailed id => id

/-- Whether a callback announces a connection. -/
def isPending : Callback → Bool
  | pendingInbound .. | pendingOutbound .. => true
  | _ => false

/-- Whether a callback establishes a connection. -/
def isEstablished : Callback → Bool
  | established .. => true
  | _ => false

/-- Whether a callback reports the end of a connection. -/
def isEnd : Callback → Bool
  | closed _ | listenFailed _ | dialFailed _ => true
  | _ => false

end Callback

/-- Answers a callback. -/
def answer (a : ConnectionAdmission) : Callback → Except Refusal Unit × ConnectionAdmission
  | .pendingInbound id remote => a.pendingInbound id remote
  | .pendingOutbound id addresses => a.pendingOutbound id addresses
  | .established id peer direction remote => a.establish id peer direction remote
  | .closed id | .listenFailed id | .dialFailed id => (.ok (), a.release id)

/-- A callback, and whether it was granted. -/
structure Answered where
  callback : Callback
  granted : Bool

namespace Answered

/-- Whether the connection is charged from then on. -/
def charges (e : Answered) : Bool := e.granted && !e.callback.isEnd

/-- Whether the connection is not charged any more: it ended, or it was not let in. -/
def releases (e : Answered) : Bool :=
  e.callback.isEnd || (e.callback.isEstablished && !e.granted)

end Answered

/-! ## The ledger -/

/-- What is on record about a connection: how it was opened, and its peer. -/
structure Entry where
  direction : Direction
  usesFd : Bool
  /-- The peer, once it is known. -/
  peer : Option PeerId
  deriving DecidableEq

namespace Entry

/-- The guard that a recorded connection holds. -/
def guard (e : Entry) : ConnectionGuard := ⟨.connection e.direction e.usesFd, e.peer⟩

/-- Whether a scope counts a recorded connection. -/
def countedBy (e : Entry) : ScopeName → Bool
  | .system => true
  | .transient => e.peer = none
  | .peer p => e.peer = some p
  | .protocol _ => false

/-- A connection keeps a peer that it has. -/
def assign (e : Entry) (peer : PeerId) : Entry := { e with peer := some (e.peer.getD peer) }

end Entry

/-- What is on record about the connection of a callback afterwards. -/
def Answered.outcome (e : Answered) (old : Option Entry) : Option Entry :=
  match e.callback with
  | .pendingInbound _ remote =>
    if e.granted then some ⟨.inbound, usesFd remote, none⟩ else old
  | .pendingOutbound _ addresses =>
    if e.granted then some ⟨.outbound, dialUsesFd addresses, none⟩ else old
  | .established _ peer direction remote =>
    if e.granted then some ((old.getD ⟨direction, usesFd remote, none⟩).assign peer) else none
  | .closed _ | .listenFailed _ | .dialFailed _ => none

theorem Answered.outcome_of_releases {e : Answered} (h : e.releases = true) (old : Option Entry) :
    e.outcome old = none := by
  obtain ⟨callback, granted⟩ := e
  cases callback with
  | pendingInbound | pendingOutbound => cases h
  | established =>
    cases granted with
    | true => cases h
    | false => rfl
  | closed | listenFailed | dialFailed => rfl

/-- A denied announcement leaves the record alone. -/
theorem Answered.outcome_of_idle {e : Answered} (hcharges : e.charges = false)
    (hreleases : e.releases = false) (old : Option Entry) : e.outcome old = old := by
  obtain ⟨callback, granted⟩ := e
  cases callback with
  | pendingInbound | pendingOutbound =>
    cases granted with
    | true => cases hcharges
    | false => rfl
  | established =>
    cases granted with
    | true => cases hcharges
    | false => cases hreleases
  | closed | listenFailed | dialFailed => cases hreleases

/-- What a list of answered callbacks comes to. -/
def ledger (log : List Answered) : Table ConnectionId Entry :=
  log.foldl (fun l e => l.alter e.callback.connection e.outcome) .empty

theorem get?_ledger_snoc (log : List Answered) (e : Answered) (id : ConnectionId) :
    (ledger (log ++ [e])).get? id =
      if e.callback.connection = id then e.outcome ((ledger log).get? id)
      else (ledger log).get? id := by
  rw [ledger, List.foldl_append, List.foldl_cons, List.foldl_nil, Table.get?_alter]
  split
  · rename_i h
    rw [h]
    rfl
  · rfl

/-- Every connection that was charged has been released since. -/
def Settled (log : List Answered) : Prop :=
  ∀ before e after, log = before ++ e :: after → e.charges = true →
    ∃ e' ∈ after, e'.callback.connection = e.callback.connection ∧ e'.releases = true

/-- A connection that is on record was charged and has not been released since. -/
theorem exists_charges {log : List Answered} {id : ConnectionId}
    (h : (ledger log).get? id ≠ none) :
    ∃ before e after, log = before ++ e :: after ∧ e.callback.connection = id ∧
      e.charges = true ∧ ∀ e' ∈ after, e'.callback.connection = id → e'.releases = false := by
  induction log using List.reverseRecOn with
  | nil => exact absurd rfl h
  | append_singleton log e ih =>
    by_cases hlast : e.callback.connection = id ∧ e.charges = true
    · exact ⟨log, e, [], rfl, hlast.1, hlast.2, by simp⟩
    · have hleft : (ledger log).get? id ≠ none ∧
          (e.callback.connection = id → e.releases = false) := by
        rw [get?_ledger_snoc] at h
        split at h
        · rename_i hid
          have hcharges : e.charges = false := by simpa [hid] using hlast
          have hreleases : e.releases = false := by
            rw [← Bool.not_eq_true]
            exact fun hreleases => h (Answered.outcome_of_releases hreleases _)
          rw [Answered.outcome_of_idle hcharges hreleases] at h
          exact ⟨h, fun _ => hreleases⟩
        · rename_i hid
          exact ⟨h, fun hid' => absurd hid' hid⟩
      obtain ⟨before, e', after, rfl, hid, hcharged, hafter⟩ := ih hleft.1
      refine ⟨before, e', after ++ [e], by simp, hid, hcharged, fun e'' he'' => ?_⟩
      rcases List.mem_append.mp he'' with he'' | he''
      · exact hafter e'' he''
      · rw [List.mem_singleton.mp he'']
        exact hleft.2

theorem get?_ledger_of_settled {log : List Answered} (h : Settled log) (id : ConnectionId) :
    (ledger log).get? id = none := by
  by_contra hne
  obtain ⟨before, e, after, hlog, hid, hcharges, hafter⟩ := exists_charges hne
  obtain ⟨e', he', hsame, hreleases⟩ := h before e after hlog hcharges
  rw [hafter e' he' (hsame.trans hid)] at hreleases
  cases hreleases

/-! ## What becomes of the table -/

variable {a : ConnectionAdmission} {id : ConnectionId}

theorem get?_release (a : ConnectionAdmission) (id id' : ConnectionId) :
    (a.release id).guards.get? id' = if id = id' then none else a.guards.get? id' := by
  have hguards : (a.release id).guards = a.guards.erase id := by
    unfold release
    split
    · rename_i hid
      exact (Table.erase_eq_self hid).symm
    · rfl
  rw [hguards, Table.get?_erase]

/-- A new connection gets the id, or nothing changes but the count of refusals. -/
theorem open_cases (a : ConnectionAdmission) (id : ConnectionId) (direction : Direction)
    (usesFd : Bool) :
    (∃ m, a.open id direction usesFd =
      (.ok (), ⟨m, a.guards.insert id (Entry.guard ⟨direction, usesFd, none⟩)⟩)) ∨
    (∃ e m, a.open id direction usesFd = (.error e, ⟨m, a.guards⟩) ∧ a.manager.SameUsage m) := by
  unfold «open»
  rcases a.manager.openConnection_cases direction usesFd with
    ⟨-, heq⟩ | ⟨-, r, -, heq⟩ | ⟨-, -, m, heq, -⟩ | ⟨-, -, m, k, r, heq, hrefused⟩
  · rw [heq]
    exact .inr ⟨_, _, rfl, .refl _⟩
  · rw [heq]
    exact .inr ⟨_, _, rfl, ResourceManager.sameUsage_recordRefusal _ _ _⟩
  · rw [heq]
    cases a.guards.get? id with
    | none => exact .inl ⟨_, rfl⟩
    | some old => exact .inl ⟨_, rfl⟩
  · rw [heq]
    exact .inr ⟨_, _, rfl, hrefused.same⟩

/-- A connection keeps a peer that it has and gets one otherwise, or it loses its guard. -/
theorem assign_cases {e : Entry} (hid : a.guards.get? id = some e.guard) (peer : PeerId) :
    (∃ m, a.assign id peer = (.ok (), ⟨m, a.guards.insert id (e.assign peer).guard⟩)) ∨
    (∃ refusal m, a.assign id peer = (.error refusal, ⟨m, a.guards.erase id⟩)) := by
  unfold assign
  rw [hid]
  rcases a.manager.assignPeer_cases e.guard peer with
    ⟨hpeer, heq⟩ | ⟨hpeer, m, heq, -⟩ | ⟨-, m, r, heq, -⟩
  · obtain ⟨p, hp⟩ := Option.ne_none_iff_exists'.mp hpeer
    have hsame : e.assign peer = e := by
      obtain ⟨direction, usesFd, given⟩ := e
      cases hp
      rfl
    refine .inl ⟨a.manager, ?_⟩
    simp only [heq, hsame]
  · have hassign : (e.assign peer).guard = { e.guard with peer := some peer } := by
      obtain ⟨direction, usesFd, given⟩ := e
      cases hpeer
      rfl
    refine .inl ⟨m, ?_⟩
    simp only [heq, hassign]
  · refine .inr ⟨.exceeded .peer r, m.releaseConnection e.guard, ?_⟩
    simp only [heq, release, hid]

theorem get?_assign {e : Entry} (hid : a.guards.get? id = some e.guard) (peer : PeerId)
    (id' : ConnectionId) :
    (a.assign id peer).2.guards.get? id' =
      if id = id' then
        (if (a.assign id peer).1.isOk then some (e.assign peer) else none).map Entry.guard
      else a.guards.get? id' := by
  rcases assign_cases hid peer with ⟨m, heq⟩ | ⟨refusal, m, heq⟩
  · rw [heq, Table.get?_insert]
    rfl
  · rw [heq, Table.get?_erase]
    rfl

/-- The guards of the table are those of a ledger. -/
def Records (a : ConnectionAdmission) (l : Table ConnectionId Entry) : Prop :=
  ∀ id, a.guards.get? id = (l.get? id).map Entry.guard

variable {l : Table ConnectionId Entry}

theorem get?_open (h : a.Records l) (id : ConnectionId) (direction : Direction) (usesFd : Bool)
    (id' : ConnectionId) :
    (a.open id direction usesFd).2.guards.get? id' =
      if id = id' then
        (if (a.open id direction usesFd).1.isOk then some ⟨direction, usesFd, none⟩
        else l.get? id').map Entry.guard
      else a.guards.get? id' := by
  rcases a.open_cases id direction usesFd with ⟨m, heq⟩ | ⟨refusal, m, heq, -⟩
  · rw [heq, Table.get?_insert]
    rfl
  · rw [heq]
    show a.guards.get? id' = if id = id' then (l.get? id').map Entry.guard else _
    rw [h id', ite_self]

theorem get?_establish (h : a.Records l) (id : ConnectionId) (peer : PeerId)
    (direction : Direction) (remote : Address) (id' : ConnectionId) :
    (a.establish id peer direction remote).2.guards.get? id' =
      if id = id' then
        (if (a.establish id peer direction remote).1.isOk then
          some (((l.get? id).getD ⟨direction, usesFd remote, none⟩).assign peer)
        else none).map Entry.guard
      else a.guards.get? id' := by
  have hid := h id
  cases hl : l.get? id with
  | some e =>
    rw [hl] at hid
    have hcontains : a.guards.contains id = true := Table.contains_iff.mpr (by rw [hid]; rfl)
    rw [establish, if_pos hcontains]
    exact get?_assign hid peer id'
  | none =>
    rw [hl] at hid
    have hcontains : ¬a.guards.contains id = true := by
      rw [Table.contains_iff, hid]
      exact Bool.false_ne_true
    rcases a.open_cases id direction (usesFd remote) with ⟨m, heq⟩ | ⟨refusal, m, heq, -⟩
    · have hestablish : a.establish id peer direction remote =
          assign ⟨m, a.guards.insert id (Entry.guard ⟨direction, usesFd remote, none⟩)⟩ id
            peer := by
        rw [establish, if_neg hcontains, heq]
      rw [hestablish, get?_assign (by rw [Table.get?_insert, if_pos rfl])]
      split
      · rfl
      · rename_i hne
        rw [Table.get?_insert, if_neg hne]
    · have hestablish : a.establish id peer direction remote =
          (.error refusal, ⟨m, a.guards⟩) := by
        rw [establish, if_neg hcontains, heq]
      rw [hestablish]
      split
      · rename_i hsame
        rw [← hsame]
        exact hid
      · rfl

/-- A callback does to the table what it does to the ledger. -/
theorem get?_answer (h : a.Records l) (c : Callback) (id : ConnectionId) :
    (a.answer c).2.guards.get? id =
      if c.connection = id then
        (Answered.outcome ⟨c, (a.answer c).1.isOk⟩ (l.get? id)).map Entry.guard
      else a.guards.get? id := by
  cases c with
  | pendingInbound id' remote => exact get?_open h id' .inbound (usesFd remote) id
  | pendingOutbound id' addresses => exact get?_open h id' .outbound (dialUsesFd addresses) id
  | established id' peer direction remote =>
    have hestablish := get?_establish h id' peer direction remote id
    by_cases hsame : id' = id
    · subst hsame
      exact hestablish
    · exact hestablish.trans ((if_neg hsame).trans (if_neg hsame).symm)
  | closed id' | listenFailed id' | dialFailed id' => exact a.get?_release id' id

/-- A denied announcement leaves the table and all usage alone. -/
theorem answer_of_denied {c : Callback} (a : ConnectionAdmission) (hc : c.isPending = true)
    (hdenied : (a.answer c).1.isOk = false) :
    (a.answer c).2.guards = a.guards ∧
      ∀ scope, (a.answer c).2.manager.usage scope = a.manager.usage scope := by
  have hopen : ∀ id direction usesFd, (a.open id direction usesFd).1.isOk = false →
      (a.open id direction usesFd).2.guards = a.guards ∧
        ∀ scope, (a.open id direction usesFd).2.manager.usage scope = a.manager.usage scope := by
    intro id direction usesFd hnot
    rcases a.open_cases id direction usesFd with ⟨m, heq⟩ | ⟨refusal, m, heq, hsame⟩
    · rw [heq] at hnot
      cases hnot
    · rw [heq]
      exact ⟨rfl, hsame.usage⟩
  cases c with
  | pendingInbound id remote => exact hopen id .inbound (usesFd remote) hdenied
  | pendingOutbound id addresses => exact hopen id .outbound (dialUsesFd addresses) hdenied
  | established | closed | listenFailed | dialFailed => cases hc

theorem records_answer {log : List Answered} (h : a.Records (ledger log)) (c : Callback) :
    (a.answer c).2.Records (ledger (log ++ [⟨c, (a.answer c).1.isOk⟩])) := by
  intro id
  rw [get?_answer h, get?_ledger_snoc]
  split
  · rfl
  · exact h id

/-! ## The books -/

/-- The guards of connections as those of a holder. -/
def toHoldings (a : ConnectionAdmission) : Holdings ConnectionId :=
  ⟨a.manager, a.guards.mapValues fun _ => .connection⟩

theorem get?_toHoldings (a : ConnectionAdmission) (id : ConnectionId) :
    a.toHoldings.guards.get? id = (a.guards.get? id).map .connection :=
  Table.get?_mapValues a.guards _ id

theorem toHoldings_open (a : ConnectionAdmission) (id : ConnectionId) (direction : Direction)
    (usesFd : Bool) :
    (a.open id direction usesFd).2.toHoldings =
      a.toHoldings.perform (.openConnection id direction usesFd) := by
  show _ = (a.toHoldings.openConnection id direction usesFd).2
  have hmanager : a.toHoldings.manager = a.manager := rfl
  unfold «open» Holdings.openConnection
  rw [hmanager]
  rcases a.manager.openConnection direction usesFd with ⟨_ | g, m⟩
  · rfl
  · have hinsert := Table.mapValues_insert a.guards (fun _ => Guard.connection) id g
    have hget := a.get?_toHoldings id
    dsimp only
    unfold Holdings.keep
    dsimp only
    rw [hget]
    cases a.guards.get? id with
    | none => exact congrArg (Holdings.mk _) hinsert
    | some old => exact congrArg (Holdings.mk _) hinsert

theorem toHoldings_release (a : ConnectionAdmission) (id : ConnectionId) :
    (a.release id).toHoldings = a.toHoldings.perform (.drop id) := by
  show _ = (a.toHoldings.drop id).2
  unfold release Holdings.drop
  rw [a.get?_toHoldings id]
  cases a.guards.get? id with
  | none => rfl
  | some g =>
    exact congrArg (Holdings.mk _) (Table.mapValues_erase a.guards (fun _ => Guard.connection) id)

theorem exists_run_assign (a : ConnectionAdmission) (id : ConnectionId) (peer : PeerId) :
    ∃ steps, (a.assign id peer).2.toHoldings = a.toHoldings.run steps := by
  have hperform : a.toHoldings.perform (.assignPeer id peer) =
      (a.toHoldings.assignPeer id peer).2 := rfl
  have hmanager : a.toHoldings.manager = a.manager := rfl
  have hconnection : a.toHoldings.connection? id = a.guards.get? id := by
    rw [Holdings.connection?, a.get?_toHoldings id]
    cases a.guards.get? id with
    | none => rfl
    | some g => rfl
  rw [Holdings.assignPeer, hconnection, hmanager] at hperform
  unfold assign
  cases hid : a.guards.get? id with
  | none => exact ⟨[], rfl⟩
  | some g =>
    rw [hid] at hperform
    dsimp only at hperform ⊢
    rcases hassign : a.manager.assignPeer g peer with ⟨refusal | g', m⟩
    · rw [hassign] at hperform
      refine ⟨[.assignPeer id peer, .drop id], ?_⟩
      show _ = (a.toHoldings.perform (.assignPeer id peer)).perform (.drop id)
      rw [hperform]
      exact toHoldings_release _ id
    · rw [hassign] at hperform
      refine ⟨[.assignPeer id peer], ?_⟩
      show _ = a.toHoldings.perform (.assignPeer id peer)
      rw [hperform]
      exact congrArg (Holdings.mk _)
        (Table.mapValues_insert a.guards (fun _ => Guard.connection) id g')

/-- A callback is a short run of the holder of the guards. -/
theorem exists_run_answer (a : ConnectionAdmission) (c : Callback) :
    ∃ steps, (a.answer c).2.toHoldings = a.toHoldings.run steps := by
  cases c with
  | pendingInbound id remote =>
    exact ⟨[.openConnection id .inbound (usesFd remote)], a.toHoldings_open ..⟩
  | pendingOutbound id addresses =>
    exact ⟨[.openConnection id .outbound (dialUsesFd addresses)], a.toHoldings_open ..⟩
  | established id peer direction remote =>
    show ∃ steps, (a.establish id peer direction remote).2.toHoldings = _
    have hopen := a.toHoldings_open id direction (usesFd remote)
    unfold establish
    split
    · exact a.exists_run_assign id peer
    · rcases heq : a.open id direction (usesFd remote) with ⟨refusal | _, a'⟩
      · rw [heq] at hopen
        exact ⟨[.openConnection id direction (usesFd remote)], hopen⟩
      · rw [heq] at hopen
        obtain ⟨steps, hsteps⟩ := a'.exists_run_assign id peer
        refine ⟨.openConnection id direction (usesFd remote) :: steps, hsteps.trans ?_⟩
        exact congrArg (Holdings.run · steps) hopen
  | closed id | listenFailed id | dialFailed id => exact ⟨[.drop id], a.toHoldings_release id⟩

theorem Records.values_perm (h : a.Records l) :
    a.guards.values.Perm (l.values.map Entry.guard) := by
  rw [← Table.values_mapValues]
  refine Table.values_perm_of_get?_eq fun id => ?_
  rw [h id, Table.get?_mapValues]

theorem Records.size_eq (h : a.Records l) : l.values.length = a.guards.size := by
  have hlength := h.values_perm.length_eq
  rw [List.length_map, Table.values, List.length_map] at hlength
  exact hlength.symm

/-- What the recorded connections take together: as many of them as a scope counts and as take of
the resource at all. -/
theorem total_entries {r : Resource} {p : Entry → Bool}
    (hp : ∀ e : Entry, e.guard.amount.get r = if p e then 1 else 0) (entries : List Entry)
    (s : ScopeName) :
    Guard.total (entries.map fun e => .connection e.guard) s r =
      (entries.filter (·.countedBy s)).countP p := by
  induction entries with
  | nil => rfl
  | cons e entries ih =>
    have hbelongs : (Guard.connection e.guard).belongsTo s = e.countedBy s := by
      cases s with
      | system | transient | peer | protocol => rfl
    rw [List.map_cons, Guard.total_cons, ih]
    by_cases hs : e.countedBy s = true
    · have hfilter : (e :: entries).filter (·.countedBy s) = e :: entries.filter (·.countedBy s) :=
        List.filter_cons_of_pos hs
      rw [hfilter, Guard.takes_of_mem (Guard.belongsTo_iff.mp (hbelongs.trans hs)),
        List.countP_cons, Nat.add_comm]
      exact congrArg (_ + ·) (hp e)
    · have hfilter : (e :: entries).filter (·.countedBy s) = entries.filter (·.countedBy s) :=
        List.filter_cons_of_neg hs
      rw [hfilter, Guard.takes_of_not_mem fun hmem => hs (hbelongs ▸ Guard.belongsTo_iff.mpr hmem),
        Amounts.get_zero, Nat.zero_add]

end ConnectionAdmission

/-! ## Runs -/

/-- Connections admitted in a manager that others use too, with the answers so far. -/
structure SharedAdmission (ν : Type) where
  admission : ConnectionAdmission
  log : List ConnectionAdmission.Answered
  /-- The guards of the others. -/
  guards : Table ν Guard

namespace SharedAdmission

open ConnectionAdmission

variable {ν : Type} [DecidableEq ν] {s : SharedAdmission ν} {ceilings : Ceilings}

/-- The start without connections, in a manager without guards. -/
def start (ceilings : Ceilings) : SharedAdmission ν := ⟨.ofCeilings ceilings, [], .empty⟩

/-- A callback, something done to the manager, or whatever the others do. -/
inductive Step (ν : Type) where
  | callback (c : Callback)
  | collect
  | close
  | others (step : Holdings.Step ν)

/-- Whether a step of the others opens a connection. -/
def Step.opensConnection : Step ν → Bool
  | .others step => step.opensConnection
  | _ => false

/-- The others as holders of guards of the same manager. -/
def others (s : SharedAdmission ν) : Holdings ν := ⟨s.admission.manager, s.guards⟩

/-- The state after a step. -/
def perform (s : SharedAdmission ν) : Step ν → SharedAdmission ν
  | .callback c =>
    let (answer, a) := s.admission.answer c
    { s with admission := a, log := s.log ++ [⟨c, answer.isOk⟩] }
  | .collect => { s with admission := s.admission.collect.2 }
  | .close => { s with admission := s.admission.close }
  | .others step =>
    let h := s.others.perform step
    { s with admission := { s.admission with manager := h.manager }, guards := h.guards }

/-- The state after a run. -/
def run (s : SharedAdmission ν) (steps : List (Step ν)) : SharedAdmission ν := steps.foldl perform s

/-- The table follows the ledger, the books balance, and the others only hold streams. -/
structure Keeps (ceilings : Ceilings) (s : SharedAdmission ν) : Prop where
  records : s.admission.Records (ledger s.log)
  balanced : s.admission.toHoldings.Balanced ceilings s.guards.values
  streams : ∀ g ∈ s.guards.values, g.IsStream

omit [DecidableEq ν] in
theorem keeps_start (ceilings : Ceilings) :
    (start ceilings : SharedAdmission ν).Keeps ceilings where
  records _ := rfl
  balanced := ResourceManager.balanced_ofCeilings ceilings
  streams _ hg := absurd hg List.not_mem_nil

theorem Keeps.perform (h : s.Keeps ceilings) {step : Step ν}
    (hstep : step.opensConnection = false) : (s.perform step).Keeps ceilings := by
  cases step with
  | callback c =>
    obtain ⟨steps, hsteps⟩ := s.admission.exists_run_answer c
    refine ⟨records_answer h.records c, ?_, h.streams⟩
    show Holdings.Balanced ceilings _ (s.admission.answer c).2.toHoldings
    rw [hsteps]
    exact Holdings.balanced_run h.balanced steps
  | collect => exact ⟨h.records, Holdings.balanced_perform h.balanced .collect, h.streams⟩
  | close => exact ⟨h.records, Holdings.balanced_perform h.balanced .close, h.streams⟩
  | others step =>
    have hbefore : s.others.Balanced ceilings s.admission.toHoldings.guards.values :=
      ResourceManager.Balanced.perm h.balanced List.perm_append_comm
    have hafter := Holdings.balanced_perform hbefore step
    exact ⟨h.records, ResourceManager.Balanced.perm hafter List.perm_append_comm,
      Holdings.streams_perform h.streams hstep⟩

theorem keeps_run (h : s.Keeps ceilings) {steps : List (Step ν)}
    (hsteps : ∀ step ∈ steps, step.opensConnection = false) : (s.run steps).Keeps ceilings := by
  induction steps generalizing s with
  | nil => exact h
  | cons step steps ih =>
    refine ih (h.perform (hsteps step List.mem_cons_self)) fun step' hstep' => ?_
    exact hsteps step' (List.mem_cons_of_mem step hstep')

omit [DecidableEq ν] in
/-- A scope counts the recorded connections that belong to it, and nothing of the others. -/
theorem Keeps.get_usage (h : s.Keeps ceilings) (scope : ScopeName) {r : Resource}
    {p : Entry → Bool} (hp : ∀ e : Entry, e.guard.amount.get r = if p e then 1 else 0)
    (hr : ∀ direction memory, (Amounts.stream direction memory).get r = 0) :
    (s.admission.manager.usage scope).get r =
      ((ledger s.log).values.filter (·.countedBy scope)).countP p := by
  have hothers : Guard.total s.guards.values scope r = 0 := by
    refine Guard.total_eq_zero (fun g hg => ?_) scope
    obtain ⟨direction, memory, peer, protocol, rfl⟩ := h.streams g hg
    exact hr direction memory
  have hguards : s.admission.toHoldings.guards.values.Perm
      ((ledger s.log).values.map fun e => .connection e.guard) := by
    have hperm := h.records.values_perm.map Guard.connection
    rw [← Table.values_mapValues, List.map_map] at hperm
    exact hperm
  have husage : (s.admission.manager.usage scope).get r =
      Guard.total (s.admission.toHoldings.guards.values ++ s.guards.values) scope r :=
    h.balanced.usage_eq scope r
  rw [husage, Guard.total_append, hothers, Nat.add_zero, Guard.total_perm hguards,
    total_entries hp]

/-- The table holds exactly the guards of the connections on record, and of connections and
descriptors every scope counts those of the recorded connections that belong to it: the system all,
as many as the table has ids, the transient scope the ones without a peer, a peer its own.  A
denied announcement leaves the table and all usage alone; after a denied establishment and after
the end of a connection its id has no guard; no callback touches another id.  When every connection
that was charged has been released, the table is empty and nothing of the kind is counted. -/
theorem run_charges (ceilings : Ceilings) (steps : List (Step ν))
    (hsteps : ∀ step ∈ steps, step.opensConnection = false) :
    let s := (start ceilings).run steps
    let a := s.admission
    let usage := a.manager.usage
    (∀ id, a.guards.get? id = ((ledger s.log).get? id).map Entry.guard) ∧
    (∀ scope,
      let counted := (ledger s.log).values.filter (·.countedBy scope)
      (usage scope).get .conns = counted.length ∧
      (usage scope).get .connsInbound = counted.countP (·.direction = .inbound) ∧
      (usage scope).get .connsOutbound = counted.countP (·.direction = .outbound) ∧
      (usage scope).get .fds = counted.countP (·.usesFd)) ∧
    (usage .system).get .conns = a.guards.size ∧
    (∀ c,
      let granted := (a.answer c).1.isOk
      let next := (a.answer c).2
      (c.isPending = true → granted = false →
        next.guards = a.guards ∧ ∀ scope, next.manager.usage scope = usage scope) ∧
      (c.isEnd = true ∨ c.isEstablished = true ∧ granted = false →
        next.guards.get? c.connection = none) ∧
      ∀ id, id ≠ c.connection → next.guards.get? id = a.guards.get? id) ∧
    (Settled s.log → a.guards = .empty ∧ ∀ scope,
      ∀ r ∈ [Resource.conns, .connsInbound, .connsOutbound, .fds], (usage scope).get r = 0) := by
  intro s a usage
  have h : s.Keeps ceilings := keeps_run (keeps_start ceilings) hsteps
  have hcounts : ∀ scope,
      let counted := (ledger s.log).values.filter (·.countedBy scope)
      (usage scope).get .conns = counted.length ∧
      (usage scope).get .connsInbound = counted.countP (·.direction = .inbound) ∧
      (usage scope).get .connsOutbound = counted.countP (·.direction = .outbound) ∧
      (usage scope).get .fds = counted.countP (·.usesFd) := by
    intro scope counted
    have hdirection : ∀ d d' : Direction, (if d = d' then 1 else 0) =
        if decide (d = d') = true then 1 else 0 := fun d d' =>
      (if_congr decide_eq_true_iff rfl rfl).symm
    refine ⟨?_, ?_, ?_, h.get_usage scope (fun e => rfl) fun _ _ => rfl⟩
    · rw [← List.countP_true]
      exact h.get_usage scope (fun e => rfl) fun _ _ => rfl
    · exact h.get_usage scope (fun e => hdirection e.direction .inbound) fun _ _ => rfl
    · exact h.get_usage scope (fun e => hdirection e.direction .outbound) fun _ _ => rfl
  have hsystem : (usage .system).get .conns = a.guards.size := by
    have hall : (ledger s.log).values.filter (·.countedBy .system) = (ledger s.log).values :=
      List.filter_eq_self.mpr fun _ _ => rfl
    rw [(hcounts .system).1, hall, h.records.size_eq]
  refine ⟨h.records, hcounts, hsystem,
    fun c => ⟨a.answer_of_denied, fun hreleased => ?_, fun id hid => ?_⟩, fun hsettled => ?_⟩
  · have hreleases : Answered.releases ⟨c, (a.answer c).1.isOk⟩ = true := by
      rcases hreleased with hend | ⟨hestablished, hdenied⟩
      · simp [Answered.releases, hend]
      · simp [Answered.releases, hestablished, hdenied]
    rw [get?_answer h.records c, if_pos rfl, Answered.outcome_of_releases hreleases]
    rfl
  · rw [get?_answer h.records c, if_neg (Ne.symm hid)]
  · have hledger : ledger s.log = .empty := Table.eq_empty_of_get? (get?_ledger_of_settled hsettled)
    refine ⟨Table.eq_empty_of_get? fun id => ?_, fun scope r hr => ?_⟩
    · rw [h.records id, hledger]
      rfl
    · obtain ⟨hconns, hinbound, houtbound, hfds⟩ := hcounts scope
      rw [hledger] at hconns hinbound houtbound hfds
      simp only [List.mem_cons, List.not_mem_nil, or_false] at hr
      rcases hr with rfl | rfl | rfl | rfl
      · exact hconns
      · exact hinbound
      · exact houtbound
      · exact hfds

/-- A connection is announced, announced again and established beside a stream of its peer, and a
second one is established without an announcement. -/
theorem run_charges_two :
    let a : PeerId := ⟨.sha256, [1]⟩
    let b : PeerId := ⟨.sha256, [2]⟩
    let steps : List (Step Nat) := [
      .callback (.pendingInbound 1 ⟨[]⟩), .callback (.pendingOutbound 1 [⟨[.p2pCircuit]⟩]),
      .callback (.established 1 a .outbound ⟨[.p2pCircuit]⟩),
      .others (.reserveStream 0 a "/chat" .inbound 10),
      .callback (.established 2 b .inbound ⟨[]⟩), .collect, .callback (.closed 1)]
    let s := (start .unlimited).run steps
    (∀ step ∈ steps, step.opensConnection = false) ∧
    ∀ scope, (s.admission.manager.usage scope).get .conns =
      ((ledger s.log).values.filter (·.countedBy scope)).length :=
  ⟨by decide, fun scope => ((run_charges _ _ (by decide)).2.1 scope).1⟩

end SharedAdmission

end CircuitRelay
