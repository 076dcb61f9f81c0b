import CircuitRelay.Proofs.Connection.Protection
import CircuitRelay.Proofs.Connection.Selection
import Mathlib.Data.Finset.Erase
import Mathlib.Data.Finset.Insert
import Mathlib.Logic.Function.Basic

/-!
# Dropping idle standings cannot be seen

What is known about a peer stands in one entry, and the entry goes when its last part goes.  An
`Archive` is a manager without entries: it keeps a number of connections for every peer there is,
the set of all protections and the table of all tag values, apart from each other, and drops
nothing.  A manager and an archive that go through the same steps answer alike.

* `Memory`: what an archive keeps about peers, and `Memory.Knows`: a standing says the same.
* `Archive`: the steps of a manager, on records and a memory.
* `Recalls`: a manager and an archive agree; every step keeps it, by `Recalls.perform`.
* `run_drops_nothing`: all answers after any run, and which peers have an entry.

The values of a peer are added up with a sum that stops at the ends of the 64-bit range, so their
order matters.  `Table.restrict` takes it from the table of all values.
-/

namespace CircuitRelay

open Connection

/-! ## Tables of pairs -/

namespace Table

universe u v w

variable {κ : Type u} {ι : Type w} {α : Type v} [DecidableEq κ] [DecidableEq ι]

/-- What a table of pairs of keys holds for one first key, in the order of the table. -/
def restrict (t : Table (κ × ι) α) (k : κ) : Table ι α :=
  ⟨(t.entries.filter fun e => decide (e.1.1 = k)).map fun e => (e.1.2, e.2), by
    have hpairs : ((t.entries.filter fun e => decide (e.1.1 = k)).map Prod.fst).Nodup :=
      t.nodup.sublist (List.filter_sublist.map _)
    rw [List.map_map]
    refine List.pairwise_map.mpr ((List.pairwise_map.mp hpairs).imp_of_mem ?_)
    intro a b ha hb hne heq
    rw [List.mem_filter, decide_eq_true_eq] at ha hb
    exact hne (Prod.ext (ha.2.trans hb.2.symm) heq)⟩

omit [DecidableEq ι] in
theorem mem_entries_restrict {t : Table (κ × ι) α} {k : κ} {i : ι} {v : α} :
    (i, v) ∈ (t.restrict k).entries ↔ ((k, i), v) ∈ t.entries := by
  constructor
  · intro h
    obtain ⟨⟨⟨k', i'⟩, v'⟩, he, heq⟩ := List.mem_map.mp h
    rw [List.mem_filter, decide_eq_true_eq] at he
    obtain ⟨he, rfl⟩ := he
    cases heq
    exact he
  · intro h
    exact List.mem_map.mpr ⟨((k, i), v), List.mem_filter.mpr ⟨h, decide_eq_true rfl⟩, rfl⟩

theorem get?_restrict (t : Table (κ × ι) α) (k : κ) (i : ι) :
    (t.restrict k).get? i = t.get? (k, i) := by
  rw [Option.ext_iff]
  intro v
  rw [get?_eq_some_iff, get?_eq_some_iff, mem_entries_restrict]

theorem mem_keys_restrict {t : Table (κ × ι) α} {k : κ} {i : ι} :
    i ∈ (t.restrict k).keys ↔ (k, i) ∈ t.keys := by
  rw [← not_iff_not, ← get?_eq_none_iff, ← get?_eq_none_iff, get?_restrict]

/-- An update in place of a table of pairs, as its restriction sees it. -/
theorem restrict_map_update (k : κ) (i : ι) (v : α) (k' : κ) (l : List ((κ × ι) × α)) :
    ((l.map fun e => if e.1 = (k, i) then (e.1, v) else e).filter
        fun e => decide (e.1.1 = k')).map (fun e => (e.1.2, e.2)) =
      ((l.filter fun e => decide (e.1.1 = k')).map fun e => (e.1.2, e.2)).map
        fun e => if k = k' ∧ e.1 = i then (e.1, v) else e := by
  induction l with
  | nil => rfl
  | cons e l ih =>
    obtain ⟨⟨k₁, i₁⟩, v₁⟩ := e
    by_cases hk : k₁ = k' <;> by_cases hpair : k₁ = k ∧ i₁ = i <;> grind

theorem restrict_insert (t : Table (κ × ι) α) (k : κ) (i : ι) (v : α) (k' : κ) :
    (t.insert (k, i) v).restrict k' =
      if k = k' then (t.restrict k').insert i v else t.restrict k' := by
  apply ext_entries
  by_cases hmem : (k, i) ∈ t.keys
  · -- the pair has its place, and keeps it
    have hentries : ((t.insert (k, i) v).restrict k').entries =
        (t.restrict k').entries.map fun e => if k = k' ∧ e.1 = i then (e.1, v) else e := by
      rw [insert, dif_pos hmem]
      exact restrict_map_update k i v k' t.entries
    rw [hentries]
    split
    · rename_i hk
      rw [insert, dif_pos (mem_keys_restrict.mpr (hk ▸ hmem))]
      simp only [hk, true_and]
    · rename_i hk
      simp only [hk, false_and, if_false, List.map_id']
  · -- the pair goes to the end
    have hentries : ((t.insert (k, i) v).restrict k').entries = (t.restrict k').entries ++
        ([((k, i), v)].filter fun e => decide (e.1.1 = k')).map fun e => (e.1.2, e.2) := by
      rw [insert, dif_neg hmem]
      show ((t.entries ++ [((k, i), v)]).filter _).map _ = _
      rw [List.filter_append, List.map_append]
      rfl
    rw [hentries]
    split
    · rename_i hk
      subst hk
      rw [insert, dif_neg (fun h => hmem (mem_keys_restrict.mp h)),
        List.filter_cons_of_pos (by simp)]
      rfl
    · rename_i hk
      rw [List.filter_cons_of_neg (by simpa using hk), List.filter_nil, List.map_nil,
        List.append_nil]

theorem restrict_erase (t : Table (κ × ι) α) (k : κ) (i : ι) (k' : κ) :
    (t.erase (k, i)).restrict k' =
      if k = k' then (t.restrict k').erase i else t.restrict k' := by
  apply ext_entries
  show ((t.entries.filter fun e => decide (e.1 ≠ (k, i))).filter fun e => decide (e.1.1 = k')).map
    (fun e => (e.1.2, e.2)) = _
  by_cases hk : k = k'
  · subst hk
    rw [if_pos rfl]
    show _ = ((t.entries.filter fun e => decide (e.1.1 = k)).map fun e => (e.1.2, e.2)).filter _
    rw [List.filter_map, List.filter_filter, List.filter_filter]
    congr 1
    apply List.filter_congr
    rintro ⟨⟨k₁, i₁⟩, v₁⟩ -
    by_cases hk : k₁ = k
    · simp [hk]
    · simp [hk]
  · rw [if_neg hk, List.filter_filter]
    show _ = (t.entries.filter fun e => decide (e.1.1 = k')).map _
    congr 1
    apply List.filter_congr
    rintro ⟨⟨k₁, i₁⟩, v₁⟩ -
    by_cases hk₁ : k₁ = k'
    · simp [hk₁, Ne.symm hk]
    · simp [hk₁]

end Table

namespace Connection

/-! ## What is remembered about peers -/

/-- Three things about peers, each kept apart from the others and for ever. -/
structure Memory where
  /-- How many connections are counted for each peer. -/
  counts : PeerId → Nat
  /-- The protections that were set and not removed since. -/
  protections : Finset (PeerId × String)
  /-- The last value of each peer and tag that was not removed since, in the order in which the
  pairs came in. -/
  values : Table (PeerId × String) Int64

namespace Memory

variable {k : Memory} {p : PeerId} {s : Standing}

/-- Nothing is remembered. -/
def empty : Memory := ⟨fun _ => 0, ∅, .empty⟩

/-- One more connection of a peer. -/
def connect (k : Memory) (peer : PeerId) : Memory :=
  { k with counts := Function.update k.counts peer (k.counts peer + 1) }

/-- One connection of a peer less, but never fewer than none. -/
def disconnect (k : Memory) (peer : PeerId) : Memory :=
  { k with counts := Function.update k.counts peer (k.counts peer - 1) }

/-- A peer is protected under a tag. -/
def protect (k : Memory) (peer : PeerId) (tag : String) : Memory :=
  { k with protections := insert (peer, tag) k.protections }

/-- A peer is no longer protected under a tag. -/
def unprotect (k : Memory) (peer : PeerId) (tag : String) : Memory :=
  { k with protections := k.protections.erase (peer, tag) }

/-- A value tag of a peer is set. -/
def tag (k : Memory) (peer : PeerId) (name : String) (value : Int64) : Memory :=
  { k with values := k.values.insert (peer, name) value }

/-- A value tag of a peer is removed. -/
def untag (k : Memory) (peer : PeerId) (name : String) : Memory :=
  { k with values := k.values.erase (peer, name) }

/-- Whether any protection is one of a peer. -/
def isProtected (k : Memory) (peer : PeerId) : Bool := decide (∃ e ∈ k.protections, e.1 = peer)

/-- The values of a peer, added up in the order in which its tags were set. -/
def worth (k : Memory) (peer : PeerId) : Int :=
  Standing.sumClamped (k.values.restrict peer).values

/-- A standing holds what is remembered about a peer. -/
structure Knows (k : Memory) (p : PeerId) (s : Standing) : Prop where
  connections : s.connections = k.counts p
  protections : ∀ tag, tag ∈ s.protections ↔ (p, tag) ∈ k.protections
  values : s.values = k.values.restrict p

theorem knows_empty (p : PeerId) : empty.Knows p .none where
  connections := rfl
  protections tag := by simp [empty, Standing.none]
  values := rfl

/-- A number of connections changes. -/
theorem Knows.recount (h : k.Knows p s) (peer : PeerId) (f : Nat → Nat) :
    { k with counts := Function.update k.counts peer (f (k.counts peer)) }.Knows p
      (if peer = p then { s with connections := f s.connections } else s) := by
  split
  · rename_i hp
    subst hp
    refine ⟨?_, h.protections, h.values⟩
    show f s.connections = Function.update k.counts peer (f (k.counts peer)) peer
    rw [Function.update_self, h.connections]
  · rename_i hp
    refine ⟨?_, h.protections, h.values⟩
    show s.connections = Function.update k.counts peer (f (k.counts peer)) p
    rw [Function.update_of_ne (Ne.symm hp), h.connections]

theorem Knows.connect (h : k.Knows p s) (peer : PeerId) :
    (k.connect peer).Knows p (if peer = p then s.connect else s) :=
  h.recount peer (· + 1)

theorem Knows.disconnect (h : k.Knows p s) (peer : PeerId) :
    (k.disconnect peer).Knows p (if peer = p then s.disconnect else s) :=
  h.recount peer (· - 1)

theorem Knows.protect (h : k.Knows p s) (peer : PeerId) (t : String) :
    (k.protect peer t).Knows p (if peer = p then s.protect t else s) := by
  have hmem : ∀ tag, (p, tag) ∈ (k.protect peer t).protections ↔
      peer = p ∧ t = tag ∨ (p, tag) ∈ k.protections := by
    intro tag
    rw [Memory.protect, Finset.mem_insert, Prod.mk.injEq, eq_comm, @eq_comm _ tag]
  split
  · rename_i hp
    refine ⟨h.connections, fun tag => ?_, h.values⟩
    rw [hmem, ConnectionManager.mem_protections_protect, h.protections, and_iff_right hp]
  · rename_i hp
    refine ⟨h.connections, fun tag => ?_, h.values⟩
    rw [hmem, h.protections]
    exact (or_iff_right fun hboth => hp hboth.1).symm

theorem Knows.unprotect (h : k.Knows p s) (peer : PeerId) (t : String) :
    (k.unprotect peer t).Knows p (if peer = p then s.unprotect t else s) := by
  have hmem : ∀ tag, (p, tag) ∈ (k.unprotect peer t).protections ↔
      ¬(peer = p ∧ t = tag) ∧ (p, tag) ∈ k.protections := by
    intro tag
    rw [Memory.unprotect, Finset.mem_erase, ne_eq, Prod.mk.injEq, eq_comm, @eq_comm _ tag]
  split
  · rename_i hp
    refine ⟨h.connections, fun tag => ?_, h.values⟩
    rw [hmem, ConnectionManager.mem_protections_unprotect, h.protections, and_iff_right hp]
  · rename_i hp
    refine ⟨h.connections, fun tag => ?_, h.values⟩
    rw [hmem, h.protections]
    exact (and_iff_right fun hboth => hp hboth.1).symm

/-- The values of one peer change. -/
theorem Knows.revalue (h : k.Knows p s) {peer : PeerId} {t : Table (PeerId × String) Int64}
    {f : Table String Int64 → Table String Int64}
    (ht : t.restrict p = if peer = p then f (k.values.restrict p) else k.values.restrict p) :
    { k with values := t }.Knows p (if peer = p then { s with values := f s.values } else s) := by
  rw [← h.values] at ht
  split
  · rename_i hp
    rw [if_pos hp] at ht
    exact ⟨h.connections, h.protections, ht.symm⟩
  · rename_i hp
    rw [if_neg hp] at ht
    exact ⟨h.connections, h.protections, ht.symm⟩

theorem Knows.tag (h : k.Knows p s) (peer : PeerId) (name : String) (value : Int64) :
    (k.tag peer name value).Knows p (if peer = p then s.setValue name value else s) :=
  h.revalue (f := (·.insert name value)) (k.values.restrict_insert peer name value p)

theorem Knows.untag (h : k.Knows p s) (peer : PeerId) (name : String) :
    (k.untag peer name).Knows p (if peer = p then s.clearValue name else s) :=
  h.revalue (f := (·.erase name)) (k.values.restrict_erase peer name p)

theorem Knows.isProtected_eq (h : k.Knows p s) : s.isProtected = k.isProtected p := by
  rw [Standing.isProtected, Memory.isProtected, Bool.eq_iff_iff, decide_eq_true_eq,
    Bool.not_eq_true', ← Bool.not_eq_true, List.isEmpty_iff, List.eq_nil_iff_forall_not_mem]
  push Not
  constructor
  · rintro ⟨tag, htag⟩
    exact ⟨(p, tag), (h.protections tag).mp htag, rfl⟩
  · rintro ⟨⟨p', tag⟩, he, rfl⟩
    exact ⟨tag, (h.protections tag).mpr he⟩

theorem Knows.value_eq (h : k.Knows p s) : s.value = k.worth p := by
  rw [Standing.value, worth, h.values]

/-- A standing says something when a connection, a protection or a value is remembered. -/
theorem Knows.isIdle_eq_false_iff (h : k.Knows p s) :
    s.isIdle = false ↔ 0 < k.counts p ∨ (∃ tag, (p, tag) ∈ k.protections) ∨
      ∃ name value, k.values.get? (p, name) = some value := by
  have hprotections : s.protections ≠ [] ↔ ∃ tag, (p, tag) ∈ k.protections := by
    rw [ne_eq, List.eq_nil_iff_forall_not_mem]
    push Not
    exact exists_congr h.protections
  have hvalues : s.values.entries ≠ [] ↔
      ∃ name value, k.values.get? (p, name) = some value := by
    rw [ne_eq, List.eq_nil_iff_forall_not_mem]
    push Not
    rw [Prod.exists, h.values]
    refine exists_congr fun name => exists_congr fun value => ?_
    rw [Table.mem_entries_restrict, Table.get?_eq_some_iff]
  rw [← h.connections, ← hprotections, ← hvalues, Nat.pos_iff_ne_zero]
  simp only [Standing.isIdle, Bool.and_eq_false_iff, decide_eq_false_iff_not,
    List.isEmpty_eq_false_iff, or_assoc]

end Memory

/-! ## Archives -/

/-- A manager that drops nothing. -/
structure Archive where
  marks : Watermarks
  closed : Bool
  records : Table ConnectionId Record
  /-- The connections not selected for closing. -/
  live : UInt64
  peers : Memory

namespace Archive

variable {a : Archive} {m : ConnectionManager}

/-- An archive before the first connection. -/
def ofMarks (marks : Watermarks) : Archive := ⟨marks, false, .empty, 0, .empty⟩

/-- A connection was established at `now`; one that is tracked counts no second time. -/
def connect (a : Archive) (id : ConnectionId) (peer : PeerId) (direction : Direction)
    (now : Instant) : Archive :=
  let tracked := { a with records := a.records.insert id ⟨peer, direction, now, false⟩ }
  if a.records.contains id then tracked
  else { tracked with live := a.live + 1, peers := a.peers.connect peer }

/-- A connection was closed. -/
def disconnect (a : Archive) (id : ConnectionId) : Archive :=
  match a.records.get? id with
  | none => a
  | some r =>
    { a with
      records := a.records.erase id
      live := if r.closing then a.live else a.live - 1
      peers := a.peers.disconnect r.peer }

/-- Ends the protection of a peer under a tag; the answer says whether another tag still
protects. -/
def unprotect (a : Archive) (peer : PeerId) (tag : String) : Bool × Archive :=
  ((a.peers.unprotect peer tag).isProtected peer,
    { a with peers := a.peers.unprotect peer tag })

/-- What a pass reads. -/
def reading (a : Archive) : Reading := ⟨a.marks.grace, a.peers.isProtected, a.peers.worth⟩

/-- The connections that a pass takes. -/
def selected (a : Archive) (now : Instant) : List (ConnectionId × Record) :=
  if a.closed = false ∧ a.marks.high ≤ a.live.toNat then
    (a.reading.ranked now a.records.entries).take (a.live.toNat - a.marks.low)
  else []

/-- One pass at `now`: the connections to close, in order. -/
def trim (a : Archive) (now : Instant) : List (PeerId × ConnectionId) × Archive :=
  let ids := (a.selected now).map Prod.fst
  ((a.selected now).map fun e => (e.2.peer, e.1),
    { a with
      records := a.records.mapValues fun id r =>
        if id ∈ ids then { r with closing := true } else r
      live := a.live - UInt64.ofNat ids.length })

/-- An archive after a step. -/
def perform (a : Archive) : ConnectionManager.Step → Archive
  | .connect id peer direction now => a.connect id peer direction now
  | .disconnect id => a.disconnect id
  | .protect peer tag => { a with peers := a.peers.protect peer tag }
  | .unprotect peer tag => (a.unprotect peer tag).2
  | .tag peer name value => { a with peers := a.peers.tag peer name value }
  | .untag peer name => { a with peers := a.peers.untag peer name }
  | .trim now => (a.trim now).2
  | .close => { a with closed := true }

/-- An archive after a run. -/
def run (a : Archive) (steps : List ConnectionManager.Step) : Archive := steps.foldl perform a

/-- An archive recalls what a manager says: the parts agree, and the manager has no entry that
says nothing. -/
structure Recalls (a : Archive) (m : ConnectionManager) : Prop where
  marks : m.marks = a.marks
  closed : m.closed = a.closed
  live : m.live = a.live
  records : ∀ id, m.record? id = a.records.get? id
  peers : ∀ p, a.peers.Knows p (m.standing p)
  busy : ∀ p s, m.standings.get? p = some s → s.isIdle = false

theorem recalls_ofMarks (marks : Watermarks) :
    (ofMarks marks).Recalls (ConnectionManager.ofMarks marks) where
  marks := rfl
  closed := rfl
  live := rfl
  records _ := rfl
  peers := Memory.knows_empty
  busy _ _ h := by cases h

/-! ### What is known about a peer changes -/

/-- The standing that changes may be named by the peer that is looked at. -/
theorem ite_standing (m : ConnectionManager) (peer : PeerId) (f : Standing → Standing)
    (p : PeerId) :
    (if peer = p then f (m.standing peer) else m.standing p) =
      if peer = p then f (m.standing p) else m.standing p := by
  split
  · rename_i hp
    rw [hp]
  · rfl

/-- A change that gives a standing something to say. -/
theorem Recalls.changeStanding (h : a.Recalls m) {peer : PeerId} {f : Standing → Standing}
    {k : Memory}
    (hk : ∀ p, k.Knows p (if peer = p then f (m.standing p) else m.standing p))
    (hf : ∀ s, (f s).isIdle = false) :
    { a with peers := k }.Recalls (m.changeStanding peer f) where
  marks := h.marks
  closed := h.closed
  live := h.live
  records := h.records
  peers p := by
    rw [ConnectionManager.standing_changeStanding, ite_standing]
    exact hk p
  busy p s hs := by
    rw [ConnectionManager.changeStanding, Table.get?_insert] at hs
    split at hs
    · cases hs
      exact hf _
    · exact h.busy p s hs

theorem isIdle_of_unlessIdle {s s' : Standing} (h : s.unlessIdle = some s') :
    s'.isIdle = false := by
  rw [Standing.unlessIdle] at h
  split at h
  · cases h
  · rename_i hbusy
    cases h
    exact Bool.eq_false_iff.mpr hbusy

/-- A change after which a standing that says nothing is dropped. -/
theorem Recalls.reduceStanding (h : a.Recalls m) {peer : PeerId} {f : Standing → Standing}
    {k : Memory}
    (hk : ∀ p, k.Knows p (if peer = p then f (m.standing p) else m.standing p))
    (hf : f .none = .none) :
    { a with peers := k }.Recalls (m.reduceStanding peer f) where
  marks := h.marks
  closed := h.closed
  live := h.live
  records := h.records
  peers p := by
    rw [ConnectionManager.standing_reduceStanding m peer hf, ite_standing]
    exact hk p
  busy p s hs := by
    rw [ConnectionManager.reduceStanding, Table.get?_alter] at hs
    split at hs
    · obtain ⟨s', -, hs'⟩ := Option.bind_eq_some_iff.mp hs
      exact isIdle_of_unlessIdle hs'
    · exact h.busy p s hs

theorem Recalls.protect (h : a.Recalls m) (peer : PeerId) (tag : String) :
    { a with peers := a.peers.protect peer tag }.Recalls (m.protect peer tag) := by
  refine h.changeStanding (fun p => (h.peers p).protect peer tag) fun s => ?_
  have hmem : tag ∈ (s.protect tag).protections :=
    ConnectionManager.mem_protections_protect.mpr (.inl rfl)
  rw [Standing.isIdle, List.isEmpty_eq_false_iff.mpr (List.ne_nil_of_mem hmem), Bool.and_false,
    Bool.false_and]

theorem Recalls.unprotect (h : a.Recalls m) (peer : PeerId) (tag : String) :
    (a.unprotect peer tag).2.Recalls (m.unprotect peer tag).2 :=
  h.reduceStanding (fun p => (h.peers p).unprotect peer tag) rfl

theorem Recalls.tag (h : a.Recalls m) (peer : PeerId) (name : String) (value : Int64) :
    { a with peers := a.peers.tag peer name value }.Recalls (m.tag peer name value) := by
  refine h.changeStanding (fun p => (h.peers p).tag peer name value) fun s => ?_
  have hget : (s.setValue name value).values.get? name = some value := by
    rw [Standing.setValue, Table.get?_insert, if_pos rfl]
  have hmem := Table.get?_eq_some_iff.mp hget
  rw [Standing.isIdle, List.isEmpty_eq_false_iff.mpr (List.ne_nil_of_mem hmem), Bool.and_false]

theorem Recalls.untag (h : a.Recalls m) (peer : PeerId) (name : String) :
    { a with peers := a.peers.untag peer name }.Recalls (m.untag peer name) :=
  h.reduceStanding (fun p => (h.peers p).untag peer name) rfl

/-! ### Connections come and go -/

/-- Tables of records need not agree on more than what is looked up. -/
theorem Recalls.track (h : a.Recalls m) {t t' : Table ConnectionId Record}
    (ht : ∀ id, t.get? id = t'.get? id) :
    { a with records := t' }.Recalls { m with records := t } :=
  ⟨h.marks, h.closed, h.live, ht, h.peers, h.busy⟩

/-- The live count is a part of its own. -/
theorem Recalls.count (h : a.Recalls m) (live : UInt64) (gauge : Nat) :
    { a with live := live }.Recalls { m with live := live, gauge := gauge } :=
  ⟨h.marks, h.closed, rfl, h.records, h.peers, h.busy⟩

theorem Recalls.connect (h : a.Recalls m) (id : ConnectionId) (peer : PeerId)
    (direction : Direction) (now : Instant) :
    (a.connect id peer direction now).Recalls (m.connect id peer direction now) := by
  let r : Record := ⟨peer, direction, now, false⟩
  have hrecords : ∀ id', (m.records.insert id r).get? id' = (a.records.insert id r).get? id' := by
    intro id'
    rw [Table.get?_insert, Table.get?_insert]
    exact congrArg (ite _ _) (h.records id')
  have htracked := h.track hrecords
  have hcontains : a.records.contains id = m.records.contains id := by
    rw [Bool.eq_iff_iff, Table.contains_iff, Table.contains_iff, ← h.records]
    exact Iff.rfl
  rw [Archive.connect, ConnectionManager.connect, hcontains]
  split
  · exact htracked
  · have hcounted := htracked.changeStanding (f := Standing.connect)
      (fun p => (htracked.peers p).connect peer) fun s => rfl
    rw [← h.live]
    exact hcounted.count (m.live + 1) (m.live + 1).toNat

theorem Recalls.disconnect (h : a.Recalls m) (id : ConnectionId) :
    (a.disconnect id).Recalls (m.disconnect id) := by
  rw [Archive.disconnect, ConnectionManager.disconnect, ← h.records, ConnectionManager.record?]
  cases hr : m.records.get? id with
  | none => exact h
  | some r =>
    have hrecords : ∀ id', (m.records.erase id).get? id' = (a.records.erase id).get? id' := by
      intro id'
      rw [Table.get?_erase, Table.get?_erase]
      exact congrArg (ite _ _) (h.records id')
    have huntracked := h.track hrecords
    dsimp only
    split
    · exact huntracked.reduceStanding (fun p => (huntracked.peers p).disconnect r.peer) rfl
    · have hcounted := huntracked.count (m.live - 1) (m.live.toNat - 1)
      rw [← h.live]
      exact hcounted.reduceStanding (fun p => (hcounted.peers p).disconnect r.peer) rfl

/-! ### Passes -/

theorem Recalls.reading_eq (h : a.Recalls m) : m.reading = a.reading := by
  have hprotected : (m.reading).isProtected = a.peers.isProtected := by
    funext p
    rw [ConnectionManager.reading_isProtected, ConnectionManager.isProtected,
      (h.peers p).isProtected_eq]
  have hworth : (m.reading).worth = a.peers.worth := by
    funext p
    rw [ConnectionManager.reading_worth, (h.peers p).value_eq]
  rw [reading, ← hprotected, ← hworth, ← h.marks]
  rfl

theorem Recalls.chosen_eq (h : a.Recalls m) (now : Instant) :
    m.chosen now = (a.selected now).map fun e => m.candidate e.1 e.2 := by
  -- the tables may list their records in different orders, which a pass does not see
  have hrecords : m.records.entries.Perm a.records.entries :=
    Table.entries_perm_of_get?_eq h.records
  have hneeds : m.needsTrim = true ↔ a.closed = false ∧ a.marks.high ≤ a.live.toNat := by
    rw [ConnectionManager.needsTrim, Bool.and_eq_true, Bool.not_eq_true', decide_eq_true_eq,
      h.closed, h.marks, ConnectionManager.connectionCount, h.live]
  rw [ConnectionManager.chosen, selected]
  by_cases hworks : m.needsTrim = true
  · rw [if_pos hworks, if_pos (hneeds.mp hworks), List.map_take, ConnectionManager.surplus,
      ConnectionManager.connectionCount, h.live, h.marks, ConnectionManager.candidates_eq,
      Reading.ranked_of_perm hrecords m.records.nodup, h.reading_eq]
  · rw [if_neg hworks, if_neg (mt hneeds.mpr hworks), List.map_nil]

theorem Recalls.trim_fst_eq (h : a.Recalls m) (now : Instant) :
    (m.trim now).1 = (a.trim now).1 := by
  rw [ConnectionManager.trim_fst, h.chosen_eq, List.map_map]
  rfl

theorem Recalls.trim (h : a.Recalls m) (now : Instant) :
    (a.trim now).2.Recalls (m.trim now).2 := by
  have hmarks := m.marks_trim now
  have hids : (m.chosen now).map (·.id) = (a.selected now).map Prod.fst := by
    rw [h.chosen_eq, List.map_map]
    rfl
  have hlength : (m.chosen now).length = ((a.selected now).map Prod.fst).length := by
    rw [← hids, List.length_map]
  refine ⟨hmarks.marks.trans h.marks, hmarks.closed.trans h.closed, ?_, fun id => ?_, fun p => ?_,
    fun p s hs => ?_⟩
  · -- the counts are words, so they are compared before the subtraction
    have hsum : (m.trim now).2.live + UInt64.ofNat ((a.selected now).map Prod.fst).length =
        a.live := by
      rw [← h.live, ← hlength]
      apply UInt64.toNat_inj.mp
      rw [UInt64.toNat_add, UInt64.toNat_ofNat', Nat.add_mod_mod, hmarks.live,
        Nat.mod_eq_of_lt m.live.toNat_lt]
    show (m.trim now).2.live = a.live - _
    rw [← hsum, UInt64.add_sub_cancel]
  · show (m.trim now).2.records.get? id = (a.records.mapValues _).get? id
    rw [hmarks.records, hids, Table.get?_mapValues, ← h.records]
    split
    · rfl
    · exact Option.map_id'.symm
  · have hp := h.peers p
    rwa [ConnectionManager.standing, hmarks.standings]
  · rw [hmarks.standings] at hs
    exact h.busy p s hs

/-! ### Runs -/

theorem Recalls.perform (h : a.Recalls m) (step : ConnectionManager.Step) :
    (a.perform step).Recalls (m.perform step) := by
  cases step with
  | connect id peer direction now => exact h.connect id peer direction now
  | disconnect id => exact h.disconnect id
  | protect peer tag => exact h.protect peer tag
  | unprotect peer tag => exact h.unprotect peer tag
  | tag peer name value => exact h.tag peer name value
  | untag peer name => exact h.untag peer name
  | trim now => exact h.trim now
  | close => exact ⟨h.marks, rfl, h.live, h.records, h.peers, h.busy⟩

theorem Recalls.run (h : a.Recalls m) (steps : List ConnectionManager.Step) :
    (a.run steps).Recalls (m.run steps) := by
  induction steps generalizing a m with
  | nil => exact h
  | cons step steps ih => exact ih (h.perform step)

theorem Recalls.unprotect_fst_eq (h : a.Recalls m) (peer : PeerId) (tag : String) :
    (m.unprotect peer tag).1 = (a.unprotect peer tag).1 := by
  have hpeer := (h.peers peer).unprotect peer tag
  rw [if_pos rfl] at hpeer
  exact hpeer.isProtected_eq

/-- The peers with an entry are those about which something is remembered. -/
theorem Recalls.isSome_standing_iff (h : a.Recalls m) (p : PeerId) :
    (m.standings.get? p).isSome ↔ 0 < a.peers.counts p ∨
      (∃ tag, (p, tag) ∈ a.peers.protections) ∨
      ∃ name value, a.peers.values.get? (p, name) = some value := by
  rw [← (h.peers p).isIdle_eq_false_iff, ConnectionManager.standing]
  cases hs : m.standings.get? p with
  | none => exact iff_of_false Bool.false_ne_true (by decide)
  | some s => exact ⟨fun _ => h.busy p s hs, fun _ => rfl⟩

end Archive

end Connection

namespace ConnectionManager

/-- After any run, a manager and an archive give the same answers, and a peer has an entry exactly
when it has a connection, a protection or a tag value.  The values of a peer are the same in the
same order, and so is their sum. -/
theorem run_drops_nothing (marks : Watermarks) (steps : List Step) :
    let m := (ofMarks marks).run steps
    let a := (Archive.ofMarks marks).run steps
    (∀ p, m.peerConnections p = a.peers.counts p) ∧
    (∀ p, m.isProtected p = a.peers.isProtected p) ∧
    (∀ p tag, (m.unprotect p tag).1 = (a.unprotect p tag).1) ∧
    (∀ p, (m.standing p).values = a.peers.values.restrict p ∧
      (m.standing p).value = a.peers.worth p) ∧
    (∀ now, (m.trim now).1 = (a.trim now).1) ∧
    (∀ id, m.record? id = a.records.get? id) ∧ m.connectionCount = a.live.toNat ∧
    (∀ p, (m.standings.get? p).isSome ↔ 0 < a.peers.counts p ∨
      (∃ tag, (p, tag) ∈ a.peers.protections) ∨
      ∃ name value, a.peers.values.get? (p, name) = some value) := by
  intro m a
  have h : a.Recalls m := (Archive.recalls_ofMarks marks).run steps
  exact ⟨fun p => (h.peers p).connections, fun p => (h.peers p).isProtected_eq,
    h.unprotect_fst_eq, fun p => ⟨(h.peers p).values, (h.peers p).value_eq⟩, h.trim_fst_eq,
    h.records, congrArg UInt64.toNat h.live, h.isSome_standing_iff⟩

end ConnectionManager

end CircuitRelay
