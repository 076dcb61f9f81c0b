import CircuitRelay.Connection.Basic
import CircuitRelay.Connection.Watermarks

/-!
# The connection manager

The manager tracks every connection, counts the ones not yet selected for closing, and closes the
least valuable old ones when the count reaches the high mark.

* `connect` and `disconnect` follow the swarm; connecting a tracked id again replaces its record
  and counts nothing.
* `protect`, `unprotect`, `tag`, `untag` change the standing of a peer; a standing that says
  nothing is dropped.
* `trim` is one pass: the candidates are the connections past their grace period whose peer is
  unprotected, ordered by worth, then age, then id, and the pass takes from the front of that
  order as many as it needs to reach the low mark.

The live count is a machine word: it wraps below zero when a record that was selected for closing
is replaced by a fresh one and then removed.
-/

namespace CircuitRelay

open Connection

/-- The state of the connection manager. -/
structure ConnectionManager where
  marks : Watermarks
  /-- Whether passes have ended for good. -/
  closed : Bool
  records : Table ConnectionId Record
  /-- What is known about peers; never an idle standing. -/
  standings : Table PeerId Standing
  /-- The connections not selected for closing. -/
  live : UInt64
  /-- The live count as last published. -/
  gauge : Nat
  /-- How many connections were ever selected for closing. -/
  pruned : Nat
  /-- How many passes left the count at the high mark or above. -/
  pressure : Nat

namespace ConnectionManager

/-- The manager before the first connection. -/
def ofMarks (marks : Watermarks) : ConnectionManager :=
  ⟨marks, false, .empty, .empty, 0, 0, 0, 0⟩

/-- The standing of a peer. -/
def standing (m : ConnectionManager) (peer : PeerId) : Standing :=
  (m.standings.get? peer).getD .none

/-- Changes the standing of a peer, creating it when it is missing. -/
def changeStanding (m : ConnectionManager) (peer : PeerId) (f : Standing → Standing) :
    ConnectionManager :=
  { m with standings := m.standings.insert peer (f (m.standing peer)) }

/-- Changes the standing of a known peer and drops it when it becomes idle. -/
def reduceStanding (m : ConnectionManager) (peer : PeerId) (f : Standing → Standing) :
    ConnectionManager :=
  { m with standings := m.standings.alter peer fun s => s.bind fun s => (f s).unlessIdle }

/-! ## Connections -/

/-- A connection was established at `now`. -/
def connect (m : ConnectionManager) (id : ConnectionId) (peer : PeerId) (direction : Direction)
    (now : Instant) : ConnectionManager :=
  let tracked := { m with records := m.records.insert id ⟨peer, direction, now, false⟩ }
  if m.records.contains id then tracked
  else
    let counted := tracked.changeStanding peer .connect
    { counted with live := m.live + 1, gauge := (m.live + 1).toNat }

/-- A connection was closed. -/
def disconnect (m : ConnectionManager) (id : ConnectionId) : ConnectionManager :=
  match m.records.get? id with
  | none => m
  | some r =>
    let untracked := { m with records := m.records.erase id }
    let counted :=
      if r.closing then untracked
      else { untracked with live := m.live - 1, gauge := m.live.toNat - 1 }
    counted.reduceStanding r.peer .disconnect

/-- How many connections are not selected for closing. -/
def connectionCount (m : ConnectionManager) : Nat := m.live.toNat

/-- How many tracked connections a peer has, closing ones included. -/
def peerConnections (m : ConnectionManager) (peer : PeerId) : Nat := (m.standing peer).connections

/-- The record of a connection. -/
def record? (m : ConnectionManager) (id : ConnectionId) : Option Record := m.records.get? id

/-- The phase of a connection. -/
def phase? (m : ConnectionManager) (id : ConnectionId) (now : Instant) : Option Phase :=
  (m.records.get? id).map fun r => r.phase m.marks.grace now

/-! ## Peers -/

/-- Whether any tag protects a peer. -/
def isProtected (m : ConnectionManager) (peer : PeerId) : Bool := (m.standing peer).isProtected

/-- Protects a peer under a tag. -/
def protect (m : ConnectionManager) (peer : PeerId) (tag : String) : ConnectionManager :=
  m.changeStanding peer (·.protect tag)

/-- Ends the protection under a tag; the answer says whether another tag still protects. -/
def unprotect (m : ConnectionManager) (peer : PeerId) (tag : String) :
    Bool × ConnectionManager :=
  (((m.standing peer).unprotect tag).isProtected, m.reduceStanding peer (·.unprotect tag))

/-- Sets a value tag of a peer. -/
def tag (m : ConnectionManager) (peer : PeerId) (name : String) (value : Int64) :
    ConnectionManager :=
  m.changeStanding peer (·.setValue name value)

/-- Removes a value tag of a peer. -/
def untag (m : ConnectionManager) (peer : PeerId) (name : String) : ConnectionManager :=
  m.reduceStanding peer (·.clearValue name)

/-! ## Closing connections under pressure -/

/-- A connection that a pass may close. -/
structure Candidate where
  id : ConnectionId
  peer : PeerId
  /-- The worth of the peer. -/
  value : Int
  /-- When the connection was established. -/
  established : Instant
  deriving DecidableEq, Repr

/-- Whether a candidate is closed no later than another: less worth first, then older, then the
smaller id. -/
def Candidate.before (a b : Candidate) : Bool :=
  a.value < b.value ||
    (a.value = b.value &&
      (a.established < b.established || (a.established = b.established && a.id ≤ b.id)))

/-- Whether the count has reached the high mark. -/
def needsTrim (m : ConnectionManager) : Bool := !m.closed && m.marks.high ≤ m.connectionCount

/-- The candidate that a record makes, if it makes one. -/
def candidate? (m : ConnectionManager) (now : Instant) (id : ConnectionId) (r : Record) :
    Option Candidate :=
  if r.phase m.marks.grace now = .prunable ∧ m.isProtected r.peer = false then
    some ⟨id, r.peer, (m.standing r.peer).value, r.established⟩
  else none

/-- The connections that a pass may close, in the order in which it closes them. -/
def candidates (m : ConnectionManager) (now : Instant) : List Candidate :=
  (m.records.entries.filterMap fun e => m.candidate? now e.1 e.2).mergeSort Candidate.before

/-- How many connections a pass wants to close. -/
def surplus (m : ConnectionManager) : Nat := m.connectionCount - m.marks.low

/-- Selects one candidate for closing, unless enough are selected: its record is marked and no
longer counts as live. -/
def select (wanted : Nat) (s : List (PeerId × ConnectionId) × ConnectionManager) (c : Candidate) :
    List (PeerId × ConnectionId) × ConnectionManager :=
  if s.1.length = wanted then s
  else
    match s.2.records.get? c.id with
    | none => s
    | some r =>
      if r.closing then s
      else
        (s.1 ++ [(c.peer, c.id)],
          { s.2 with
            records := s.2.records.insert c.id { r with closing := true }
            live := s.2.live - 1 })

/-- One pass at `now`: the connections to close, in order. -/
def trim (m : ConnectionManager) (now : Instant) :
    List (PeerId × ConnectionId) × ConnectionManager :=
  if m.needsTrim = false ∨ m.surplus = 0 then ([], m)
  else
    let (selected, marked) := (m.candidates now).foldl (select m.surplus) ([], m)
    (selected,
      { marked with
        gauge := marked.live.toNat
        pruned := m.pruned + selected.length
        pressure := m.pressure + if m.marks.high ≤ marked.live.toNat then 1 else 0 })

/-- Ends all passes. -/
def close (m : ConnectionManager) : ConnectionManager := { m with closed := true }

end ConnectionManager

end CircuitRelay
