import CircuitRelay.Connection.Manager

/-!
# Closing selected connections

A pass only selects connections; the swarm closes them one at a time.  The queue holds the
selected connections that were not handed to the swarm yet, in the order of selection.  A
connection that closes by itself leaves the queue.
-/

namespace CircuitRelay

/-- The connection manager with the connections it still has to close. -/
structure ClosingQueue where
  manager : ConnectionManager
  /-- The selected connections, next one first. -/
  queue : List (PeerId × ConnectionId)

namespace ClosingQueue

/-- The start with a fresh manager. -/
def ofMarks (marks : Watermarks) : ClosingQueue := ⟨.ofMarks marks, []⟩

/-- Runs a pass and queues what it selects; the answer is their number. -/
def trim (q : ClosingQueue) (now : Instant) : Nat × ClosingQueue :=
  let (selected, manager) := q.manager.trim now
  (selected.length, ⟨manager, q.queue ++ selected⟩)

/-- The swarm established a connection; a pass follows when the high mark is reached.  The clock is
read again for the pass. -/
def established (q : ClosingQueue) (id : ConnectionId) (peer : PeerId) (direction : Direction)
    (now : Instant) (passAt : Instant := now) : ClosingQueue :=
  let connected := { q with manager := q.manager.connect id peer direction now }
  if connected.manager.needsTrim then (connected.trim passAt).2 else connected

/-- The swarm closed a connection. -/
def closed (q : ClosingQueue) (id : ConnectionId) : ClosingQueue :=
  ⟨q.manager.disconnect id, q.queue.filter fun e => e.2 ≠ id⟩

/-- The next connection that the swarm has to close. -/
def poll (q : ClosingQueue) : Option (PeerId × ConnectionId) × ClosingQueue :=
  match q.queue with
  | [] => (none, q)
  | e :: rest => (some e, { q with queue := rest })

end ClosingQueue

end CircuitRelay
