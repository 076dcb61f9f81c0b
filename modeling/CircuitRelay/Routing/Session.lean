import CircuitRelay.Routing.Bootstrap

/-!
# Routing

Joining the overlay together with the overlay that is joined: `Routing` asks the overlay for a
search exactly when a step of `Bootstrap` asks for one, and hands it the seeds before the first
round.  Requests of the operator for another round wait until the node takes them.
-/

namespace CircuitRelay

/-- Joining the overlay, with the requests of the operator. -/
structure Routing where
  /-- The state of joining. -/
  bootstrap : Bootstrap
  /-- Requests for another round that were not taken yet. -/
  requests : Nat

namespace Routing

/-- The state before the start, if every configured address is a seed. -/
def ofSettings (s : RoutingSettings) : Except Seed.Fault Routing :=
  (Bootstrap.ofSettings s).map fun b => ⟨b, 0⟩

/-- How far the node is. -/
def state (r : Routing) : RoutingState := r.bootstrap.state

/-- How many seeds are connected. -/
def respondedSeeds (r : Routing) : Nat := r.bootstrap.responded.length

/-- The state that someone who waits for a result sees, once there is one. -/
def settled? (r : Routing) : Option RoutingState :=
  if r.state.isSettled then some r.state else none

/-- The state that someone who waits for a result sees after routing itself is gone. -/
def settledAfterEnd (r : Routing) : RoutingState := r.settled?.getD .stopped

/-- A search of the overlay, if a step asks for one. -/
def search (asks : Bool) (o : Overlay) : Option QueryId × Overlay :=
  if asks then o.beginQuery else (none, o)

/-- Tells the overlay about the seeds. -/
def teachSeeds (b : Bootstrap) (o : Overlay) : Overlay :=
  b.seeds.foldl (fun o s => (o.learn s.peer s.address).2) o

/-- Starts joining: the overlay learns the seeds, and the first round begins. -/
def start (r : Routing) (o : Overlay) (now : Instant) : Routing × Overlay :=
  let asks := r.bootstrap.startAsks
  let taught := if asks then teachSeeds r.bootstrap o else o
  let (begun, o) := search asks taught
  ({ r with bootstrap := r.bootstrap.start begun now }, o)

/-- Begins another round on request; before the start it starts. -/
def retry (r : Routing) (o : Overlay) (now : Instant) : Routing × Overlay :=
  if r.bootstrap.startAsks then r.start o now
  else
    let (begun, o) := search r.bootstrap.retryAsks o
    ({ r with bootstrap := r.bootstrap.retry begun now }, o)

/-- Time has come to `now`. -/
def tick (r : Routing) (o : Overlay) (now : Instant) : Routing × Overlay :=
  let (begun, o) := search (r.bootstrap.tickAsks now) o
  ({ r with bootstrap := r.bootstrap.tick begun now }, o)

/-- Changes the state of joining. -/
def mapBootstrap (r : Routing) (f : Bootstrap → Bootstrap) : Routing :=
  { r with bootstrap := f r.bootstrap }

/-- A report about a search. -/
structure Progress where
  query : QueryId
  /-- Whether it was begun for joining, or looks for something else. -/
  joins : Bool
  /-- Whether it has ended. -/
  last : Bool
  deriving DecidableEq, Repr

/-- Handles a report about a search. -/
def progressed (r : Routing) (p : Progress) (now : Instant) : Routing :=
  if p.joins && p.last then r.mapBootstrap (·.queryEnded p.query now) else r

/-- The operator asks for another round. -/
def request (r : Routing) : Routing := { r with requests := r.requests + 1 }

/-- Takes one request of the operator, if there is one. -/
def takeRequest (r : Routing) : Bool × Routing :=
  (r.requests ≠ 0, { r with requests := r.requests - 1 })

/-- Ends joining for good. -/
def stop (r : Routing) : Routing := r.mapBootstrap .stop

end Routing

end CircuitRelay
