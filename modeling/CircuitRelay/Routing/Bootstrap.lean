import CircuitRelay.Distinct
import CircuitRelay.Routing.Overlay
import CircuitRelay.Routing.Seeds
import CircuitRelay.Tally

/-!
# Joining the overlay

The node joins the overlay in rounds.  A round is one search of the overlay; it succeeds when the
search ends while enough seeds are connected, and fails when it ends with fewer, when it takes too
long, or when it cannot begin.  After a failure another round follows at a set time.

The time at which a round is given up and the time of the next round are reckoned from the time of a
step.  A step that comes to a time the clock cannot hold crashes.

The searches themselves belong to the overlay.  A step that may begin a round takes the overlay's
answer `begun`, the number of the new search or `none`, and `startAsks`, `retryAsks` and
`tickAsks` say whether the step asks at all; when it does not, the answer is not used.
-/

namespace CircuitRelay

/-- How far the node is in joining the overlay. -/
inductive RoutingState where
  | idle
  | bootstrapping
  | active
  /-- The last round failed; another one is scheduled. -/
  | degraded
  | stopped
  deriving DecidableEq, Repr

namespace RoutingState

/-- The name of a state. -/
def name : RoutingState → String
  | .idle => "idle"
  | .bootstrapping => "bootstrapping"
  | .active => "active"
  | .degraded => "degraded"
  | .stopped => "stopped"

/-- Whether the first round has come to a result. -/
def isSettled : RoutingState → Bool
  | .active | .degraded | .stopped => true
  | .idle | .bootstrapping => false

end RoutingState

namespace Bootstrap

/-- What became of a round. -/
inductive Outcome where
  | active
  | degraded
  /-- It was cut short by the end of routing. -/
  | aborted
  deriving DecidableEq, Repr

/-- The name of an outcome. -/
def Outcome.name : Outcome → String
  | .active => "active"
  | .degraded => "degraded"
  | .aborted => "aborted"

/-- A running round. -/
structure Round where
  query : QueryId
  /-- When it is given up. -/
  deadline : Instant
  deriving DecidableEq, Repr

end Bootstrap

/-- The state of joining. -/
structure Bootstrap where
  /-- A round that takes this long is given up. -/
  timeout : Duration
  /-- How many seeds have to be connected. -/
  minResponses : Nat
  /-- The time between a failed round and the next one. -/
  retryInterval : Duration
  seeds : List Seed
  /-- The seeds that are connected. -/
  responded : List PeerId
  round : Option Bootstrap.Round
  /-- When the next round is due. -/
  nextRetry : Option Instant
  /-- How far the node is. -/
  state : RoutingState
  /-- What became of rounds. -/
  outcomes : Tally Bootstrap.Outcome
  /-- Whether a step crashed; joining ended with it. -/
  crashed : Bool

namespace Bootstrap

/-- The state before the start, if every configured address is a seed. -/
def ofSettings (s : RoutingSettings) : Except Seed.Fault Bootstrap :=
  s.seeds.map fun seeds =>
    ⟨s.timeout, s.minResponses, s.retryInterval, seeds, [], none, none, .idle, .empty, false⟩

/-- The outcome that entering a state is counted as. -/
def outcomeOf? : RoutingState → Option Outcome
  | .active => some .active
  | .degraded => some .degraded
  | .idle | .bootstrapping | .stopped => none

/-- Counts an outcome. -/
def record (b : Bootstrap) (o : Outcome) : Bootstrap :=
  { b with outcomes := b.outcomes.record o }

/-- Enters a state; only a change of state is counted as an outcome. -/
def enter (b : Bootstrap) (state : RoutingState) : Bootstrap :=
  let entered := { b with state := state }
  if b.state = state then entered
  else
    match outcomeOf? state with
    | some o => entered.record o
    | none => entered

/-- A round failed at `now`: the next one is scheduled, if the clock can hold its time. -/
def degrade? (b : Bootstrap) (now : Instant) : Option Bootstrap :=
  (Instant.after? now b.retryInterval).map fun due =>
    { b with nextRetry := some due }.enter .degraded

/-- Begins a round at `now` with the search that the overlay began for it, if the clock can hold the
time at which it is given up. -/
def beginRound? (b : Bootstrap) (begun : Option QueryId) (now : Instant) : Option Bootstrap :=
  let unscheduled := { b with nextRetry := none }
  match begun with
  | some query =>
    (Instant.after? now b.timeout).map fun deadline =>
      { unscheduled with round := some ⟨query, deadline⟩ }.enter .bootstrapping
  | none => unscheduled.degrade? now

/-- The end of a step.  Of a step that crashes only this is kept: nothing reads any more what it had
written before. -/
def orCrash (b : Bootstrap) (after? : Option Bootstrap) : Bootstrap :=
  after?.getD { b with crashed := true }

/-! ## Rounds -/

/-- Whether starting begins a round: only once. -/
def startAsks (b : Bootstrap) : Bool := b.state = .idle

/-- Starts joining. -/
def start (b : Bootstrap) (begun : Option QueryId) (now : Instant) : Bootstrap :=
  if b.startAsks then b.orCrash (b.beginRound? begun now) else b

/-- Whether a retry begins a round: not while one is running, and not after the end. -/
def retryAsks (b : Bootstrap) : Bool :=
  match b.state with
  | .idle | .active | .degraded => true
  | .bootstrapping | .stopped => false

/-- Begins another round on request. -/
def retry (b : Bootstrap) (begun : Option QueryId) (now : Instant) : Bootstrap :=
  if b.retryAsks then b.orCrash (b.beginRound? begun now) else b

/-- The last step of a search.  It ends the round that the search belongs to. -/
def queryEnded (b : Bootstrap) (query : QueryId) (now : Instant) : Bootstrap :=
  match b.round with
  | none => b
  | some round =>
    if round.query = query then
      let ended := { b with round := none }
      if b.minResponses ≤ b.responded.length then ended.enter .active
      else b.orCrash (ended.degrade? now)
    else b

/-- Whether a tick begins a round: a failed one is due again. -/
def tickAsks (b : Bootstrap) (now : Instant) : Bool :=
  b.round.isNone && b.state = .degraded && b.nextRetry.any (· ≤ now)

/-- Time has come to `now`: gives up a round that takes too long, or begins the next one. -/
def tick (b : Bootstrap) (begun : Option QueryId) (now : Instant) : Bootstrap :=
  match b.round with
  | some round =>
    if round.deadline ≤ now then b.orCrash ({ b with round := none }.degrade? now) else b
  | none => if b.tickAsks now then b.orCrash (b.beginRound? begun now) else b

/-- Ends joining for good. -/
def stop (b : Bootstrap) : Bootstrap :=
  if b.state = .stopped then b
  else
    let ended :=
      match b.round with
      | some _ => { b with round := none }.record .aborted
      | none => b
    { ended with nextRetry := none }.enter .stopped

/-! ## Seeds -/

/-- Whether a peer is a seed. -/
def isSeed (b : Bootstrap) (peer : PeerId) : Bool := b.seeds.any fun s => s.peer = peer

/-- A connection to a peer was established. -/
def peerConnected (b : Bootstrap) (peer : PeerId) : Bootstrap :=
  if b.isSeed peer then { b with responded := pushNew b.responded peer } else b

/-- The last connection to a peer was closed. -/
def peerDisconnected (b : Bootstrap) (peer : PeerId) : Bootstrap :=
  { b with responded := b.responded.filter (· ≠ peer) }

end Bootstrap

end CircuitRelay
