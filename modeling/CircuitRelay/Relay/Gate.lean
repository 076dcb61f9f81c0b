import CircuitRelay.Access.Control
import CircuitRelay.Connection.Manager
import CircuitRelay.Relay.Settings
import CircuitRelay.Resource.Manager

/-!
# The admission gate of the relay

The relay protocol asks once, when a request arrives, whether it may go on, and reports the
outcome later as an event.  The gate charges the request when it is asked and keeps the charge as
a pending permit.  An accepting event turns the permit into a held one, a failing event releases
it; permits that no event resolves expire.

Permits of one peer are interchangeable: events resolve them in the order of arrival.  Only events
that can follow an admitted request release a pending permit:

* a reservation that was admitted is always accepted, or fails while the acceptance is sent, so a
  denied reservation never owns a permit;
* a circuit denied because a resource limit was exceeded was refused before or at the gate, so it
  owns no permit either.

A peer that holds a reservation is protected from pruning under the tag `protectionTag`.
-/

namespace CircuitRelay

/-- A charge that the gate keeps for a request. -/
structure Permit where
  /-- The source IP address of the request. -/
  ip : Option Ip
  /-- When the request was admitted. -/
  created : Instant
  /-- What the request took. -/
  guard : StreamGuard
  deriving DecidableEq, Repr

/-- Why the gate refuses a request. -/
inductive Rejection where
  | closed
  | access
  | perIp (ip : Ip)
  | resources (refusal : Refusal)
  deriving DecidableEq, Repr

/-- The words for a rejection. -/
def Rejection.message : Rejection → String
  | .closed => "relay service stopped"
  | .access => "denied by ACL"
  | .perIp ip => "too many reservations from " ++ ip.toText
  | .resources r => r.message

/-- What became of requests, as far as it is counted. -/
inductive RelayOutcome where
  | accepted
  | renewed
  | failed
  | denied
  | ended
  | closed
  /-- The gate refused because the relay had stopped. -/
  | refusedClosed
  | refusedAccess
  /-- The gate refused because of the source address. -/
  | refusedPerIp
  | refusedResources
  deriving DecidableEq, Repr

/-- The name of an outcome. -/
def RelayOutcome.name : RelayOutcome → String
  | .accepted => "accepted"
  | .renewed => "renewed"
  | .failed => "failed"
  | .denied => "denied"
  | .ended => "ended"
  | .closed => "closed"
  | .refusedClosed => "denied_closed"
  | .refusedAccess => "denied_acl"
  | .refusedPerIp => "denied_ip_limit"
  | .refusedResources => "denied_resources"

/-- The outcome that a rejection counts as. -/
def Rejection.outcome : Rejection → RelayOutcome
  | .closed => .refusedClosed
  | .access => .refusedAccess
  | .perIp _ => .refusedPerIp
  | .resources _ => .refusedResources

/-- Queues of permits under keys; no key keeps an empty queue. -/
abbrev PermitQueues (κ : Type) := Table κ (List Permit)

namespace PermitQueues

variable {κ : Type} [DecidableEq κ]

/-- The queue of a key. -/
def queue (q : PermitQueues κ) (k : κ) : List Permit := (q.get? k).getD []

/-- Replaces the queue of a key, dropping the key with an empty queue. -/
def setQueue (q : PermitQueues κ) (k : κ) (permits : List Permit) : PermitQueues κ :=
  if permits.isEmpty then q.erase k else q.insert k permits

/-- Appends a permit to the queue of a key. -/
def push (q : PermitQueues κ) (k : κ) (p : Permit) : PermitQueues κ :=
  q.setQueue k (q.queue k ++ [p])

/-- Takes the oldest permit of a key. -/
def takeOldest (q : PermitQueues κ) (k : κ) : Option Permit × PermitQueues κ :=
  match q.queue k with
  | [] => (none, q)
  | p :: rest => (some p, q.setQueue k rest)

/-- Takes the newest permit of a key. -/
def takeNewest (q : PermitQueues κ) (k : κ) : Option Permit × PermitQueues κ :=
  match (q.queue k).getLast? with
  | none => (none, q)
  | some p => (some p, q.setQueue k (q.queue k).dropLast)

/-- All permits, key by key. -/
def permits (q : PermitQueues κ) : List Permit := q.values.flatten

/-- The number of permits. -/
def count (q : PermitQueues κ) : Nat := q.permits.length

/-- The number of permits recorded with an address. -/
def countFrom (q : PermitQueues κ) (ip : Ip) : Nat := q.permits.countP fun p => p.ip = some ip

/-- Keeps the permits that pass a test; the answer is the permits that do not. -/
def retain (q : PermitQueues κ) (keep : Permit → Bool) : List Permit × PermitQueues κ :=
  (q.permits.filter fun p => !keep p,
    (q.mapValues fun _ l => l.filter keep).filter fun _ l => !l.isEmpty)

end PermitQueues

/-- The state of the gate itself. -/
structure RelayGate where
  settings : RelaySettings
  /-- Whether every request is refused. -/
  closed : Bool
  /-- Admitted reservations without an outcome. -/
  pendingReservations : PermitQueues PeerId
  /-- Held reservations, oldest first. -/
  reservations : PermitQueues PeerId
  /-- Admitted circuits without an outcome, by source. -/
  pendingCircuits : PermitQueues PeerId
  /-- Running circuits, by source and destination. -/
  circuits : PermitQueues (PeerId × PeerId)
  /-- What became of reservations. -/
  reservationOutcomes : Tally RelayOutcome
  /-- What became of circuits. -/
  circuitOutcomes : Tally RelayOutcome

namespace RelayGate

/-- The gate before the first request. -/
def ofSettings (settings : RelaySettings) : RelayGate :=
  ⟨settings, false, .empty, .empty, .empty, .empty, .empty, .empty⟩

/-- The number of held reservations. -/
def reservationCount (g : RelayGate) : Nat := g.reservations.count

/-- The number of running circuits. -/
def circuitCount (g : RelayGate) : Nat := g.circuits.count

/-- Reservations held or pending from an address.  One that the peer holds already is left out,
because the request may be its renewal. -/
def reservationsFrom (g : RelayGate) (ip : Ip) (peer : PeerId) : Nat :=
  let own := (g.reservations.queue peer).countP fun p => p.ip = some ip
  g.reservations.countFrom ip + g.pendingReservations.countFrom ip - min own 1

end RelayGate

/-- A relay with everything it stands on. -/
structure Relay where
  /-- Who may use it. -/
  access : AccessControl
  /-- The connections of the node. -/
  connections : ConnectionManager
  /-- The resources of the node. -/
  resources : ResourceManager
  gate : RelayGate

namespace Relay

/-- The tag under which peers with reservations are protected. -/
def protectionTag : String := "relay-reservation"

/-- The protocol to which relay requests are charged. -/
def hopProtocol : String := "/libp2p/circuit/relay/0.2.0/hop"

/-- How long a permit waits for its outcome. -/
def pendingTimeout : Duration := .ofSeconds 30

/-- Starts a relay, if it may start. -/
def start (switch : RelaySwitch) (list : AccessList) (connections : ConnectionManager)
    (resources : ResourceManager) : Except RelaySwitch.Fault Relay :=
  switch.check.map fun settings => ⟨.ofList list, connections, resources, .ofSettings settings⟩

/-! ## Helpers on the parts -/

/-- Changes the gate. -/
def mapGate (r : Relay) (f : RelayGate → RelayGate) : Relay := { r with gate := f r.gate }

/-- Counts an outcome of a reservation. -/
def recordReservation (r : Relay) (o : RelayOutcome) : Relay :=
  r.mapGate fun g => { g with reservationOutcomes := g.reservationOutcomes.record o }

/-- Counts an outcome of a circuit. -/
def recordCircuit (r : Relay) (o : RelayOutcome) : Relay :=
  r.mapGate fun g => { g with circuitOutcomes := g.circuitOutcomes.record o }

/-- Releases what permits took. -/
def releaseAll (r : Relay) (permits : List Permit) : Relay :=
  { r with resources := permits.foldl (fun m p => m.releaseStream p.guard) r.resources }

/-- Protects a peer from pruning. -/
def protect (r : Relay) (peer : PeerId) : Relay :=
  { r with connections := r.connections.protect peer protectionTag }

/-- Ends the protection of a peer. -/
def unprotect (r : Relay) (peer : PeerId) : Relay :=
  { r with connections := (r.connections.unprotect peer protectionTag).2 }

/-! ## Admission -/

/-- Asks the access list about a request. -/
def consult (r : Relay) (peer : PeerId) (request : RelayRequest) : Verdict × Relay :=
  let (result, access) := r.access.evaluate peer request (r.connections.peerConnections peer)
  (result.1, { r with access := access })

/-- Charges a request to its peer. -/
def chargeRequest (r : Relay) (peer : PeerId) (memory : Nat) (ip : Option Ip) (now : Instant) :
    Except Rejection Permit × Relay :=
  match r.resources.reserveStream peer hopProtocol .inbound memory with
  | (.error e, m) => (.error (.resources e), { r with resources := m })
  | (.ok guard, m) => (.ok ⟨ip, now, guard⟩, { r with resources := m })

/-- Checks a reservation: the relay must run, the access list allow it, its address be below the
limit, and every scope have room. -/
def checkReservation (r : Relay) (peer : PeerId) (source : Address) (now : Instant) :
    Except Rejection Permit × Relay :=
  if r.gate.closed then (.error .closed, r)
  else
    match r.consult peer (.reserve source) with
    | (.deny, r) => (.error .access, r)
    | (.allow, r) =>
      match source.ip? with
      | none => r.chargeRequest peer 0 none now
      | some ip =>
        if r.gate.settings.maxReservationsPerIp ≤ r.gate.reservationsFrom ip peer then
          (.error (.perIp ip), r)
        else r.chargeRequest peer 0 (some ip) now

/-- Checks a circuit: as for a reservation, without a limit on its address and with the memory of
its buffers. -/
def checkCircuit (r : Relay) (peer : PeerId) (source : Address) (now : Instant) :
    Except Rejection Permit × Relay :=
  if r.gate.closed then (.error .closed, r)
  else
    match r.consult peer (.connect source none) with
    | (.deny, r) => (.error .access, r)
    | (.allow, r) => r.chargeRequest peer r.gate.settings.circuitMemory source.ip? now

/-- Decides whether a peer may reserve. -/
def admitReservation (r : Relay) (peer : PeerId) (source : Address) (now : Instant) :
    Except Rejection Unit × Relay :=
  match r.checkReservation peer source now with
  | (.error e, r) => (.error e, r.recordReservation e.outcome)
  | (.ok permit, r) =>
    (.ok (), r.mapGate fun g =>
      { g with pendingReservations := g.pendingReservations.push peer permit })

/-- Decides whether a peer may open a circuit. -/
def admitCircuit (r : Relay) (peer : PeerId) (source : Address) (now : Instant) :
    Except Rejection Unit × Relay :=
  match r.checkCircuit peer source now with
  | (.error e, r) => (.error e, r.recordCircuit e.outcome)
  | (.ok permit, r) =>
    (.ok (), r.mapGate fun g => { g with pendingCircuits := g.pendingCircuits.push peer permit })

/-! ## Outcomes of reservations -/

/-- Takes the oldest pending reservation of a peer. -/
def takePendingReservation (r : Relay) (peer : PeerId) : Option Permit × Relay :=
  let (permit, queues) := r.gate.pendingReservations.takeOldest peer
  (permit, r.mapGate fun g => { g with pendingReservations := queues })

/-- Takes the oldest pending circuit of a peer. -/
def takePendingCircuit (r : Relay) (peer : PeerId) : Option Permit × Relay :=
  let (permit, queues) := r.gate.pendingCircuits.takeOldest peer
  (permit, r.mapGate fun g => { g with pendingCircuits := queues })

/-- Takes the oldest held reservation of a peer. -/
def takeReservation (r : Relay) (peer : PeerId) : Option Permit × Relay :=
  let (permit, queues) := r.gate.reservations.takeOldest peer
  (permit, r.mapGate fun g => { g with reservations := queues })

/-- Holds a permit as a reservation; a renewal replaces the oldest one. -/
def holdReservation (r : Relay) (peer : PeerId) (permit : Permit) (renewed : Bool) : Relay :=
  let (replaced, r) := if renewed then r.takeReservation peer else (none, r)
  (r.releaseAll replaced.toList).mapGate fun g =>
    { g with reservations := g.reservations.push peer permit }

/-- The relay accepted a reservation. -/
def reservationAccepted (r : Relay) (peer : PeerId) (renewed : Bool) : Relay :=
  let (permit, taken) := r.takePendingReservation peer
  if r.gate.closed then taken.releaseAll permit.toList
  else
    let held :=
      match permit with
      | some permit => taken.holdReservation peer permit renewed
      | none => taken
    (held.protect peer).recordReservation (if renewed then .renewed else .accepted)

/-- The relay could not send its acceptance. -/
def reservationFailed (r : Relay) (peer : PeerId) : Relay :=
  match r.takePendingReservation peer with
  | (none, r) => r
  | (some permit, r) => (r.releaseAll [permit]).recordReservation .failed

/-- The relay denied a reservation. -/
def reservationDenied (r : Relay) : Relay := r.recordReservation .denied

/-- A reservation ended; the last one of a peer takes its protection along. -/
def reservationEnded (r : Relay) (peer : PeerId) : Relay :=
  let (permit, taken) := r.takeReservation peer
  let released := taken.releaseAll permit.toList
  let counted := if permit.isSome then released.recordReservation .ended else released
  if (counted.gate.reservations.queue peer).isEmpty then counted.unprotect peer else counted

/-! ## Outcomes of circuits -/

/-- The relay accepted a circuit. -/
def circuitAccepted (r : Relay) (source destination : PeerId) : Relay :=
  let (permit, taken) := r.takePendingCircuit source
  let held :=
    match permit with
    | some permit => taken.mapGate fun g =>
        { g with circuits := g.circuits.push (source, destination) permit }
    | none => taken
  held.recordCircuit .accepted

/-- An admitted circuit could not be established. -/
def circuitFailed (r : Relay) (source : PeerId) : Relay :=
  let (permit, taken) := r.takePendingCircuit source
  taken.releaseAll permit.toList

/-- Why the relay denied a circuit. -/
inductive Status where
  | ok
  | reservationRefused
  /-- A limit was exceeded before or at the gate. -/
  | resourceLimitExceeded
  | permissionDenied
  | connectionFailed
  | noReservation
  | malformedMessage
  | unexpectedMessage
  deriving DecidableEq, Repr

/-- The relay denied a circuit. -/
def circuitDenied (r : Relay) (source : PeerId) (status : Status) : Relay :=
  let counted := r.recordCircuit .denied
  if status = .resourceLimitExceeded then counted else counted.circuitFailed source

/-- A circuit closed. -/
def circuitClosed (r : Relay) (source destination : PeerId) : Relay :=
  let (permit, queues) := r.gate.circuits.takeNewest (source, destination)
  let taken := r.mapGate fun g => { g with circuits := queues }
  (taken.releaseAll permit.toList).recordCircuit .closed

/-! ## Peers, time and the end -/

/-- All connections of a peer are gone: its pending permits and its reservations go too. -/
def peerDisconnected (r : Relay) (peer : PeerId) : Relay :=
  let g := r.gate
  let permits := g.pendingReservations.queue peer ++ g.pendingCircuits.queue peer ++
    g.reservations.queue peer
  let emptied := r.mapGate fun g =>
    { g with
      pendingReservations := g.pendingReservations.erase peer
      pendingCircuits := g.pendingCircuits.erase peer
      reservations := g.reservations.erase peer }
  let released := emptied.releaseAll permits
  if g.reservations.contains peer then released.unprotect peer else released

/-- Whether a pending permit may still wait. -/
def isFresh (now : Instant) (p : Permit) : Bool := now - p.created < pendingTimeout.nanos

/-- Releases the pending permits that waited too long; the answer is their number. -/
def expirePending (r : Relay) (now : Instant) : Nat × Relay :=
  let (oldReservations, pendingReservations) := r.gate.pendingReservations.retain (isFresh now)
  let (oldCircuits, pendingCircuits) := r.gate.pendingCircuits.retain (isFresh now)
  let expired := oldReservations ++ oldCircuits
  let kept := r.mapGate fun g =>
    { g with pendingReservations := pendingReservations, pendingCircuits := pendingCircuits }
  (expired.length, kept.releaseAll expired)

/-- Refuses every request from now on and releases every permit. -/
def stop (r : Relay) : Relay :=
  if r.gate.closed then r
  else
    let g := r.gate
    let permits := g.reservations.permits ++ g.pendingReservations.permits ++
      g.circuits.permits ++ g.pendingCircuits.permits
    let unprotected := g.reservations.keys.foldl unprotect r
    let emptied := unprotected.mapGate fun g =>
      { g with
        closed := true
        pendingReservations := .empty
        reservations := .empty
        pendingCircuits := .empty
        circuits := .empty }
    emptied.releaseAll permits

end Relay

end CircuitRelay
