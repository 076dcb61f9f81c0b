import CircuitRelay.Address.Listen
import CircuitRelay.Address.Text
import CircuitRelay.Connection.Closing
import CircuitRelay.Disclosure
import CircuitRelay.Metrics
import CircuitRelay.Routing.Session

/-!
# The host

The host holds every component of a node: the connection manager with its queue, the resource
manager, the disclosure of addresses, the overlay and joining it, and the relay once it is enabled.
Each component is the only owner of its state; the relay works on the managers of the host, so a
step of the relay takes them out and puts them back.

Addresses that the node discloses are external addresses of its swarm.  That set only changes by
the differences that the disclosure reports.
-/

namespace CircuitRelay

/-- What a host is built from. -/
structure HostSettings where
  /-- The addresses to listen on. -/
  listen : List Address
  /-- How announced addresses follow from those listened on. -/
  disclosure : Disclosure.Policy
  /-- The marks of the connection manager. -/
  watermarks : Except Watermarks.Fault Watermarks
  /-- The ceilings of the resource manager. -/
  ceilings : Ceilings
  /-- How the node joins the overlay. -/
  routing : RoutingSettings

/-- A node. -/
structure Host where
  localPeer : PeerId
  connections : ClosingQueue
  resources : ResourceManager
  disclosure : Disclosure
  /-- The external addresses of the swarm. -/
  external : List Address
  /-- How the node joins the overlay. -/
  routingSettings : RoutingSettings
  /-- The node's view of the overlay. -/
  overlay : Overlay
  /-- Joining the overlay, once it was started. -/
  routing : Option Routing
  /-- The relay, once it was enabled. -/
  relay : Option (AccessControl × RelayGate)
  /-- The disclosed addresses as last told to the operator. -/
  reported : Option (List Address)
  /-- Whether the host has stopped. -/
  stopped : Bool

namespace Host

/-- Why a host cannot start, or one of its components cannot. -/
inductive Fault where
  | watermarks (fault : Watermarks.Fault)
  | listen (address : Address)
  | seed (fault : Seed.Fault)
  | relay (fault : RelaySwitch.Fault)
  deriving DecidableEq

/-- The words for a fault. -/
def Fault.message : Fault → String
  | .watermarks f => "invalid connection manager: " ++ f.message
  | .listen a => "failed to listen on " ++ a.toText ++ ": Multiaddr is not supported: " ++ a.toText
  | .seed f => "invalid bootstrap peers: " ++ f.message
  | .relay f => f.message

/-- Builds a host. -/
def build (localPeer : PeerId) (s : HostSettings) : Except Fault Host :=
  match s.watermarks with
  | .error f => .error (.watermarks f)
  | .ok marks =>
    match s.listen.find? fun a => !a.isListenable with
    | some a => .error (.listen a)
    | none =>
      .ok {
        localPeer := localPeer
        connections := .ofMarks marks
        resources := .ofCeilings s.ceilings
        disclosure := .ofPolicy s.disclosure
        external := []
        routingSettings := s.routing
        overlay := .ofPeer localPeer
        routing := none
        relay := none
        reported := none
        stopped := false }

/-! ## Components -/

/-- The relay with the managers it works on. -/
def relay? (h : Host) : Option Relay :=
  h.relay.map fun (access, gate) => ⟨access, h.connections.manager, h.resources, gate⟩

/-- Puts a relay and its managers back. -/
def putRelay (h : Host) (r : Relay) : Host :=
  { h with
    relay := some (r.access, r.gate)
    connections := { h.connections with manager := r.connections }
    resources := r.resources }

/-- A step of the relay, if it is enabled. -/
def stepRelay {α : Type} (h : Host) (f : Relay → α × Relay) : Option α × Host :=
  match h.relay? with
  | none => (none, h)
  | some r =>
    let (a, r) := f r
    (some a, h.putRelay r)

/-- Changes the relay, if it is enabled. -/
def mapRelay (h : Host) (f : Relay → Relay) : Host := (h.stepRelay fun r => ((), f r)).2

/-- Changes joining the overlay, if it was started. -/
def mapRouting (h : Host) (f : Routing → Routing) : Host := { h with routing := h.routing.map f }

/-- Changes joining the overlay and the overlay itself, if it was started. -/
def stepRouting (h : Host) (f : Routing → Overlay → Routing × Overlay) : Host :=
  match h.routing with
  | none => h
  | some r =>
    let (r, o) := f r h.overlay
    { h with routing := some r, overlay := o }

/-- Starts joining the overlay; it is started only once. -/
def startRouting (h : Host) (now : Instant) : Except Fault Host :=
  match h.routing with
  | some _ => .ok h
  | none =>
    match Routing.ofSettings h.routingSettings with
    | .error f => .error (.seed f)
    | .ok r => .ok ({ h with routing := some r }.stepRouting fun r o => r.start o now)

/-- Enables the relay under an access list; the answer says whether it is switched on at all. -/
def enableRelay (h : Host) (switch : RelaySwitch) (list : AccessList) :
    Except Fault (Bool × Host) :=
  if switch.enabled = false then .ok (false, h)
  else if h.relay.isSome then .error (.relay .alreadyEnabled)
  else
    match Relay.start switch list h.connections.manager h.resources with
    | .error f => .error (.relay f)
    | .ok r => .ok (true, h.putRelay r)

/-! ## Disclosure -/

/-- Carries a change of the disclosed addresses over to the swarm. -/
def publish (h : Host) (c : Disclosure.Change) : Host :=
  { h with external := c.added.foldl pushNew (h.external.filter fun a => !c.removed.contains a) }

/-- A transport started to listen on an address. -/
def addListen (h : Host) (a : Address) : Host :=
  let (change, d) := h.disclosure.add a
  { h with disclosure := d }.publish change

/-- A transport stopped listening on an address. -/
def removeListen (h : Host) (a : Address) : Host :=
  let (change, d) := h.disclosure.remove a
  { h with disclosure := d }.publish change

/-- Tells the operator the disclosed addresses, unless they are as told before. -/
def report (h : Host) : List String × Host :=
  let announced := h.disclosure.announced
  if h.reported = some announced then ([], h)
  else
    ("Public Addresses:" ::
      announced.map fun a => "\t" ++ a.toText ++ "/p2p/" ++ h.localPeer.toText,
      { h with reported := some announced })

/-! ## Life -/

/-- Housekeeping at a time. -/
def tick (h : Host) (now : Instant) : Host :=
  let (_, connections) := h.connections.trim now
  let (_, resources) := h.resources.collect
  let cleaned := { h with connections := connections, resources := resources }
  let expired := cleaned.mapRelay fun r => (r.expirePending now).2
  expired.stepRouting fun r o => r.tick o now

/-- Stops the relay, joining, and both managers, in this order; it is done only once. -/
def stop (h : Host) : Host :=
  if h.stopped then h
  else
    let ended := ({ h with stopped := true }.mapRelay .stop).mapRouting .stop
    { ended with
      connections := { ended.connections with manager := ended.connections.manager.close }
      resources := ended.resources.close }

/-- The start of running: fixed addresses are disclosed, and the operator is told who this is. -/
def introduce (h : Host) : List String × Host :=
  let published := h.publish ⟨h.disclosure.announced, []⟩
  let greeting := "I am " ++ h.localPeer.toText
  if h.disclosure.policy.isFixed then
    let (lines, reported) := published.report
    (greeting :: lines, reported)
  else ([greeting], published)

/-- Runs a host that is told to stop before anything happens. -/
def runToEnd (h : Host) : List String × Host :=
  let (lines, running) := h.introduce
  (lines, running.stop)

/-- The numbers of a host. -/
def metrics (h : Host) : List Metric :=
  h.connections.manager.metrics ++ h.resources.metrics ++
    (match h.relay with
      | some (access, gate) => access.metrics ++ gate.metrics
      | none => []) ++
    (match h.routing with
      | some r => r.bootstrap.metrics
      | none => [])

end Host

end CircuitRelay
