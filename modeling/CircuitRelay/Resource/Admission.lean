import CircuitRelay.Address.Basic
import CircuitRelay.Resource.Manager

/-!
# Admitting connections

The swarm announces a connection before anything runs on it, names its peer once it is known, and
reports its end.  Each connection id holds at most one guard: announcing an id again acquires a
new guard and releases the old one, a connection that was never announced is charged when it is
established, and an id whose peer has no room loses its guard.
-/

namespace CircuitRelay

/-- A resource manager with the guards of the connections it admitted. -/
structure ConnectionAdmission where
  manager : ResourceManager
  /-- The guard of each connection. -/
  guards : Table ConnectionId ConnectionGuard

namespace ConnectionAdmission

/-- The start without connections. -/
def ofCeilings (ceilings : Ceilings) : ConnectionAdmission := ⟨.ofCeilings ceilings, .empty⟩

/-- Whether a connection to an address holds a socket of its own; a relayed one does not. -/
def usesFd (a : Address) : Bool := !a.isRelayed

/-- Whether dialing these addresses may open a socket. -/
def dialUsesFd (addresses : List Address) : Bool :=
  addresses.isEmpty || addresses.any usesFd

/-- Releases the guard of a connection. -/
def release (a : ConnectionAdmission) (id : ConnectionId) : ConnectionAdmission :=
  match a.guards.get? id with
  | none => a
  | some g => ⟨a.manager.releaseConnection g, a.guards.erase id⟩

/-- Charges a connection and keeps its guard, releasing the one it replaces. -/
def «open» (a : ConnectionAdmission) (id : ConnectionId) (direction : Direction) (usesFd : Bool) :
    Except Refusal Unit × ConnectionAdmission :=
  match a.manager.openConnection direction usesFd with
  | (.error e, m) => (.error e, { a with manager := m })
  | (.ok g, m) =>
    match a.guards.get? id with
    | none => (.ok (), ⟨m, a.guards.insert id g⟩)
    | some old => (.ok (), ⟨m.releaseConnection old, a.guards.insert id g⟩)

/-- A remote peer connects from an address. -/
def pendingInbound (a : ConnectionAdmission) (id : ConnectionId) (remote : Address) :
    Except Refusal Unit × ConnectionAdmission :=
  a.open id .inbound (usesFd remote)

/-- This node dials some addresses. -/
def pendingOutbound (a : ConnectionAdmission) (id : ConnectionId) (addresses : List Address) :
    Except Refusal Unit × ConnectionAdmission :=
  a.open id .outbound (dialUsesFd addresses)

/-- Gives a charged connection its peer; it loses its guard when the peer has no room. -/
def assign (a : ConnectionAdmission) (id : ConnectionId) (peer : PeerId) :
    Except Refusal Unit × ConnectionAdmission :=
  match a.guards.get? id with
  | none => (.ok (), a)
  | some g =>
    match a.manager.assignPeer g peer with
    | (.ok g, m) => (.ok (), ⟨m, a.guards.insert id g⟩)
    | (.error e, m) => (.error e, { a with manager := m }.release id)

/-- A connection is established with a peer. -/
def establish (a : ConnectionAdmission) (id : ConnectionId) (peer : PeerId)
    (direction : Direction) (remote : Address) : Except Refusal Unit × ConnectionAdmission :=
  if a.guards.contains id then a.assign id peer
  else
    match a.open id direction (usesFd remote) with
    | (.error e, a) => (.error e, a)
    | (.ok _, a) => a.assign id peer

/-- Drops the idle scopes of the manager. -/
def collect (a : ConnectionAdmission) : Nat × ConnectionAdmission :=
  let (n, m) := a.manager.collect
  (n, { a with manager := m })

/-- Closes the manager. -/
def close (a : ConnectionAdmission) : ConnectionAdmission :=
  { a with manager := a.manager.close }

end ConnectionAdmission

end CircuitRelay
