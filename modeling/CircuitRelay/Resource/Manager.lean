import CircuitRelay.Resource.Ceilings
import CircuitRelay.Tally

/-!
# The resource manager

Every connection and every stream is charged to a chain of scopes: a connection to its own scope,
to the transient scope and to the system, a stream to its peer, its protocol and the system.  A
charge goes through the chain in order; the first scope without room refuses it, and the scopes
before that one give back what they were charged.  Once the peer of a connection is known, its
charge moves from the transient scope to the peer's.

What a charge took is held by a guard, and releasing the guard gives it back.  Scopes of peers and
protocols are created when they are first named, also by a charge that is refused; `collect`
drops the ones on which nothing is charged, which are exactly those that no guard is charged to,
because a guard charges at least one connection or one stream.
-/

namespace CircuitRelay

/-- A scope that lives in the manager. -/
inductive ScopeName where
  | system
  | transient
  | peer (peer : PeerId)
  | protocol (name : String)
  deriving DecidableEq, Repr

/-- The kind of a scope. -/
def ScopeName.kind : ScopeName → ScopeKind
  | .system => .system
  | .transient => .transient
  | .peer _ => .peer
  | .protocol _ => .protocol

/-- Why a charge was refused. -/
inductive Refusal where
  /-- A scope of this kind lacks room for this resource. -/
  | exceeded (kind : ScopeKind) (resource : Resource)
  | closed
  deriving DecidableEq, Repr

/-- The words for a refusal. -/
def Refusal.message : Refusal → String
  | .exceeded kind resource => kind.name ++ " scope limit exceeded for " ++ resource.name
  | .closed => "resource manager closed"

/-- What a connection took. -/
structure ConnectionGuard where
  amount : Amounts
  /-- The peer, once it is known. -/
  peer : Option PeerId
  deriving DecidableEq, Repr

/-- What a stream took. -/
structure StreamGuard where
  amount : Amounts
  /-- The peer of the stream. -/
  peer : PeerId
  /-- The protocol of the stream. -/
  protocol : String
  deriving DecidableEq, Repr

/-- The scopes that a connection is charged to, besides its own. -/
def ConnectionGuard.scopes (g : ConnectionGuard) : List ScopeName :=
  match g.peer with
  | none => [.transient, .system]
  | some p => [.peer p, .system]

/-- The scopes that a stream is charged to. -/
def StreamGuard.scopes (g : StreamGuard) : List ScopeName :=
  [.peer g.peer, .protocol g.protocol, .system]

/-- The state of the resource manager. -/
structure ResourceManager where
  ceilings : Ceilings
  /-- Whether all new charges are refused. -/
  closed : Bool
  /-- What is charged to the whole node. -/
  system : Amounts
  /-- What connections without a known peer are charged. -/
  transient : Amounts
  /-- What is charged to each named peer. -/
  peers : Table PeerId Amounts
  /-- What is charged to each named protocol. -/
  protocols : Table String Amounts
  /-- How often each resource of each kind of scope refused a charge. -/
  blocked : Tally (ScopeKind × Resource)

namespace ResourceManager

/-- The manager before the first charge. -/
def ofCeilings (ceilings : Ceilings) : ResourceManager :=
  ⟨ceilings, false, .zero, .zero, .empty, .empty, .empty⟩

/-- The usage of a scope, if it exists. -/
def usage? (m : ResourceManager) : ScopeName → Option Amounts
  | .system => some m.system
  | .transient => some m.transient
  | .peer p => m.peers.get? p
  | .protocol q => m.protocols.get? q

/-- The usage of a scope, zero if it does not exist. -/
def usage (m : ResourceManager) (s : ScopeName) : Amounts := (m.usage? s).getD .zero

/-- Replaces the usage of a scope, creating the scope if it does not exist. -/
def setUsage (m : ResourceManager) (s : ScopeName) (a : Amounts) : ResourceManager :=
  match s with
  | .system => { m with system := a }
  | .transient => { m with transient := a }
  | .peer p => { m with peers := m.peers.insert p a }
  | .protocol q => { m with protocols := m.protocols.insert q a }

/-- Creates a scope unless it exists. -/
def touch (m : ResourceManager) (s : ScopeName) : ResourceManager := m.setUsage s (m.usage s)

/-- Charges one scope, all or nothing; the answer is the first resource that lacks room. -/
def charge (amount : Amounts) (m : ResourceManager) (s : ScopeName) :
    Option Resource × ResourceManager :=
  let (lacking, used) := (m.usage s).take (m.ceilings.get s.kind) amount
  (lacking, m.setUsage s used)

/-- Gives a charge back to one scope. -/
def discharge (amount : Amounts) (m : ResourceManager) (s : ScopeName) : ResourceManager :=
  match m.usage? s with
  | none => m
  | some a => m.setUsage s (a.release amount)

/-- Gives a charge back to a chain of scopes. -/
def dischargeAll (amount : Amounts) (m : ResourceManager) (chain : List ScopeName) :
    ResourceManager :=
  chain.foldl (discharge amount) m

/-- Counts a refusal for lack of room. -/
def recordRefusal (m : ResourceManager) (kind : ScopeKind) (r : Resource) : ResourceManager :=
  { m with blocked := m.blocked.record (kind, r) }

/-- Charges a chain of scopes in order; `charged` are the scopes charged so far.  The first scope
without room discharges all of them and refuses. -/
def chargeChain (amount : Amounts) (charged : List ScopeName) (m : ResourceManager) :
    List ScopeName → Except Refusal Unit × ResourceManager
  | [] => (.ok (), m)
  | s :: rest =>
    match m.charge amount s with
    | (none, m) => chargeChain amount (charged ++ [s]) m rest
    | (some r, m) =>
      (.error (.exceeded s.kind r), (m.dischargeAll amount charged).recordRefusal s.kind r)

/-- Charges a chain of scopes unless the manager was closed. -/
def chargeAll (amount : Amounts) (m : ResourceManager) (chain : List ScopeName) :
    Except Refusal Unit × ResourceManager :=
  if m.closed then (.error .closed, m) else m.chargeChain amount [] chain

/-- Charges a new connection to its own scope, the transient scope and the system. -/
def openConnection (m : ResourceManager) (direction : Direction) (usesFd : Bool) :
    Except Refusal ConnectionGuard × ResourceManager :=
  let guard : ConnectionGuard := ⟨.connection direction usesFd, none⟩
  if m.closed then (.error .closed, m)
  else
    match (Amounts.zero.take m.ceilings.connection guard.amount).1 with
    | some r => (.error (.exceeded .connection r), m.recordRefusal .connection r)
    | none => (m.chargeChain guard.amount [] guard.scopes).map (·.map fun _ => guard) id

/-- Charges a new stream to its peer, its protocol and the system. -/
def reserveStream (m : ResourceManager) (peer : PeerId) (protocol : String)
    (direction : Direction) (memory : Nat) : Except Refusal StreamGuard × ResourceManager :=
  let guard : StreamGuard := ⟨.stream direction memory, peer, protocol⟩
  let named := (m.touch (.peer peer)).touch (.protocol protocol)
  (named.chargeAll guard.amount guard.scopes).map (·.map fun _ => guard) id

/-- Moves the charge of a connection from the transient scope to its peer's.  A connection keeps
the first peer that it was given. -/
def assignPeer (m : ResourceManager) (g : ConnectionGuard) (peer : PeerId) :
    Except Refusal ConnectionGuard × ResourceManager :=
  match g.peer with
  | some _ => (.ok g, m)
  | none =>
    match (m.touch (.peer peer)).charge g.amount (.peer peer) with
    | (some r, m) => (.error (.exceeded .peer r), m.recordRefusal .peer r)
    | (none, m) => (.ok { g with peer := some peer }, m.discharge g.amount .transient)

/-- Gives back what a connection took. -/
def releaseConnection (m : ResourceManager) (g : ConnectionGuard) : ResourceManager :=
  m.dischargeAll g.amount g.scopes

/-- Gives back what a stream took. -/
def releaseStream (m : ResourceManager) (g : StreamGuard) : ResourceManager :=
  m.dischargeAll g.amount g.scopes

/-- Drops the scopes of peers and protocols on which nothing is charged; the answer is their
number. -/
def collect (m : ResourceManager) : Nat × ResourceManager :=
  let peers := m.peers.filter fun _ a => !a.isZero
  let protocols := m.protocols.filter fun _ a => !a.isZero
  (m.peers.size + m.protocols.size - (peers.size + protocols.size),
    { m with peers := peers, protocols := protocols })

/-- Refuses all new charges from now on. -/
def close (m : ResourceManager) : ResourceManager := { m with closed := true }

end ResourceManager

end CircuitRelay
