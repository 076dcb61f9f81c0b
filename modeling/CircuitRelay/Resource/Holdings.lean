import CircuitRelay.Resource.Manager

/-!
# A resource manager with its live guards

Holders of guards keep them under names.  `Holdings` is a manager together with every guard that
is alive, so that what the scopes count can be compared with what the guards took.  A new guard
under a name in use is acquired before the old one is released.
-/

namespace CircuitRelay

/-- A live guard. -/
inductive Guard where
  | connection (guard : ConnectionGuard)
  | stream (guard : StreamGuard)
  deriving DecidableEq, Repr

namespace Guard

/-- What the guard took. -/
def amount : Guard → Amounts
  | .connection g => g.amount
  | .stream g => g.amount

/-- The scopes that the guard is charged to. -/
def scopes : Guard → List ScopeName
  | .connection g => g.scopes
  | .stream g => g.scopes

/-- What the guard takes of a scope. -/
def takes (g : Guard) (s : ScopeName) : Amounts := if s ∈ g.scopes then g.amount else .zero

end Guard

/-- A manager with its live guards, each under its name. -/
structure Holdings (ν : Type) where
  manager : ResourceManager
  guards : Table ν Guard

namespace Holdings

variable {ν : Type} [DecidableEq ν]

/-- The start without guards. -/
def ofCeilings (ceilings : Ceilings) : Holdings ν := ⟨.ofCeilings ceilings, .empty⟩

/-- Releases a guard in a manager. -/
def releaseIn (m : ResourceManager) (g : Guard) : ResourceManager :=
  m.dischargeAll g.amount g.scopes

/-- Keeps a new guard under a name and releases the one it replaces. -/
def keep (h : Holdings ν) (name : ν) (g : Guard) : Holdings ν :=
  match h.guards.get? name with
  | none => { h with guards := h.guards.insert name g }
  | some old => ⟨releaseIn h.manager old, h.guards.insert name g⟩

/-- Charges a new connection and keeps its guard. -/
def openConnection (h : Holdings ν) (name : ν) (direction : Direction) (usesFd : Bool) :
    Except Refusal Unit × Holdings ν :=
  match h.manager.openConnection direction usesFd with
  | (.ok g, m) => (.ok (), { h with manager := m }.keep name (.connection g))
  | (.error e, m) => (.error e, { h with manager := m })

/-- Charges a new stream and keeps its guard; the answer is what it took. -/
def reserveStream (h : Holdings ν) (name : ν) (peer : PeerId) (protocol : String)
    (direction : Direction) (memory : Nat) : Except Refusal Amounts × Holdings ν :=
  match h.manager.reserveStream peer protocol direction memory with
  | (.ok g, m) => (.ok g.amount, { h with manager := m }.keep name (.stream g))
  | (.error e, m) => (.error e, { h with manager := m })

/-- The connection guard of a name. -/
def connection? (h : Holdings ν) (name : ν) : Option ConnectionGuard :=
  match h.guards.get? name with
  | some (.connection g) => some g
  | _ => none

/-- Gives the connection of a name its peer; the answer is the connection's peer afterwards, and
`none` stands for no such connection. -/
def assignPeer (h : Holdings ν) (name : ν) (peer : PeerId) :
    Option (Except Refusal (Option PeerId)) × Holdings ν :=
  match h.connection? name with
  | none => (none, h)
  | some g =>
    match h.manager.assignPeer g peer with
    | (.ok g, m) => (some (.ok g.peer), ⟨m, h.guards.insert name (.connection g)⟩)
    | (.error e, m) => (some (.error e), { h with manager := m })

/-- Releases the guard of a name; the answer is that guard. -/
def drop (h : Holdings ν) (name : ν) : Option Guard × Holdings ν :=
  match h.guards.get? name with
  | none => (none, h)
  | some g => (some g, ⟨releaseIn h.manager g, h.guards.erase name⟩)

/-- Drops the idle scopes of the manager. -/
def collect (h : Holdings ν) : Nat × Holdings ν :=
  let (n, m) := h.manager.collect
  (n, { h with manager := m })

/-- Closes the manager. -/
def close (h : Holdings ν) : Holdings ν := { h with manager := h.manager.close }

end Holdings

end CircuitRelay
