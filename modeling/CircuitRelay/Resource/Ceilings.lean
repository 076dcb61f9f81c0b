import CircuitRelay.Resource.Amounts

/-!
# Ceilings for every kind of scope

Charges are counted in scopes: one for the whole node, one for connections whose peer is not known
yet, one for each peer, one for each protocol, and one inside each connection.  Ceilings depend on
the kind of scope only.  They grow with the memory budget above a floor, the file descriptors with
the descriptor budget instead, and an operator may replace any single one.
-/

namespace CircuitRelay

/-- The kinds of scopes. -/
inductive ScopeKind where
  | system
  | transient
  | peer
  | protocol
  | connection
  deriving DecidableEq, Repr

/-- The name of a kind of scope. -/
def ScopeKind.name : ScopeKind → String
  | .system => "system"
  | .transient => "transient"
  | .peer => "peer"
  | .protocol => "protocol"
  | .connection => "connection"

/-- Something for every kind of scope. -/
structure PerScope (α : Type) where
  /-- For the whole node. -/
  system : α
  /-- For connections without a known peer. -/
  transient : α
  peer : α
  protocol : α
  connection : α

namespace PerScope

variable {α β γ : Type}

/-- The entry of a kind of scope. -/
def get (p : PerScope α) : ScopeKind → α
  | .system => p.system
  | .transient => p.transient
  | .peer => p.peer
  | .protocol => p.protocol
  | .connection => p.connection

/-- The entries that a function gives. -/
def ofFn (f : ScopeKind → α) : PerScope α :=
  ⟨f .system, f .transient, f .peer, f .protocol, f .connection⟩

@[simp] theorem get_ofFn (f : ScopeKind → α) (k : ScopeKind) : (ofFn f).get k = f k := by
  cases k <;> rfl

end PerScope

/-- The ceilings of every kind of scope. -/
abbrev Ceilings := PerScope Amounts

/-- No ceiling anywhere. -/
def Ceilings.unlimited : Ceilings := .ofFn fun _ => .unlimited

/-- Ceilings that an operator set; a resource without one keeps its computed ceiling. -/
structure Overrides where
  memory : Option Nat
  fds : Option Nat
  connsInbound : Option Nat
  connsOutbound : Option Nat
  conns : Option Nat
  streamsInbound : Option Nat
  streamsOutbound : Option Nat
  streams : Option Nat
  deriving DecidableEq, Repr

namespace Overrides

/-- The set ceiling of a resource. -/
def get (o : Overrides) : Resource → Option Nat
  | .memory => o.memory
  | .fds => o.fds
  | .connsInbound => o.connsInbound
  | .connsOutbound => o.connsOutbound
  | .conns => o.conns
  | .streamsInbound => o.streamsInbound
  | .streamsOutbound => o.streamsOutbound
  | .streams => o.streams

/-- The overrides that a function gives. -/
def ofFn (f : Resource → Option Nat) : Overrides where
  memory := f .memory
  fds := f .fds
  connsInbound := f .connsInbound
  connsOutbound := f .connsOutbound
  conns := f .conns
  streamsInbound := f .streamsInbound
  streamsOutbound := f .streamsOutbound
  streams := f .streams

@[simp] theorem get_ofFn (f : Resource → Option Nat) (r : Resource) : (ofFn f).get r = f r := by
  cases r <;> rfl

/-- No override. -/
def none : Overrides := ofFn fun _ => Option.none

instance : Inhabited Overrides := ⟨none⟩

/-- Replaces every ceiling that is set. -/
def apply (o : Overrides) (ceiling : Amounts) : Amounts :=
  .ofFn fun r => (o.get r).getD (ceiling.get r)

end Overrides

/-- How the ceilings of one kind of scope grow. -/
structure Growth where
  /-- The ceilings at the smallest memory budget. -/
  base : Amounts
  /-- What a further gibibyte of memory budget adds. -/
  perGib : Amounts
  /-- The part of the descriptor budget that is added to the file descriptors. -/
  fdShare : Float

namespace Growth

/-- One mebibyte. -/
def mib : Nat := 2 ^ 20

/-- One gibibyte. -/
def gib : Nat := 2 ^ 30

/-- The memory budget up to which nothing grows. -/
def minMemory : Nat := 128 * mib

/-- The largest amount as a word. -/
def maxWord : UInt64 := .ofNat Resource.maxAmount

/-- The sum of two words, held back at the largest one. -/
def addSaturating (a b : UInt64) : UInt64 := if a + b < a then maxWord else a + b

/-- The difference of two words, held back at zero. -/
def subSaturating (a b : UInt64) : UInt64 := if a < b then 0 else a - b

/-- A word as a double word. -/
def widen (n : UInt64) : BitVec 128 := n.toBitVec.setWidth 128

/-- A double word as a word, held back at the largest one. -/
def narrow (n : BitVec 128) : UInt64 :=
  if n ≤ widen maxWord then .ofBitVec (n.setWidth 64) else maxWord

/-- The part of a memory budget from which ceilings grow. -/
def extra (memory : Nat) : UInt64 := subSaturating (.ofNat memory) (.ofNat minMemory)

/-- What a memory budget adds to the ceiling of a resource, in gibibytes.  A word has no room for
the product. -/
def product (g : Growth) (memory : Nat) (r : Resource) : BitVec 128 :=
  widen (.ofNat (g.perGib.get r)) * widen (extra memory)

/-- What a memory budget adds to the ceiling of a resource. -/
def grown (g : Growth) (memory : Nat) (r : Resource) : UInt64 :=
  narrow (g.product memory r / widen (.ofNat gib))

/-- The ceiling of a resource at a memory budget. -/
def ceilingAt (g : Growth) (memory : Nat) (r : Resource) : Nat :=
  (addSaturating (.ofNat (g.base.get r)) (g.grown memory r)).toNat

/-- The part of a descriptor budget that a share comes to, rounded down. -/
def fdPart (share : Float) (fds : Nat) : UInt64 := (share * (UInt64.ofNat fds).toFloat).toUInt64

/-- The ceilings at the given budgets. -/
def scale (g : Growth) (memory fds : Nat) : Amounts :=
  .ofFn fun r =>
    if r = .fds then (addSaturating (.ofNat g.base.fds) (fdPart g.fdShare fds)).toNat
    else g.ceilingAt memory r

/-- Ceilings in the order memory, descriptors, connections, streams; connections and streams as
inbound, outbound and both. -/
def amounts (memory fds : Nat) (conns streams : Nat × Nat × Nat) : Amounts where
  memory := memory
  fds := fds
  connsInbound := conns.1
  connsOutbound := conns.2.1
  conns := conns.2.2
  streamsInbound := streams.1
  streamsOutbound := streams.2.1
  streams := streams.2.2

/-- The growth of a node without settings. -/
def standard : PerScope Growth where
  system :=
    { base := amounts (128 * mib) 0 (64, 128, 128) (2048, 4096, 4096)
      perGib := amounts gib 0 (64, 128, 128) (2048, 4096, 4096)
      fdShare := 1 }
  transient :=
    { base := amounts (32 * mib) 0 (32, 64, 64) (128, 256, 256)
      perGib := amounts (128 * mib) 0 (16, 32, 32) (128, 256, 256)
      fdShare := 0.25 }
  peer :=
    { base := amounts (64 * mib) 4 (8, 8, 8) (256, 512, 512)
      perGib := amounts (128 * mib) 0 (0, 0, 0) (128, 256, 256)
      fdShare := 0.015625 }
  protocol :=
    { base := amounts (64 * mib) Resource.maxAmount
        (Resource.maxAmount, Resource.maxAmount, Resource.maxAmount) (512, 2048, 2048)
      perGib := amounts (128 * mib) 0 (0, 0, 0) (256, 512, 512)
      fdShare := 0 }
  connection :=
    { base := amounts (32 * mib) 1 (1, 1, 1) (256, 256, 256)
      perGib := amounts 0 0 (0, 0, 0) (0, 0, 0)
      fdShare := 0 }

end Growth

/-- What decides the ceilings of a node. -/
structure ResourcePlan where
  /-- The memory budget, unless it follows from the host's memory. -/
  maxMemory : Option Nat
  /-- The descriptor budget, unless it is the usual one. -/
  maxFds : Option Nat
  growth : PerScope Growth
  /-- What an operator set. -/
  overrides : PerScope Overrides

namespace ResourcePlan

/-- The descriptor budget of a node without settings. -/
def standardFds : Nat := 4096

/-- The plan of a node without settings. -/
def standard : ResourcePlan := ⟨none, none, Growth.standard, .ofFn fun _ => .none⟩

/-- The memory budget on a host: an eighth of its memory, unless one is set. -/
def memoryBudget (p : ResourcePlan) (totalMemory : Nat) : Nat :=
  p.maxMemory.getD (max (totalMemory / 8) Growth.minMemory)

/-- The descriptor budget. -/
def fdBudget (p : ResourcePlan) : Nat := p.maxFds.getD standardFds

/-- The ceilings on a host with so much memory. -/
def resolve (p : ResourcePlan) (totalMemory : Nat) : Ceilings :=
  .ofFn fun k =>
    (p.overrides.get k).apply ((p.growth.get k).scale (p.memoryBudget totalMemory) p.fdBudget)

end ResourcePlan

end CircuitRelay
