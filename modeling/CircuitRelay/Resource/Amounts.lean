import CircuitRelay.Connection.Basic

/-!
# Amounts of resources

Eight resources are counted.  `Amounts` holds one number for each, and serves as a usage, as a
charge and as a list of ceilings.  Every operation works resource by resource: `get_ofFn` turns a
statement about amounts into one about numbers, and `ext_get` turns it back.

A usage counts in 64-bit words.  Taking a charge checks every resource against its ceiling and the
range of a word, and gives back what it took when one of them has no room; giving back does not
check anything.
-/

namespace CircuitRelay

/-- A counted resource. -/
inductive Resource where
  | memory
  | fds
  | connsInbound
  | connsOutbound
  | conns
  | streamsInbound
  | streamsOutbound
  | streams
  deriving DecidableEq, Repr

namespace Resource

/-- Every resource, in the order in which they are charged. -/
def all : List Resource :=
  [.memory, .fds, .connsInbound, .connsOutbound, .conns, .streamsInbound, .streamsOutbound,
    .streams]

theorem mem_all (r : Resource) : r ∈ all := by cases r <;> decide

/-- The name of a resource. -/
def name : Resource → String
  | .memory => "memory"
  | .fds => "fds"
  | .connsInbound => "conns_inbound"
  | .connsOutbound => "conns_outbound"
  | .conns => "conns"
  | .streamsInbound => "streams_inbound"
  | .streamsOutbound => "streams_outbound"
  | .streams => "streams"

/-- The largest amount that is ever counted or allowed. -/
def maxAmount : Nat := 2 ^ 64 - 1

/-- A counter with an amount taken off.  Counters are 64-bit words, so one that counts less than
the amount wraps. -/
def lower (used amount : Nat) : Nat := (UInt64.ofNat used - UInt64.ofNat amount).toNat

/-- A counter that counts at least the amount does not wrap. -/
theorem lower_of_le {used amount : Nat} (h : amount ≤ used) (hused : used ≤ maxAmount) :
    lower used amount = used - amount := by
  unfold maxAmount at hused
  have hu : (UInt64.ofNat used).toNat = used :=
    UInt64.toNat_ofNat_of_lt' (by rw [UInt64.size]; omega)
  have ha : (UInt64.ofNat amount).toNat = amount :=
    UInt64.toNat_ofNat_of_lt' (by rw [UInt64.size]; omega)
  have hle : UInt64.ofNat amount ≤ UInt64.ofNat used := by
    rw [UInt64.le_iff_toNat_le, hu, ha]
    exact h
  rw [lower, UInt64.toNat_sub_of_le _ _ hle, hu, ha]

end Resource

/-- A number for each resource. -/
structure Amounts where
  memory : Nat
  fds : Nat
  connsInbound : Nat
  connsOutbound : Nat
  conns : Nat
  streamsInbound : Nat
  streamsOutbound : Nat
  streams : Nat
  deriving DecidableEq, Repr

namespace Amounts

/-- The number for a resource. -/
def get (a : Amounts) : Resource → Nat
  | .memory => a.memory
  | .fds => a.fds
  | .connsInbound => a.connsInbound
  | .connsOutbound => a.connsOutbound
  | .conns => a.conns
  | .streamsInbound => a.streamsInbound
  | .streamsOutbound => a.streamsOutbound
  | .streams => a.streams

/-- The amounts that a function gives. -/
def ofFn (f : Resource → Nat) : Amounts where
  memory := f .memory
  fds := f .fds
  connsInbound := f .connsInbound
  connsOutbound := f .connsOutbound
  conns := f .conns
  streamsInbound := f .streamsInbound
  streamsOutbound := f .streamsOutbound
  streams := f .streams

@[simp] theorem get_ofFn (f : Resource → Nat) (r : Resource) : (ofFn f).get r = f r := by
  cases r <;> rfl

/-- Amounts that agree on every resource are equal. -/
theorem ext_get {a b : Amounts} (h : ∀ r, a.get r = b.get r) : a = b := by
  cases a; cases b
  simp only [mk.injEq]
  exact ⟨h .memory, h .fds, h .connsInbound, h .connsOutbound, h .conns, h .streamsInbound,
    h .streamsOutbound, h .streams⟩

/-- Nothing of any resource. -/
def zero : Amounts := ofFn fun _ => 0

/-- No ceiling on any resource. -/
def unlimited : Amounts := ofFn fun _ => Resource.maxAmount

instance : Inhabited Amounts := ⟨zero⟩

/-- The sum, resource by resource. -/
def add (a b : Amounts) : Amounts := ofFn fun r => a.get r + b.get r

instance : Add Amounts := ⟨add⟩

@[simp] theorem get_zero (r : Resource) : zero.get r = 0 := get_ofFn _ r

@[simp] theorem get_add (a b : Amounts) (r : Resource) : (a + b).get r = a.get r + b.get r :=
  get_ofFn _ r

/-- Whether nothing of any resource is counted. -/
def isZero (a : Amounts) : Bool := Resource.all.all fun r => a.get r = 0

theorem isZero_iff {a : Amounts} : a.isZero = true ↔ a = zero := by
  simp only [isZero, List.all_eq_true, decide_eq_true_eq]
  constructor
  · intro h
    exact ext_get fun r => by rw [h r (Resource.mem_all r), get_zero]
  · rintro rfl r _
    exact get_zero r

/-- The numbers, in charging order. -/
def toList (a : Amounts) : List Nat := Resource.all.map a.get

/-- What one connection takes; a connection over a socket takes a file descriptor. -/
def connection (direction : Direction) (usesFd : Bool) : Amounts where
  memory := 0
  fds := if usesFd then 1 else 0
  connsInbound := if direction = .inbound then 1 else 0
  connsOutbound := if direction = .outbound then 1 else 0
  conns := 1
  streamsInbound := 0
  streamsOutbound := 0
  streams := 0

/-- What one stream takes, with the memory reserved for it. -/
def stream (direction : Direction) (memory : Nat) : Amounts where
  memory := memory
  fds := 0
  connsInbound := 0
  connsOutbound := 0
  conns := 0
  streamsInbound := if direction = .inbound then 1 else 0
  streamsOutbound := if direction = .outbound then 1 else 0
  streams := 1

/-! ## Taking a charge and giving it back -/

/-- The same amounts with another number for one resource. -/
def set (a : Amounts) (r : Resource) (n : Nat) : Amounts :=
  ofFn fun r' => if r' = r then n else a.get r'

@[simp] theorem get_set (a : Amounts) (r r' : Resource) (n : Nat) :
    (a.set r n).get r' = if r' = r then n else a.get r' :=
  get_ofFn _ r'

/-- Gives back what a charge took of one resource. -/
def giveBack (charge used : Amounts) (r : Resource) : Amounts :=
  if charge.get r = 0 then used else used.set r (Resource.lower (used.get r) (charge.get r))

/-- Gives a charge back, resource by resource. -/
def release (used charge : Amounts) : Amounts := Resource.all.foldl (giveBack charge) used

/-- Takes a charge one resource after the other; `passed` are the resources dealt with so far.
The first resource without room gives all of them back and is the answer. -/
def takeEach (ceiling charge : Amounts) (passed : List Resource) (used : Amounts) :
    List Resource → Option Resource × Amounts
  | [] => (none, used)
  | r :: rest =>
    if charge.get r = 0 then takeEach ceiling charge (passed ++ [r]) used rest
    else
      let next := used.get r + charge.get r
      if next ≤ Resource.maxAmount ∧ next ≤ ceiling.get r then
        takeEach ceiling charge (passed ++ [r]) (used.set r next) rest
      else (some r, passed.foldl (giveBack charge) used)

/-- Takes a charge under a ceiling, all or nothing; the answer is the first resource, in charging
order, that lacks room. -/
def take (used ceiling charge : Amounts) : Option Resource × Amounts :=
  takeEach ceiling charge [] used Resource.all

end Amounts

end CircuitRelay
