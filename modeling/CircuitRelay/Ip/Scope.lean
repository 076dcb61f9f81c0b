import CircuitRelay.Ip.Basic

/-!
# How far an address reaches

Every address has a scope, or none when it names no single host.  Scopes come from tests of the
first octets of an IPv4 address, or the first groups of an IPv6 address: the first test that an
address passes gives its scope, and an address that passes none is public.  A mapped IPv6 address
has the scope of its IPv4 address.
-/

namespace CircuitRelay

/-- How far an address reaches. -/
inductive Scope where
  | loopback
  | «private»
  | linkLocal
  /-- Set aside by a standard, never a host of the open network. -/
  | reserved
  | «public»
  deriving DecidableEq, Repr

namespace Scope

/-- The name of a scope. -/
def name : Scope → String
  | .loopback => "loopback"
  | .private => "private"
  | .linkLocal => "linklocal"
  | .reserved => "reserved"
  | .public => "public"

/-- A test of addresses, with the scope of those that pass it. -/
structure Test (α : Type) where
  passes : α → Bool
  /-- The scope, or none if those that pass name no single host. -/
  scope : Option Scope

/-- What the first test that an address passes gives, public if it passes none. -/
def ofTests {α : Type} (tests : List (Test α)) (a : α) : Option Scope :=
  match tests.find? fun t => t.passes a with
  | some t => t.scope
  | none => some .public

end Scope

/-! ## IPv4 -/

namespace IPv4

/-- Whether an address is the one of no host, or the one of all hosts. -/
def isUnscoped (a : IPv4) : Bool := a.toNat = 0 || a.toNat = 2 ^ 32 - 1

/-- Whether an address stands for the host itself. -/
def isLoopback (a : IPv4) : Bool := a.octet 0 = 127

/-- Whether an address belongs to a network that is not connected to others under it. -/
def isPrivate (a : IPv4) : Bool :=
  a.octet 0 = 10 || (a.octet 0 = 172 && 16 ≤ a.octet 1 && a.octet 1 ≤ 31) ||
    (a.octet 0 = 192 && a.octet 1 = 168)

/-- Whether an address is shared by the customers of a carrier. -/
def isShared (a : IPv4) : Bool := a.octet 0 = 100 && a.octet 1 &&& 0b1100_0000 = 0b0100_0000

/-- Whether an address only reaches the hosts on the same link. -/
def isLinkLocal (a : IPv4) : Bool := a.octet 0 = 169 && a.octet 1 = 254

/-- Whether an address names a group of hosts. -/
def isMulticast (a : IPv4) : Bool := 224 ≤ a.octet 0 && a.octet 0 ≤ 239

/-- Whether an address was set aside: for this network, protocol assignments, documentation,
benchmarks, groups of hosts and the future. -/
def isReserved (a : IPv4) : Bool :=
  match a.octet 0, a.octet 1, a.octet 2 with
  | 0, _, _ => true
  | 192, 0, 0 => true
  | 192, 0, 2 | 198, 51, 100 | 203, 0, 113 => true
  | 198, 18, _ | 198, 19, _ => true
  | first, _, _ => a.isMulticast || 240 ≤ first

/-- The tests of IPv4 addresses, in order. -/
def tests : List (Scope.Test IPv4) := [
  ⟨isUnscoped, none⟩,
  ⟨isLoopback, some .loopback⟩,
  ⟨fun a => a.isPrivate || a.isShared, some .private⟩,
  ⟨isLinkLocal, some .linkLocal⟩,
  ⟨isReserved, some .reserved⟩]

/-- The scope of an IPv4 address. -/
def scope? (a : IPv4) : Option Scope := Scope.ofTests tests a

end IPv4

/-! ## IPv6 -/

namespace IPv6

/-- Whether an address is the one of no host. -/
def isUnscoped (a : IPv6) : Bool := a.toNat = 0

/-- Whether an address stands for the host itself. -/
def isLoopback (a : IPv6) : Bool := a.toNat = 1

/-- Whether an address belongs to a network that is not connected to others under it. -/
def isUniqueLocal (a : IPv6) : Bool := a.group 0 &&& 0xFE00 = 0xFC00

/-- Whether an address only reaches the hosts on the same link. -/
def isLinkLocal (a : IPv6) : Bool := a.group 0 &&& 0xFFC0 = 0xFE80

/-- Whether an address names a group of hosts. -/
def isMulticast (a : IPv6) : Bool := a.group 0 &&& 0xFF00 = 0xFF00

/-- Whether an address was set aside: for groups of hosts, documentation, and to be discarded. -/
def isReserved (a : IPv6) : Bool :=
  a.isMulticast || (a.group 0, a.group 1) = (0x2001, 0xDB8) ||
    (a.group 0, a.group 1, a.group 2, a.group 3) = (0x100, 0, 0, 0)

/-- The tests of IPv6 addresses, in order. -/
def tests : List (Scope.Test IPv6) := [
  ⟨isUnscoped, none⟩,
  ⟨isLoopback, some .loopback⟩,
  ⟨isUniqueLocal, some .private⟩,
  ⟨isLinkLocal, some .linkLocal⟩,
  ⟨isReserved, some .reserved⟩]

/-- The scope of an IPv6 address. -/
def scope? (a : IPv6) : Option Scope :=
  match a.mapped? with
  | some v4 => v4.scope?
  | none => Scope.ofTests tests a

end IPv6

/-- The scope of an address. -/
def Ip.scope? : Ip → Option Scope
  | .v4 a => a.scope?
  | .v6 a => a.scope?

end CircuitRelay
