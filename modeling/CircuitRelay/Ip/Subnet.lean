import CircuitRelay.Ip.Text

/-!
# Subnets

Access lists name blocks of addresses as `address/size`.  The address is kept as written, host
bits included, and only its first `size` bits decide membership.  The families never mix: an IPv4
subnet has no IPv6 members, mapped ones included.
-/

namespace CircuitRelay

/-- A block of addresses of one family. -/
inductive Subnet where
  /-- The IPv4 addresses that share the first `size` bits of `address`. -/
  | v4 (address : IPv4) (size : Nat)
  /-- The IPv6 addresses that share the first `size` bits of `address`. -/
  | v6 (address : IPv6) (size : Nat)
  deriving DecidableEq, Repr

namespace Subnet

/-- Whether a subnet has an address as a member. -/
def contains : Subnet → Ip → Bool
  | .v4 a size, .v4 b => a.toNat / 2 ^ (32 - size) = b.toNat / 2 ^ (32 - size)
  | .v6 a size, .v6 b => a.toNat / 2 ^ (128 - size) = b.toNat / 2 ^ (128 - size)
  | _, _ => false

/-- Reads an address, a slash and the size. -/
def read {α : Type} (address : Ip.Reader α) (width max : Nat) : Ip.Reader (α × Nat) := fun cs => do
  let (a, cs) ← address cs
  let (_, cs) ← Ip.readChar '/' cs
  let (size, cs) ← Ip.readNumber 10 width max true cs
  pure ((a, size), cs)

/-- Reads a subnet. -/
def ofText? (s : String) : Option Subnet :=
  match Ip.readAll (read (Ip.readV4 .lenient) 2 32) s with
  | some (a, size) => some (.v4 a size)
  | none => (Ip.readAll (read (Ip.readV6 .lenient) 3 128) s).map fun e => .v6 e.1 e.2

/-- The text of a subnet. -/
def toText : Subnet → String
  | .v4 a size => a.toText ++ "/" ++ String.ofList (Text.digits size)
  | .v6 a size => a.toText ++ "/" ++ String.ofList (Text.digits size)

end Subnet

end CircuitRelay
