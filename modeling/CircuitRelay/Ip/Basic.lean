/-!
# IP addresses

An IPv4 address is 32 bits, an IPv6 address 128.  Both are kept as one word, so that a block of
addresses is an interval of numbers; octets and groups are views of the word.
-/

namespace CircuitRelay

/-- An IPv4 address. -/
structure IPv4 where
  /-- The address as one word, first octet highest. -/
  bits : BitVec 32
  deriving DecidableEq, Repr

/-- An IPv6 address. -/
structure IPv6 where
  /-- The address as one word, first group highest. -/
  bits : BitVec 128
  deriving DecidableEq, Repr

/-- An address of either family. -/
inductive Ip where
  | v4 (address : IPv4)
  | v6 (address : IPv6)
  deriving DecidableEq, Repr

namespace IPv4

/-- The address of four octets. -/
def ofOctets (a b c d : Nat) : IPv4 := ⟨BitVec.ofNat 32 (((a * 256 + b) * 256 + c) * 256 + d)⟩

/-- The address as a number. -/
def toNat (a : IPv4) : Nat := a.bits.toNat

/-- One of the four octets, counted from zero. -/
def octet (a : IPv4) (i : Nat) : Nat := a.toNat / 2 ^ (8 * (3 - i)) % 256

/-- The four octets, first one first. -/
def octets (a : IPv4) : List Nat := (List.range 4).map a.octet

end IPv4

namespace IPv6

/-- The address of eight groups, first one first. -/
def ofGroups (gs : List Nat) : IPv6 := ⟨BitVec.ofNat 128 (gs.foldl (fun n g => n * 65536 + g) 0)⟩

/-- The address as a number. -/
def toNat (a : IPv6) : Nat := a.bits.toNat

/-- One of the eight groups, counted from zero. -/
def group (a : IPv6) (i : Nat) : Nat := a.toNat / 2 ^ (16 * (7 - i)) % 65536

/-- The eight groups, first one first. -/
def groups (a : IPv6) : List Nat := (List.range 8).map a.group

/-- The number that all mapped IPv4 addresses start with, above their last 32 bits. -/
def mappedHigh : Nat := 0xFFFF

/-- The IPv4 address that a mapped address stands for. -/
def mapped? (a : IPv6) : Option IPv4 :=
  if a.toNat / 2 ^ 32 = mappedHigh then some ⟨BitVec.ofNat 32 a.toNat⟩ else none

end IPv6

end CircuitRelay
