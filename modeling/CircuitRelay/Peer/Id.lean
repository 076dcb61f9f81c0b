import CircuitRelay.Codec.Base58
import CircuitRelay.Codec.Varint

/-!
# Peer ids

A peer is named by a multihash of its public key: a hash code, a length and a digest.  Two codes
are in use: SHA-256, and the identity code, whose digest is a short key itself.  `ofText` reads
the base58 form and `toText` writes it.
-/

namespace CircuitRelay

/-- How the digest of a peer id was made from a public key. -/
inductive PeerId.Hash where
  | identity
  /-- The digest is a SHA-256 hash of the encoded key. -/
  | sha256
  deriving DecidableEq, Repr

/-- The name of a peer. -/
structure PeerId where
  /-- How the digest was made. -/
  hash : PeerId.Hash
  /-- The octets of the digest. -/
  digest : List UInt8
  deriving DecidableEq, Repr

namespace PeerId

instance : Inhabited PeerId := ⟨⟨.identity, []⟩⟩

/-- Why a text or a list of octets names no peer. -/
inductive Fault where
  | base58 (fault : Codec.Base58.Fault)
  /-- The octets are no multihash of at most 64 digest octets. -/
  | invalidMultihash
  /-- The hash code is not one for peers, or the digest is too long for it. -/
  | unsupportedCode (code : Nat)
  deriving DecidableEq, Repr

/-- The words for a fault. -/
def Fault.message : Fault → String
  | .base58 f => "base-58 decode error: " ++ f.message
  | .invalidMultihash => "invalid multihash"
  | .unsupportedCode code => "unsupported multihash code '" ++ toString code ++ "'"

/-- The longest digest that a multihash may have. -/
def maxDigest : Nat := 64

/-- The longest public key that stands for itself. -/
def maxInlineKey : Nat := 42

/-- The multihash code of a hash. -/
def Hash.code : Hash → Nat
  | .identity => 0x00
  | .sha256 => 0x12

/-- Reads a multihash as a peer id. -/
def ofOctets (bs : List UInt8) : Except Fault PeerId :=
  match Codec.Varint.decode bs with
  | none => .error .invalidMultihash
  | some (code, bs) =>
    match Codec.Varint.decode bs with
    | none => .error .invalidMultihash
    | some (length, digest) =>
      if maxDigest < length ∨ digest.length ≠ length then .error .invalidMultihash
      else if code = Hash.sha256.code then .ok ⟨.sha256, digest⟩
      else if code = Hash.identity.code ∧ length ≤ maxInlineKey then .ok ⟨.identity, digest⟩
      else .error (.unsupportedCode code)

/-- The multihash of a peer id. -/
def toOctets (p : PeerId) : List UInt8 :=
  Codec.Varint.encode p.hash.code ++ Codec.Varint.encode p.digest.length ++ p.digest

/-- Reads the base58 form of a peer id. -/
def ofText (s : String) : Except Fault PeerId :=
  match Codec.Base58.decode s with
  | .error f => .error (.base58 f)
  | .ok bs => ofOctets bs

/-- The base58 form of a peer id. -/
def toText (p : PeerId) : String := Codec.Base58.encode p.toOctets

end PeerId

end CircuitRelay
