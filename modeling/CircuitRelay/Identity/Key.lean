import CircuitRelay.Codec.Fields
import CircuitRelay.Crypto.Edwards
import CircuitRelay.Peer.Id

/-!
# Identity keys

A node is identified by a key pair.  The stored form is a message with the type of the key and its
octets; for Ed25519 these are the seed and the public key, which must belong together.  Keys of
other types are recognised but cannot be used.
-/

namespace CircuitRelay

/-- An Ed25519 key pair. -/
structure IdentityKey where
  seed : List UInt8
  deriving DecidableEq, Repr

namespace IdentityKey

/-- Why a stored key cannot be used. -/
inductive Fault where
  | message
  | rsa
  | secp256k1
  /-- It is an ECDSA key that cannot be read. -/
  | ecdsa
  | ed25519
  | unknownType (type : Int)
  deriving DecidableEq, Repr

/-- What is wrong with a stored key. -/
def Fault.reason : Fault → String
  | .message => "failed to decode private key bytes from protobuf"
  | .rsa => "cargo feature \x60rsa\x60 is not enabled"
  | .secp256k1 => "cargo feature \x60secp256k1\x60 is not enabled"
  | .ecdsa => "failed to parse ECDSA"
  | .ed25519 => "failed to parse Ed25519 keypair"
  | .unknownType t => "unknown key type " ++ toString t

/-- The words for a fault. -/
def Fault.text (f : Fault) : String := "Key decoding error: " ++ f.reason

/-- The name of the type of keys. -/
def typeName : String := "Ed25519"

/-- The octets of a seed. -/
def seedLength : Nat := 32

/-- The public key. -/
def publicKey (k : IdentityKey) : List UInt8 := Crypto.Edwards.publicKey k.seed

/-- The message of a key of type 1. -/
def message (octets : List UInt8) : List UInt8 :=
  [0x08, 0x01, 0x12] ++ Codec.Varint.encode octets.length ++ octets

/-- The stored form. -/
def encode (k : IdentityKey) : List UInt8 := message (k.seed ++ k.publicKey)

/-- The peer that the key identifies. -/
def peerId (k : IdentityKey) : PeerId := ⟨.identity, message k.publicKey⟩

/-- Reads the octets of a key pair: the seed and the public key that belongs to it. -/
def ofOctets (bs : List UInt8) : Except Fault IdentityKey :=
  let k : IdentityKey := ⟨bs.take seedLength⟩
  if bs.length = 2 * seedLength ∧ k.publicKey = bs.drop seedLength then .ok k else .error .ed25519

/-- The type and the octets of a key that a message carries, each by the last field for it. -/
def ofFields : List (Nat × Codec.Fields.Value) → Int → List UInt8 → Option (Int × List UInt8)
  | [], type, octets => some (type, octets)
  | (1, .varint n) :: rest, _, octets => ofFields rest (Int.bmod n (2 ^ 32)) octets
  | (2, .octets bs) :: rest, type, _ => ofFields rest type bs
  | (number, _) :: rest, type, octets =>
    if number = 1 ∨ number = 2 then none else ofFields rest type octets

/-- Reads the stored form; a message without a type is of type 0. -/
def decode (bs : List UInt8) : Except Fault IdentityKey :=
  match (Codec.Fields.read bs).bind fun fields => ofFields fields 0 [] with
  | none => .error .message
  | some (type, octets) =>
    if type = 0 then .error .rsa
    else if type = 1 then ofOctets octets
    else if type = 2 then .error .secp256k1
    else if type = 3 then .error .ecdsa
    else .error (.unknownType type)

end IdentityKey

end CircuitRelay
