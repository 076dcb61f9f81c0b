import CircuitRelay.Codec.Positional
import CircuitRelay.Text.Quoted
import CircuitRelay.Text.Utf8

/-!
# Base58

Peer names are octets written in base 58 with an alphabet that leaves out the look-alikes `0`,
`O`, `I` and `l`.  Every leading zero octet is one leading `1`; the octets after them are one
number.  A fault names the first character outside the alphabet by its octet index.
-/

namespace CircuitRelay.Codec.Base58

/-- The alphabet, in digit order. -/
def alphabet : List Char := "123456789ABCDEFGHJKLMNPQRSTUVWXYZabcdefghijkmnopqrstuvwxyz".toList

/-- Why a text is not base58. -/
inductive Fault where
  | invalidCharacter (c : Char) (index : Nat)
  | nonAscii (index : Nat)
  deriving DecidableEq, Repr

/-- The words for a fault. -/
def Fault.message : Fault → String
  | .invalidCharacter c i =>
    "provided string contained invalid character " ++ Text.quotedChar c ++ " at byte " ++ toString i
  | .nonAscii i => "provided string contained non-ascii character starting at byte " ++ toString i

/-- The digit that a character stands for. -/
def digit? (c : Char) : Option Nat := alphabet.findIdx? (· = c)

/-- The character that stands for a digit. -/
def symbol (d : Nat) : Char := alphabet.getD d '1'

/-- The digits of a text whose first character has index `i`. -/
def digitsFrom (i : Nat) : List Char → Except Fault (List Nat)
  | [] => .ok []
  | c :: cs =>
    if 0x7F < c.toNat then .error (.nonAscii i)
    else
      match digit? c with
      | none => .error (.invalidCharacter c i)
      | some d => (digitsFrom (i + 1) cs).map (d :: ·)

/-- Reads a text as octets. -/
def decode (s : String) : Except Fault (List UInt8) :=
  (digitsFrom 0 s.toList).map fun ds =>
    let zeros := ds.takeWhile (· = 0)
    let rest := ds.dropWhile (· = 0)
    zeros.map (fun _ => 0) ++ (toDigits 256 (ofDigits 58 rest)).map (·.toUInt8)

/-- Writes octets as a text. -/
def encode (bs : List UInt8) : String :=
  let zeros := bs.takeWhile (· = 0)
  let rest := bs.dropWhile (· = 0)
  String.ofList
    (zeros.map (fun _ => '1') ++ (toDigits 58 (ofDigits 256 (rest.map (·.toNat)))).map symbol)

end CircuitRelay.Codec.Base58
