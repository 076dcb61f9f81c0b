import CircuitRelay.Codec.Hex
import CircuitRelay.Crypto.Salsa
import CircuitRelay.Crypto.Shake
import CircuitRelay.File
import CircuitRelay.Secret.Policy
import CircuitRelay.Text.Blank
import CircuitRelay.Text.Integer

/-!
# Network secrets

A private network is known by a key of 32 octets, kept in a text file of three lines: the kind of
the file, how the key is written, and the key.  Operators compare fingerprints of it: a digest of
the key's own key stream, from which the key cannot be told.
-/

namespace CircuitRelay

/-- The secret of a private network. -/
structure NetworkSecret where
  key : List UInt8
  deriving DecidableEq, Repr

namespace NetworkSecret

/-- Why a text holds no secret. -/
inductive Fault where
  | file
  | kind
  | encoding
  | length
  /-- The key has a character that is no digit. -/
  | digit
  deriving DecidableEq, Repr

/-- The words for a fault. -/
def Fault.message : Fault → String
  | .file => "InvalidKeyFile"
  | .kind => "InvalidKeyType"
  | .encoding => "InvalidKeyEncoding"
  | .length => "InvalidKeyLength"
  | .digit => "InvalidKeyChar(ParseIntError \x7b kind: InvalidDigit \x7d)"

/-- The first line of a file. -/
def kindLine : String := "/key/swarm/psk/1.0.0/"

/-- The second line of a file. -/
def encodingLine : String := "/base16/"

/-- The octets of a key. -/
def keyLength : Nat := 32

/-- The lines of a text without their ends. -/
def lines (cs : List Char) : List (List Char) :=
  let pieces := cs.splitOn '\n'
  let whole := if pieces.getLast? = some [] then pieces.dropLast else pieces
  whole.map fun l => if l.getLast? = some '\r' then l.dropLast else l

/-- Reads an octet from two characters: two digits, or one with a plus sign. -/
def readOctet (a b : Char) : Except Fault UInt8 :=
  match Text.readNatBase 16 255 [a, b] with
  | .ok n => .ok (UInt8.ofNat n)
  | .error _ => .error .digit

/-- Reads octets from characters, two for each; a character of more than one octet is no digit,
wherever it stands. -/
def readOctets : List Char → Except Fault (List UInt8)
  | a :: b :: rest => do
    let o ← readOctet a b
    let os ← readOctets rest
    .ok (o :: os)
  | [_] => .error .digit
  | [] => .ok []

/-- Reads the line of the key. -/
def readKey (line : List Char) : Except Fault (List UInt8) :=
  let cs := Text.trimEnd line
  if (Text.Utf8.encode cs).length = 2 * keyLength then readOctets cs else .error .length

/-- Reads the text of a key file. -/
def ofText (cs : List Char) : Except Fault NetworkSecret :=
  match lines cs with
  | kind :: encoding :: key :: _ =>
    if kind ≠ kindLine.toList then .error .kind
    else if encoding ≠ encodingLine.toList then .error .encoding
    else (readKey key).map NetworkSecret.mk
  | _ => .error .file

/-- The text of a key file. -/
def toText (s : NetworkSecret) : String :=
  kindLine ++ "\n" ++ encodingLine ++ "\n" ++ Codec.Hex.encode s.key ++ "\n"

/-- The nonce under which the key stream of a fingerprint is taken. -/
def fingerprintNonce : List UInt8 := "finprint".toUTF8.toList

/-- The octets of a fingerprint. -/
def fingerprintLength : Nat := 16

/-- The fingerprint of a secret. -/
def fingerprint (s : NetworkSecret) : List UInt8 :=
  Crypto.Shake.hash fingerprintLength (Crypto.Salsa.block s.key fingerprintNonce 0)

/-- What the log shows of a secret. -/
def description (s : NetworkSecret) : String :=
  "NetworkSecret \x7b key: PreSharedKey(\"" ++ Codec.Hex.encode s.key ++ "\"), fingerprint: " ++
    Codec.Hex.encode s.fingerprint ++ " \x7d"

/-- Why a secret cannot be loaded. -/
inductive LoadFault where
  | file (fault : File.Fault)
  | text (fault : Fault)
  deriving DecidableEq, Repr

/-- Loads the secret from a file; without one the network is public. -/
def load : Option File → Except LoadFault (Option NetworkSecret)
  | none => .ok none
  | some file => do
    let cs ← file.readText.mapError .file
    let s ← (ofText cs).mapError .text
    .ok (some s)

end NetworkSecret

end CircuitRelay
