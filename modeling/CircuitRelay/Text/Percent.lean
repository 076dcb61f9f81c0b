import CircuitRelay.Text.Integer
import CircuitRelay.Text.Utf8

/-!
# Percent encoding of path segments

The path of a web socket address is written in one segment of the address text, so slashes and
other characters with a meaning of their own are written as `%` and two hexadecimal digits.
Reading accepts any sequence: a `%` that two hexadecimal digits do not follow stands for itself.
-/

namespace CircuitRelay.Text.Percent

/-- Whether an octet is written as itself. -/
def isPlain (b : UInt8) : Bool :=
  0x20 < b && b < 0x7F &&
    !(['%', '/', '\x60', '?', '\x7b', '\x7d', '"', '#', '<', '>'].map (·.toNat.toUInt8)).contains b

/-- One upper-case hexadecimal digit. -/
def hexDigit (n : Nat) : Char :=
  if n < 10 then Char.ofNat ('0'.toNat + n) else Char.ofNat ('A'.toNat + (n - 10))

/-- Writes one octet. -/
def encodeOctet (b : UInt8) : List Char :=
  if isPlain b then [Char.ofNat b.toNat]
  else ['%', hexDigit (b.toNat / 16), hexDigit (b.toNat % 16)]

/-- Writes a text as one path segment. -/
def encode (s : String) : String :=
  String.ofList ((Utf8.encode s.toList).flatMap encodeOctet)

/-- The octets of a path segment. -/
def octets : List Char → List UInt8
  | [] => []
  | '%' :: a :: b :: rest =>
    match hexValue? a, hexValue? b with
    | some x, some y => (16 * x + y).toUInt8 :: octets rest
    | _, _ => Utf8.encodeChar '%' ++ octets (a :: b :: rest)
  | c :: rest => Utf8.encodeChar c ++ octets rest

/-- Reads a path segment. -/
def decode (s : String) : Except Utf8Fault String :=
  (Utf8.decode (octets s.toList)).map String.ofList

end CircuitRelay.Text.Percent
