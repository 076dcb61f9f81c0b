import CircuitRelay.Document.Basic
import CircuitRelay.Text.Integer

/-!
# Writing documents

A document is written as one line of JSON.  Texts are escaped where the grammar asks for it and
nowhere else.
-/

namespace CircuitRelay

namespace Document

/-- A record of named values. -/
def ofFields (fields : List (String × Document)) : Document :=
  .record (fields.map fun f => (.known f.1, f.2)) none

/-- A list of values. -/
def ofItems (items : List Document) : Document := .list items none

/-- A list of texts. -/
def ofTexts (texts : List String) : Document := ofItems (texts.map .text)

/-- A natural number. -/
def ofNat (n : Nat) : Document := .integer n

/-- A value that may be missing. -/
def ofOption {α : Type} (f : α → Document) : Option α → Document
  | some a => f a
  | none => .null

/-- The two low hexadecimal digits of a number. -/
def hexPair (n : Nat) : List Char := [Nat.digitChar (n / 16 % 16), Nat.digitChar (n % 16)]

/-- A character in a written text. -/
def writeChar (c : Char) : List Char :=
  if c = '"' then ['\\', '"']
  else if c = '\\' then ['\\', '\\']
  else if c = '\n' then ['\\', 'n']
  else if c = '\r' then ['\\', 'r']
  else if c = '\t' then ['\\', 't']
  else if c < ' ' then ['\\', 'u', '0', '0'] ++ hexPair c.toNat
  else [c]

/-- A written text. -/
def writeText (s : String) : List Char := ['"'] ++ s.toList.flatMap writeChar ++ ['"']

/-- A written integer. -/
def writeInt (n : Int) : List Char :=
  if n < 0 then '-' :: Text.digits n.natAbs else Text.digits n.natAbs

mutual

/-- A written value; a value that JSON cannot have is written as `null`. -/
def write : Document → List Char
  | .null | .huge | .unpaired | .other | .broken _ _ => "null".toList
  | .flag b => (if b then "true" else "false").toList
  | .integer n => writeInt n
  | .decimal m e => writeInt m ++ ['e'] ++ writeInt e
  | .text s => writeText s
  | .list items _ => ['['] ++ writeItems items ++ [']']
  | .record fields _ => ['\x7b'] ++ writeFields fields ++ ['\x7d']

/-- Written values with commas between them. -/
def writeItems : List Document → List Char
  | [] => []
  | [d] => write d
  | d :: rest => write d ++ [','] ++ writeItems rest

/-- Written named values with commas between them. -/
def writeFields : List (Label × Document) → List Char
  | [] => []
  | [(k, d)] => writeText (k.name?.getD "") ++ [':'] ++ write d
  | (k, d) :: rest =>
    writeText (k.name?.getD "") ++ [':'] ++ write d ++ [','] ++ writeFields rest

end

/-- The text of a document. -/
def toText (d : Document) : String := String.ofList (write d)

end Document

end CircuitRelay
