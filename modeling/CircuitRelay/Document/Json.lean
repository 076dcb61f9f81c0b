import CircuitRelay.Document.Numeral
import CircuitRelay.Text.Integer
import CircuitRelay.Text.Utf8

/-!
# Documents in JSON

`Json.read` reads a JSON text as a document: a value with blanks around it, and the flaw of
anything that follows.  Every reader below takes the characters that are left and returns a
document with the characters after it, or with `none` when the text cannot be read on; the fuel of
the recursive ones is the number of characters, each step takes at least one.

A reader who looks for the end of a value takes every broken number for malformed, and one half of
a surrogate pair for a character.
-/

namespace CircuitRelay

namespace Json

open Document

/-- A value with what follows it. -/
abbrev Read := Document × Option (List Char)

/-- Whether a character may stand between values. -/
def isBlank (c : Char) : Bool := c = ' ' || c = '\n' || c = '\t' || c = '\r'

/-- The rest of a text without blanks in front. -/
def skipBlanks (cs : List Char) : List Char := cs.dropWhile isBlank

/-- The flaw of a text in which something else should follow. -/
def flawAt (cs : List Char) : Flaw := if cs.isEmpty then .ended else .malformed

/-- A value that cannot start here. -/
def noValue (cs : List Char) : Read := (.broken cs.head? (.same (flawAt cs)), none)

/-- Reads the rest of a word. -/
def readWord (first : Char) (value : Document) : List Char → List Char → Read
  | [], cs => (value, some cs)
  | _ :: _, [] => (.broken (some first) (.same .ended), none)
  | w :: word, c :: cs =>
    if w = c then readWord first value word cs else (.broken (some first) (.same .malformed), none)

/-! ## Numbers -/

/-- Splits digits off a text; there must be one. -/
def readDigits (cs : List Char) : Except Flaw (List Char × List Char) :=
  let digits := cs.takeWhile Char.isDigit
  let rest := cs.dropWhile Char.isDigit
  if digits.isEmpty then .error (flawAt rest) else .ok (digits, rest)

/-- Reads the digits in front of the point; they have no leading zero. -/
def readWhole (cs : List Char) : Except Flaw (List Char × List Char) := do
  let (digits, rest) ← readDigits cs
  if digits.head? = some '0' ∧ digits.length ≠ 1 then .error .malformed else .ok (digits, rest)

/-- Reads a fraction, if there is one. -/
def readFraction : List Char → Except Flaw (Option (List Char) × List Char)
  | '.' :: cs => (readDigits cs).map fun (digits, rest) => (some digits, rest)
  | cs => .ok (none, cs)

/-- Reads the sign of an exponent; it is optional. -/
def readSign : List Char → Int × List Char
  | '-' :: cs => (-1, cs)
  | '+' :: cs => (1, cs)
  | cs => (1, cs)

/-- Reads an exponent, if there is one. -/
def readExponent : List Char → Except Flaw (Option Int × List Char)
  | c :: cs =>
    if c = 'e' ∨ c = 'E' then
      let (sign, cs) := readSign cs
      (readDigits cs).map fun (digits, rest) => (some (sign * Numeral.ofDigits digits), rest)
    else .ok (none, c :: cs)
  | [] => .ok (none, [])

/-- Reads a number. -/
def readNumeral (cs : List Char) : Except Flaw (Numeral × List Char) := do
  let negative := cs.head? = some '-'
  let (whole, cs) ← readWhole (if negative then cs.tail else cs)
  let (fraction, cs) ← readFraction cs
  let (exponent, cs) ← readExponent cs
  .ok (⟨negative, whole, fraction, exponent⟩, cs)

/-- Reads a number as a value. -/
def readNumber (cs : List Char) : Read :=
  match readNumeral cs with
  | .ok (n, rest) => (n.toDocument, some rest)
  | .error f => (.broken cs.head? ⟨f, .malformed⟩, none)

/-! ## Texts -/

/-- Reads four hexadecimal digits. -/
def readUnit : List Char → Except Flaw (Nat × List Char)
  | a :: b :: c :: d :: rest =>
    match [a, b, c, d].mapM Text.hexValue? with
    | some digits => .ok (digits.foldl (fun n d => 16 * n + d) 0, rest)
    | none => .error .malformed
  | cs => .error (if (Text.Utf8.encode cs).length < 4 then .ended else .malformed)

/-- Reads what follows the first half of a surrogate pair; `none` when it is not the other half. -/
def readLowUnit : List Char → Except Flaw (Option (Nat × List Char))
  | [] => .error .ended
  | ['\\'] => .error .ended
  | '\\' :: 'u' :: cs =>
    (readUnit cs).map fun (n, rest) => if 0xDC00 ≤ n ∧ n < 0xE000 then some (n, rest) else none
  | _ => .ok none

/-- Reads a character given by its number; `none` when it is one half of a surrogate pair. -/
def readCodePoint (cs : List Char) : Except Flaw (Option Char × List Char) := do
  let (n, rest) ← readUnit cs
  if 0xDC00 ≤ n ∧ n < 0xE000 then .ok (none, rest)
  else if 0xD800 ≤ n ∧ n < 0xDC00 then
    match ← readLowUnit rest with
    | some (low, rest) =>
      .ok (some (Char.ofNat (0x10000 + (n - 0xD800) * 0x400 + (low - 0xDC00))), rest)
    | none => .ok (none, rest)
  else .ok (some (Char.ofNat n), rest)

/-- Reads what follows a backslash. -/
def readEscape : List Char → Except Flaw (Option Char × List Char)
  | [] => .error .ended
  | '"' :: cs => .ok (some '"', cs)
  | '\\' :: cs => .ok (some '\\', cs)
  | '/' :: cs => .ok (some '/', cs)
  | 'b' :: cs => .ok (some '\x08', cs)
  | 'f' :: cs => .ok (some '\x0c', cs)
  | 'n' :: cs => .ok (some '\n', cs)
  | 'r' :: cs => .ok (some '\r', cs)
  | 't' :: cs => .ok (some '\t', cs)
  | 'u' :: cs => readCodePoint cs
  | _ :: _ => .error .malformed

/-- Reads the rest of a text; the answer has no text when one half of a surrogate pair occurred.
That half is the flaw of such a text, whatever comes later, except to a reader who skips it. -/
def readTextFrom : Nat → Bool → List Char → List Char → Except Stop (Option String × List Char)
  | 0, _, _, _ => .error (.same .ended)
  | fuel + 1, paired, acc, cs =>
    let fail (f : Flaw) := .error ⟨if paired then f else .malformed, f⟩
    match cs with
    | [] => fail .ended
    | '"' :: rest => .ok (if paired then some (String.ofList acc.reverse) else none, rest)
    | '\\' :: rest =>
      match readEscape rest with
      | .error f => fail f
      | .ok (some c, rest) => readTextFrom fuel paired (c :: acc) rest
      | .ok (none, rest) => readTextFrom fuel false acc rest
    | c :: rest => if c < ' ' then fail .malformed else readTextFrom fuel paired (c :: acc) rest

/-- Reads the rest of a text, behind its opening quotation mark. -/
def readText (cs : List Char) : Except Stop (Option String × List Char) :=
  readTextFrom (cs.length + 1) true [] cs

/-- The label that a text is. -/
def labelOf : Option String → Label
  | some s => .known s
  | none => .unpaired

/-! ## Values -/

mutual

/-- Reads a value. -/
def readValue : Nat → List Char → Read
  | 0, cs => noValue cs
  | fuel + 1, cs =>
    match skipBlanks cs with
    | 'n' :: rest => readWord 'n' .null "ull".toList rest
    | 't' :: rest => readWord 't' (.flag true) "rue".toList rest
    | 'f' :: rest => readWord 'f' (.flag false) "alse".toList rest
    | '"' :: rest =>
      match readText rest with
      | .ok (some s, rest) => (.text s, some rest)
      | .ok (none, rest) => (.unpaired, some rest)
      | .error stop => (.broken (some '"') stop, none)
    | '[' :: rest =>
      match skipBlanks rest with
      | ']' :: rest => (.list [] none, some rest)
      | [] => (.list [] (some .ended), none)
      | rest => readItems fuel [] rest
    | '\x7b' :: rest =>
      match skipBlanks rest with
      | '\x7d' :: rest => (.record [] none, some rest)
      | rest => readFields fuel [] rest
    | c :: rest => if c = '-' ∨ c.isDigit then readNumber (c :: rest) else noValue (c :: rest)
    | [] => noValue []

/-- Reads the items of a list from a value on. -/
def readItems : Nat → List Document → List Char → Read
  | 0, acc, _ => (.list acc.reverse (some .ended), none)
  | fuel + 1, acc, cs =>
    match readValue fuel cs with
    | (d, none) => (.list (d :: acc).reverse none, none)
    | (d, some rest) =>
      match skipBlanks rest with
      | ']' :: rest => (.list (d :: acc).reverse none, some rest)
      | ',' :: rest => readItems fuel (d :: acc) rest
      | rest => (.list (d :: acc).reverse (some (flawAt rest)), none)

/-- Reads the fields of a record from a name on. -/
def readFields : Nat → List (Label × Document) → List Char → Read
  | 0, acc, _ => (.record acc.reverse (some .ended), none)
  | fuel + 1, acc, cs =>
    match skipBlanks cs with
    | '"' :: rest =>
      match readText rest with
      | .error stop => (.record ((.missing stop, .null) :: acc).reverse none, none)
      | .ok (name, rest) =>
        let label := labelOf name
        match skipBlanks rest with
        | ':' :: rest =>
          match readValue fuel rest with
          | (d, none) => (.record ((label, d) :: acc).reverse none, none)
          | (d, some rest) =>
            match skipBlanks rest with
            | '\x7d' :: rest => (.record ((label, d) :: acc).reverse none, some rest)
            | ',' :: rest => readFields fuel ((label, d) :: acc) rest
            | rest => (.record ((label, d) :: acc).reverse (some (flawAt rest)), none)
        | rest =>
          let d : Document := .broken rest.head? (.same (flawAt rest))
          (.record ((label, d) :: acc).reverse none, none)
    | rest => (.record ((.missing (.same (flawAt rest)), .null) :: acc).reverse none, none)

end

/-- Reads a text as a document; the flaw is that of anything that follows it. -/
def read (cs : List Char) : Document × Option Flaw :=
  match readValue (cs.length + 1) cs with
  | (d, some rest) => (d, if (skipBlanks rest).isEmpty then none else some .malformed)
  | (d, none) => (d, none)

end Json

end CircuitRelay
