/-!
# Documents

Configuration files are documents: trees of values.  A text may break off or stop making sense in
the middle, and whoever reads it wants to hear of the first problem in the order of the text, be
it a broken text or a value that is not the expected one.  So a `Document` is the tree of a text
as far as the text can be read, with a `broken` leaf where it cannot.

`fault?` is the first problem that a reader meets who wants to know every value, and `skipFault?`
the one met by a reader who only looks for the end of the value: it does not count levels, does
not compose characters and does not compute numbers.  Where the two meet different problems in a
broken text, a `Stop` holds both.
-/

namespace CircuitRelay

/-- Why a document cannot be used. -/
inductive Flaw where
  | malformed
  | ended
  | mistyped
  deriving DecidableEq, Repr

/-- The name of a flaw. -/
def Flaw.name : Flaw → String
  | .malformed => "syntax"
  | .ended => "eof"
  | .mistyped => "data"

/-- Why a text cannot be read on. -/
structure Stop where
  /-- The flaw met by a reader who wants the value. -/
  wanted : Flaw
  /-- The flaw met by a reader who looks for the end of the value. -/
  skipped : Flaw
  deriving DecidableEq, Repr

/-- The flaw that both readers meet. -/
def Stop.same (f : Flaw) : Stop := ⟨f, f⟩

/-- What stands where a record names its next value. -/
inductive Label where
  | known (s : String)
  /-- A name with one half of a surrogate pair. -/
  | unpaired
  /-- No name that can be read, and so no value either. -/
  | missing (stop : Stop)
  deriving DecidableEq, Repr

/-- The name that a label is. -/
def Label.name? : Label → Option String
  | .known s => some s
  | .unpaired | .missing _ => none

/-- The tree of a text as far as it can be read. -/
inductive Document where
  | null
  | flag (b : Bool)
  /-- A number written without fraction and exponent that fits in 64 bits, signed or not. -/
  | integer (n : Int)
  /-- Any other number, `mantissa * 10 ^ exponent`. -/
  | decimal (mantissa exponent : Int)
  /-- A number beyond the range of floating point numbers. -/
  | huge
  | text (s : String)
  /-- A text with one half of a surrogate pair. -/
  | unpaired
  /-- A value of a kind that no setting has, such as an infinite number. -/
  | other
  /-- Values in order.  The flaw is what stands where the list should go on or end. -/
  | list (items : List Document) (ending : Option Flaw)
  /-- Labelled values in order.  The flaw is what stands behind a value where the record should go
  on or end. -/
  | record (fields : List (Label × Document)) (ending : Option Flaw)
  /-- A value that cannot be read, with its first character, if there is one. -/
  | broken (first : Option Char) (stop : Stop)

namespace Document

instance : Inhabited Document := ⟨.null⟩

/-- The number of levels from which on a document is refused. -/
def maxLevels : Nat := 128

/-- The flaw of opening one more level inside so many. -/
def levelFault? (levels : Nat) : Option Flaw :=
  if maxLevels ≤ levels + 1 then some .malformed else none

mutual

/-- The first flaw of a value inside so many levels. -/
def fault? (levels : Nat) : Document → Option Flaw
  | .list items ending => (levelFault? levels).or ((faultOfItems? (levels + 1) items).or ending)
  | .record fields ending =>
    (levelFault? levels).or ((faultOfFields? (levels + 1) fields).or ending)
  | .huge => some .malformed
  | .unpaired => some .malformed
  | .broken _ stop => some stop.wanted
  | .null | .flag _ | .integer _ | .decimal _ _ | .text _ | .other => none

/-- The first flaw of values. -/
def faultOfItems? (levels : Nat) : List Document → Option Flaw
  | [] => none
  | d :: rest => (fault? levels d).or (faultOfItems? levels rest)

/-- The first flaw of labelled values. -/
def faultOfFields? (levels : Nat) : List (Label × Document) → Option Flaw
  | [] => none
  | (.missing stop, _) :: _ => some stop.wanted
  | (.unpaired, _) :: _ => some .malformed
  | (.known _, d) :: rest => (fault? levels d).or (faultOfFields? levels rest)

end

mutual

/-- The first flaw of a value that nobody wants to know. -/
def skipFault? : Document → Option Flaw
  | .list items ending => (skipFaultOfItems? items).or ending
  | .record fields ending => (skipFaultOfFields? fields).or ending
  | .broken _ stop => some stop.skipped
  | .null | .flag _ | .integer _ | .decimal _ _ | .huge | .text _ | .unpaired | .other => none

/-- The first flaw of values that nobody wants to know. -/
def skipFaultOfItems? : List Document → Option Flaw
  | [] => none
  | d :: rest => (skipFault? d).or (skipFaultOfItems? rest)

/-- The first flaw of labelled values that nobody wants to know. -/
def skipFaultOfFields? : List (Label × Document) → Option Flaw
  | [] => none
  | (.missing stop, _) :: _ => some stop.skipped
  | (.unpaired, d) :: rest => (skipFault? d).or (skipFaultOfFields? rest)
  | (.known _, d) :: rest => (skipFault? d).or (skipFaultOfFields? rest)

end

/-- The flaw of a value that should have been one of another kind: its own if it has one that shows
before its first inner value. -/
def mismatch : Document → Flaw
  | .broken _ stop => stop.wanted
  | .huge | .unpaired => .malformed
  | .null | .flag _ | .integer _ | .decimal _ _ | .text _ | .other | .list _ _ | .record _ _ =>
    .mistyped

/-- The first value of a name in a list of labelled values. -/
def field? (name : String) : List (Label × Document) → Option Document
  | [] => none
  | (k, d) :: rest => if k = .known name then some d else field? name rest

end Document

end CircuitRelay
