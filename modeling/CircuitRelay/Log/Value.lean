import CircuitRelay.Log.Pattern
import CircuitRelay.Text.Floating

/-!
# Values of fields

A directive may ask for the value of a field.  What the value is depends on its text: a truth
value, a whole number, a floating point number, or else a pattern.  Values have an order, in which
the kinds come first; patterns are the last kind, because they say least about the value.
-/

namespace CircuitRelay

/-- The value that a field has to have. -/
inductive LogValue where
  | flag (b : Bool)
  | floating (x : Floating)
  /-- No number, as floating point arithmetic has it. -/
  | notANumber
  | natural (n : Nat)
  /-- An integer of 64 bits with a minus sign. -/
  | integer (n : Int)
  | pattern (s : String)
  deriving DecidableEq, Repr

namespace LogValue

/-! ## Reading -/

/-- Reads an integer of 64 bits with a minus sign. -/
def integer? : List Char → Option Int
  | '-' :: c :: cs =>
    match Text.readDigits 10 (2 ^ 63) 0 (c :: cs) with
    | .ok n => some (-n)
    | .error _ => none
  | _ => none

/-- Reads a whole number. -/
def whole? (cs : List Char) : Option LogValue :=
  match Text.readNat (2 ^ 64 - 1) cs with
  | .ok n => some (.natural n)
  | .error _ => (integer? cs).map .integer

/-- The value that a floating point number or what stands for none is. -/
def ofLiteral : Floating.Literal → LogValue
  | .number x => .floating x
  | .notANumber => .notANumber

/-- Reads a value; a text that is no number has to be a pattern. -/
def ofText? (cs : List Char) : Option LogValue :=
  if cs = "true".toList then some (.flag true)
  else if cs = "false".toList then some (.flag false)
  else
    ((whole? cs).or ((Floating.ofText? cs).map ofLiteral)).or
      (if LogPattern.isValid cs then some (.pattern (String.ofList cs)) else none)

/-! ## Writing -/

/-- A written value. -/
def toText : LogValue → String
  | .flag b => if b then "true" else "false"
  | .floating x => x.toText
  | .notANumber => "NaN"
  | .natural n => String.ofList (Text.digits n)
  | .integer n => (if n < 0 then "-" else "") ++ String.ofList (Text.digits n.natAbs)
  | .pattern s => s

/-! ## Order -/

/-- The order of texts. -/
def compareText (a b : String) : Ordering := if a < b then .lt else if a = b then .eq else .gt

/-- The place of the kind of a value among the kinds. -/
def kind : LogValue → Nat
  | .flag _ => 0
  | .floating _ => 1
  | .notANumber => 2
  | .natural _ => 3
  | .integer _ => 4
  | .pattern _ => 5

/-- The order of values. -/
def compare : LogValue → LogValue → Ordering
  | .flag a, .flag b => Ord.compare a.toNat b.toNat
  | .floating x, .floating y => x.compare y
  | .natural m, .natural n => Ord.compare m n
  | .integer m, .integer n => Ord.compare m n
  | .pattern s, .pattern t => compareText s t
  | v, w => Ord.compare v.kind w.kind

end LogValue

end CircuitRelay
