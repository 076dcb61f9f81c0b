import CircuitRelay.Document.Basic

/-!
# Reading documents

A reader takes a document, inside so many levels, and gives a value or the first flaw it meets.
The readers here are those of the plain values that settings have.
-/

namespace CircuitRelay

namespace Document

/-- How a value is read from a document inside so many levels. -/
abbrev Reader (α : Type) := Nat → Document → Except Flaw α

/-- The grammars in which documents are written, where they differ. -/
inductive Format where
  | json
  | toml
  deriving DecidableEq, Repr

namespace Reader

variable {α : Type}

/-- A text. -/
def text : Reader String
  | _, .text s => .ok s
  | _, d => .error d.mismatch

/-- A truth value. -/
def flag : Reader Bool
  | _, .flag b => .ok b
  | _, d => .error d.mismatch

/-- An integer from `low` to `high`. -/
def integer (low high : Int) : Reader Int
  | _, .integer n => if low ≤ n ∧ n ≤ high then .ok n else .error .mistyped
  | _, d => .error d.mismatch

/-- A word of 64 bits. -/
def word : Reader Nat := fun levels d => (integer 0 (2 ^ 64 - 1) levels d).map Int.toNat

/-- A value that may be missing. -/
def optional (read : Reader α) : Reader (Option α)
  | _, .null => .ok none
  | _, .broken (some 'n') stop => .error stop.wanted
  | levels, d => (read levels d).map some

/-- Values of one kind. -/
def items (read : Reader α) (levels : Nat) : List Document → Except Flaw (List α)
  | [] => .ok []
  | d :: rest => do
    let a ← read levels d
    let as ← items read levels rest
    .ok (a :: as)

/-- A list of values of one kind. -/
def list (read : Reader α) : Reader (List α)
  | levels, .list ds ending => do
    let as ← items read (levels + 1) ds
    match ending with
    | none => .ok as
    | some f => .error f
  | _, d => .error d.mismatch

/-- The value of a name among several. -/
def named (choices : List (String × α)) (name : String) : Except Flaw α :=
  match choices.lookup name with
  | some a => .ok a
  | none => .error .mistyped

/-- Nothing beside the name of a choice. -/
def nothing : Format → Document → Except Flaw Unit
  | .json, .null => .ok ()
  | .json, d => .error d.mismatch
  | .toml, .list [] _ => .ok ()
  | .toml, .record [] _ => .ok ()
  | .toml, _ => .error .mistyped

/-- One of several names: as a text, or as the only name in a record without anything in it.
Whatever stands behind that name and is not the end of the record is a flaw. -/
def choice (format : Format) (choices : List (String × α)) : Reader α
  | _, .text s => named choices s
  | _, .unpaired => .error .malformed
  | _, .broken (some '"') stop => .error stop.wanted
  | _, .broken none stop => .error stop.wanted
  | _, .record [] ending => .error (ending.getD .malformed)
  | _, .record ((.missing stop, _) :: _) _ => .error stop.wanted
  | _, .record ((.unpaired, _) :: _) _ => .error .malformed
  | _, .record ((.known name, d) :: rest) ending => do
    let a ← named choices name
    nothing format d
    if rest.isEmpty then
      match ending with
      | none => .ok a
      | some f => .error f
    else .error .malformed
  | _, _ => .error .malformed

end Reader

end Document

end CircuitRelay
