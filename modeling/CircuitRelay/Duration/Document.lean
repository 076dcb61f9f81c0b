import CircuitRelay.Document.Reader
import CircuitRelay.Duration.Text

/-!
# Durations in documents

A duration is written as a text with units, or as an integer of nanoseconds.
-/

namespace CircuitRelay

namespace Duration

/-- Why a document is no duration. -/
inductive DocumentFault where
  | flaw (flaw : Flaw)
  /-- It is neither a text nor a word. -/
  | kind
  /-- It is a text, but not that of a duration. -/
  | text (fault : Fault)
  deriving DecidableEq, Repr

/-- The words for a fault. -/
def DocumentFault.message : DocumentFault → String
  | .flaw f => f.name
  | .kind => "data did not match any variant of untagged enum Repr"
  | .text f => f.message

/-- The flaw that a fault is. -/
def DocumentFault.toFlaw : DocumentFault → Flaw
  | .flaw f => f
  | .kind => .mistyped
  | .text _ => .mistyped

/-- Reads a duration inside so many levels. -/
def ofDocument (levels : Nat) (d : Document) : Except DocumentFault Duration :=
  match d.fault? levels with
  | some f => .error (.flaw f)
  | none =>
    match d with
    | .text s => (ofText s).mapError .text
    | .integer n => if 0 ≤ n then .ok (ofWord (UInt64.ofNat n.toNat)) else .error .kind
    | _ => .error .kind

/-- Reads a duration as a setting. -/
def reader : Document.Reader Duration := fun levels d =>
  (ofDocument levels d).mapError DocumentFault.toFlaw

end Duration

end CircuitRelay
