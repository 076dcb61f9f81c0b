import CircuitRelay.Access.List
import CircuitRelay.Log
import CircuitRelay.Tally

/-!
# Access control

The access list in force, with a count of its verdicts.  A denial is logged with the rule that
decided, at the usual level when the list asks for an audit.
-/

namespace CircuitRelay

/-- An access list in force. -/
structure AccessControl where
  list : AccessList
  /-- How often each kind of request met each verdict. -/
  verdicts : Tally (RelayRequest.Action × Verdict)

namespace AccessControl

/-- Puts a list in force. -/
def ofList (list : AccessList) : AccessControl := ⟨list, .empty⟩

/-- What is logged about a denial. -/
structure Denial where
  /-- The level of the message. -/
  level : LogLevel
  /-- The rule that decided. -/
  rule : AccessList.Rule
  deriving DecidableEq, Repr

/-- The verdict on a request, with what is logged when it is a denial. -/
def evaluate (c : AccessControl) (peer : PeerId) (request : RelayRequest) (connections : Nat) :
    (Verdict × Option Denial) × AccessControl :=
  let (verdict, rule) := c.list.decide peer request connections
  let denial : Option Denial :=
    match verdict with
    | .allow => none
    | .deny => some ⟨if c.list.audit then .info else .debug, rule⟩
  ((verdict, denial), { c with verdicts := c.verdicts.record (request.action, verdict) })

end AccessControl

end CircuitRelay
