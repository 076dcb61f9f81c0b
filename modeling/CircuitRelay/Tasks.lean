import CircuitRelay.Tally

/-!
# Tasks

The node runs its work as tasks and counts them.  The end of the node is announced once and for
all; a critical task that fails announces it, so that the node does not go on half broken, while
the failure of any other task concerns only whoever waits for it.
-/

namespace CircuitRelay

namespace Tasks

/-- The kinds of tasks. -/
inductive Kind where
  | regular
  | critical
  deriving DecidableEq, Repr

/-- How a task ends. -/
inductive Ending where
  | returns
  | fails
  | aborted
  deriving DecidableEq, Repr

end Tasks

/-- The tasks of a node. -/
structure Tasks where
  /-- Whether the end is announced. -/
  ending : Bool
  /-- How many tasks of each kind were started. -/
  started : Tally Tasks.Kind
  /-- How many tasks of each kind are over. -/
  finished : Tally Tasks.Kind

namespace Tasks

/-- The start. -/
def initial : Tasks := ⟨false, .empty, .empty⟩

/-- Announces the end. -/
def announceEnd (t : Tasks) : Tasks := { t with ending := true }

/-- Whether waiting for a task succeeds: its failure is caught if it is critical. -/
def joins : Kind → Ending → Bool
  | _, .returns => true
  | .regular, .fails => false
  | .critical, .fails => true
  | _, .aborted => false

/-- Runs a task to its end; the answer says whether waiting for it succeeds. -/
def run (t : Tasks) (kind : Kind) (ending : Ending) : Bool × Tasks :=
  let counted := { t with started := t.started.record kind, finished := t.finished.record kind }
  (joins kind ending,
    if kind = .critical ∧ ending = .fails then counted.announceEnd else counted)

end Tasks

end CircuitRelay
