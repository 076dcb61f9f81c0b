import CircuitRelay.Config.Schema
import CircuitRelay.Document.Json
import CircuitRelay.Document.Toml
import CircuitRelay.File

/-!
# Loading the configuration

A configuration file is JSON, unless its extension says TOML.  Without a file name the node runs
without settings.
-/

namespace CircuitRelay

namespace Config

open Document

/-- Why a configuration cannot be loaded. -/
inductive LoadFault where
  | file (fault : File.Fault)
  | json (flaw : Flaw)
  | toml
  deriving DecidableEq, Repr

/-- A loaded configuration. -/
structure Loaded where
  config : Config
  /-- The paths of the keys that no setting took. -/
  unknown : List String

/-- The grammar of a file. -/
def formatOf (path : String) : Format :=
  if File.extension? path = some "toml" then .toml else .json

/-- Reads a JSON text; what follows the value is a flaw unless the value has one itself. -/
def ofJson (cs : List Char) : Except Flaw Loaded := do
  let (d, trailing) := Json.read cs
  let config ← ofDocument .json d
  match trailing with
  | some f => .error f
  | none => .ok ⟨config, unknownKeys .json d⟩

/-- A JSON text is loaded when nothing is wrong with it behind its value and the value is read. -/
theorem ofJson_eq_ok_iff {cs : List Char} {d : Document} {trailing : Option Flaw} {l : Loaded}
    (text : Json.read cs = (d, trailing)) : ofJson cs = .ok l ↔
      trailing = none ∧ ofDocument .json d = .ok l.config ∧ l.unknown = unknownKeys .json d := by
  unfold ofJson
  rw [text]
  dsimp only
  obtain ⟨config, unknown⟩ := l
  cases read : ofDocument .json d with
  | error flaw => simp [bind, Except.bind]
  | ok c =>
    cases trailing with
    | some flaw => simp [bind, Except.bind]
    | none => simp [bind, Except.bind, eq_comm (a := unknown)]

/-- Reads a TOML text. -/
def ofToml (cs : List Char) : Option Loaded := do
  let d ← Toml.read cs
  let config ← (ofDocument .toml d).toOption
  some ⟨config, unknownKeys .toml d⟩

/-- Loads what is found at a path. -/
def load (path : String) (file : File) : Except LoadFault Loaded :=
  if path.isEmpty then .ok ⟨standard, []⟩
  else do
    let cs ← file.readText.mapError .file
    match formatOf path with
    | .json => (ofJson cs).mapError .json
    | .toml =>
      match ofToml cs with
      | some l => .ok l
      | none => .error .toml

end Config

end CircuitRelay
