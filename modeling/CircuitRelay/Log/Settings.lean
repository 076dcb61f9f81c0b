import CircuitRelay.Document.Json
import CircuitRelay.Document.Printer
import CircuitRelay.Document.Section
import CircuitRelay.Log.Filter

/-!
# Log settings

How much is logged, and how.  The command line counts how often more was asked for; a document
cannot.  Without a filter of its own the node logs every message up to one level.
-/

namespace CircuitRelay

/-- How much is logged, and how. -/
structure LogSettings where
  /-- Whether only errors are logged. -/
  quiet : Bool
  /-- How often more was asked for, up to 255. -/
  verbosity : Nat
  filter : Option String
  /-- Whether messages are written as JSON. -/
  json : Bool
  deriving DecidableEq, Repr

namespace LogSettings

open Document

/-- The settings of a node without settings. -/
def standard : LogSettings := ⟨false, 0, none, false⟩

/-- The level for all messages. -/
def baseLevel (s : LogSettings) : LogLevel :=
  if s.quiet then .error
  else
    match s.verbosity with
    | 0 => .info
    | 1 => .debug
    | _ => .trace

/-- The filter: only the level when errors alone are logged, else the level and the directives. -/
def toFilter (s : LogSettings) : LogFilter :=
  let base := LogFilter.ofLevel s.baseLevel
  if s.quiet then base
  else
    match s.filter with
    | some directives => base.addText directives
    | none => base

/-- The settings that a document may hold, in order. -/
def schema : Schema LogSettings := [
  .value "quiet" none .flag fun v s => { s with quiet := v },
  .value "filter" none (.optional .text) fun v s => { s with filter := v },
  .value "json" none .flag fun v s => { s with json := v }]

/-- Reads settings given in order; those that are missing are not set. -/
def readInOrder (levels : Nat) :
    Schema LogSettings → List Document → LogSettings → Except Flaw LogSettings
  | e :: es, d :: ds, s => do
    let change ← e.read levels d
    readInOrder levels es ds (change s)
  | _, _, s => .ok s

/-- Reads a document as settings: a record, whose other keys are passed over, or a list. -/
def reader : Reader LogSettings
  | levels, .record fields ending =>
    schema.readFields skipFault? standard (levels + 1) fields ending
  | levels, .list items ending => do
    let s ← readInOrder (levels + 1) schema items standard
    if schema.length < items.length then .error .malformed
    else
      match ending with
      | none => .ok s
      | some f => .error f
  | _, d => .error d.mismatch

/-- Reads a JSON text as settings. -/
def ofJson (s : String) : Except Flaw LogSettings := do
  let (d, trailing) := Json.read s.toList
  let settings ← reader 0 d
  match trailing with
  | none => .ok settings
  | some f => .error f

/-- The settings as a document. -/
def toDocument (s : LogSettings) : Document :=
  ofFields ([("quiet", .flag s.quiet)] ++
    (s.filter.map fun f => ("filter", Document.text f)).toList ++ [("json", .flag s.json)])

end LogSettings

end CircuitRelay
