import CircuitRelay.Log.Settings

/-!
# The command line

The program takes options only.  An option with a value takes it from the same argument behind an
equals sign, or from the next argument, unless that one is an option itself.  Options of one letter
may stand together behind one dash.  Everything else is an error, and so is an option given twice,
except for the one that is counted.
-/

namespace CircuitRelay

/-- What the command line asks for. -/
structure CommandLine where
  /-- The path of the identity. -/
  id : String
  /-- The path of the configuration. -/
  config : Option String
  /-- The path of the network secret. -/
  secret : Option String
  /-- How much is logged, and how. -/
  log : LogSettings
  deriving DecidableEq, Repr

namespace CommandLine

/-- Why a command line is not carried out. -/
inductive Stop where
  | help
  | version
  /-- An option has no value, or one that it cannot have. -/
  | invalidValue
  /-- An option without a value is given one. -/
  | tooManyValues
  | conflict
  | unknownArgument
  deriving DecidableEq, Repr

/-- The name of a reason. -/
def Stop.name : Stop → String
  | .help => "DisplayHelp"
  | .version => "DisplayVersion"
  | .invalidValue => "InvalidValue"
  | .tooManyValues => "TooManyValues"
  | .conflict => "ArgumentConflict"
  | .unknownArgument => "UnknownArgument"

/-- The options with a value. -/
inductive Setting where
  | id
  | config
  | secret
  | filter
  deriving DecidableEq, Repr

/-- The options without a value. -/
inductive Switch where
  | quiet
  | verbosity
  | json
  | help
  | version
  deriving DecidableEq, Repr

/-- An option. -/
inductive Flag where
  | setting (s : Setting)
  | switch (s : Switch)
  deriving DecidableEq, Repr

/-- The options by long name. -/
def longNames : List (String × Flag) := [
  ("id", .setting .id),
  ("config", .setting .config),
  ("swarmkey", .setting .secret),
  ("log.filter", .setting .filter),
  ("quiet", .switch .quiet),
  ("verbosity", .switch .verbosity),
  ("log.json", .switch .json),
  ("help", .switch .help),
  ("version", .switch .version)]

/-- The switches by letter. -/
def letters : List (Char × Switch) :=
  [('q', .quiet), ('v', .verbosity), ('h', .help), ('V', .version)]

/-- The options met so far.  An option is entered, with what may be wrong with its value, when the
next one is met; until then it is pending. -/
structure Parsed where
  values : List (Setting × String)
  /-- Whether only errors are logged. -/
  quiet : Bool
  /-- How often more was asked for. -/
  verbosity : Nat
  /-- Whether messages are written as JSON. -/
  json : Bool
  /-- The pending option with its value, if it was met. -/
  pending : Option (Setting × Option String)

/-- Nothing met. -/
def Parsed.empty : Parsed := ⟨[], false, 0, false, none⟩

/-- The largest count. -/
def maxVerbosity : Nat := 255

/-- Gives an option a value; no option has two values, and a path is never empty. -/
def Parsed.give (p : Parsed) (s : Setting) (value : String) : Except Stop Parsed :=
  if p.values.any (·.1 = s) then .error .conflict
  else if value.isEmpty ∧ s ≠ .filter then .error .invalidValue
  else .ok { p with values := p.values ++ [(s, value)] }

/-- Enters the pending option. -/
def Parsed.settle (p : Parsed) : Except Stop Parsed :=
  match p.pending with
  | none => .ok p
  | some (_, none) => .error .invalidValue
  | some (s, some value) => { p with pending := none }.give s value

/-- Carries out a switch. -/
def Parsed.turn (p : Parsed) (s : Switch) : Except Stop Parsed := do
  let p ← p.settle
  match s with
  | .quiet => if p.quiet then .error .conflict else .ok { p with quiet := true }
  | .json => if p.json then .error .conflict else .ok { p with json := true }
  | .verbosity => .ok { p with verbosity := min maxVerbosity (p.verbosity + 1) }
  | .help => .error .help
  | .version => .error .version

/-- Carries out the letters behind one dash. -/
def Parsed.turnAll (p : Parsed) : List Char → Except Stop Parsed
  | [] => .ok p
  | c :: rest =>
    match letters.lookup c with
    | none => .error .unknownArgument
    | some s => do (← p.turn s).turnAll rest

/-- Takes a long option, with a value behind an equals sign if there is one. -/
def Parsed.takeLong (p : Parsed) (name : String) (value : Option String) : Except Stop Parsed :=
  match longNames.lookup name, value with
  | none, _ => .error .unknownArgument
  | some (.switch s), none => p.turn s
  | some (.switch _), some _ => .error .tooManyValues
  | some (.setting s), some value => do (← p.settle).give s value
  | some (.setting s), none => do .ok { (← p.settle) with pending := some (s, none) }

/-- Takes an argument that is no option: the value that is expected. -/
def Parsed.takeValue (p : Parsed) (arg : String) : Except Stop Parsed :=
  match p.pending with
  | some (s, none) => .ok { p with pending := some (s, some arg) }
  | _ => .error .unknownArgument

/-- Splits a long option at its first equals sign. -/
def splitLong (cs : List Char) : String × Option String :=
  let value := cs.dropWhile (· ≠ '=')
  (String.ofList (cs.takeWhile (· ≠ '=')),
    if value.isEmpty then none else some (String.ofList value.tail))

/-- Takes arguments; behind two dashes none may follow. -/
def Parsed.run (p : Parsed) : List String → Except Stop Parsed
  | [] => p.settle
  | arg :: rest =>
    match arg.toList with
    | ['-', '-'] => if rest.isEmpty then p.settle else .error .unknownArgument
    | '-' :: '-' :: cs => do
      let (name, value) := splitLong cs
      (← p.takeLong name value).run rest
    | '-' :: c :: cs => do (← p.turnAll (c :: cs)).run rest
    | _ => do (← p.takeValue arg).run rest

/-- The path of the identity when none is given. -/
def standardId : String := "identity"

/-- What was asked for. -/
def ofParsed (p : Parsed) : CommandLine where
  id := (p.values.lookup .id).getD standardId
  config := p.values.lookup .config
  secret := p.values.lookup .secret
  log := ⟨p.quiet, p.verbosity, p.values.lookup .filter, p.json⟩

/-- Reads the arguments behind the name of the program. -/
def ofArguments (args : List String) : Except Stop CommandLine :=
  (Parsed.empty.run args).map ofParsed

end CommandLine

end CircuitRelay
