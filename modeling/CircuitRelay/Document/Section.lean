import CircuitRelay.Document.Reader

/-!
# Sections of settings

A section is a record of settings, each of which may be absent.  Its `Schema` lists the settings
with the keys that name them, and says how each is read.  A key that names no setting is passed
over and remembered, so that the operator can be told.

Reading a section has two parts.  `faultOfFields?` goes through the fields in the order of the
text, so that the first problem is the one reported; a setting that was given already is one.
`apply` goes through the schema and looks every setting up, so the value of a section without
flaws does not depend on the order of its fields.
-/

namespace CircuitRelay

namespace Document

/-- A setting of a section with values in `σ`. -/
structure Entry (σ : Type) where
  /-- The key of the setting. -/
  key : String
  /-- Another key for it. -/
  otherKey : Option String
  /-- Reads the setting as a change of the section. -/
  read : Reader (σ → σ)
  /-- The paths of the keys inside the setting that name nothing, behind a path. -/
  unknown : String → Document → List String

/-- The settings of a section. -/
abbrev Schema (σ : Type) := List (Entry σ)

/-- The fields of a record. -/
abbrev Fields := List (Label × Document)

namespace Schema

variable {σ τ : Type}

/-- Whether a key names a setting. -/
def names (e : Entry σ) (key : String) : Bool := e.key = key || e.otherKey = some key

/-- The setting that a key names. -/
def entry? (schema : Schema σ) (key : String) : Option (Entry σ) :=
  schema.find? fun e => names e key

/-- The first value of a setting. -/
def value? (e : Entry σ) (fields : Fields) : Option Document :=
  (fields.find? fun f => f.1.name?.any (names e)).map Prod.snd

/-- The first flaw of some fields, of which some settings were given before; `pass?` finds the
flaws of a value that no setting takes. -/
def faultOfFields? (schema : Schema σ) (pass? : Document → Option Flaw) (levels : Nat)
    (given : List String) : Fields → Option Flaw
  | [] => none
  | (.missing stop, _) :: _ => some stop.wanted
  | (.unpaired, _) :: _ => some .malformed
  | (.known key, d) :: rest =>
    match schema.entry? key with
    | none => (pass? d).or (faultOfFields? schema pass? levels given rest)
    | some e =>
      if e.key ∈ given then some .mistyped
      else
        match e.read levels d with
        | .error f => some f
        | .ok _ => faultOfFields? schema pass? levels (e.key :: given) rest

/-- Changes a section by one setting, if it is given. -/
def applyEntry (levels : Nat) (fields : Fields) (s : σ) (e : Entry σ) : σ :=
  match value? e fields with
  | none => s
  | some d =>
    match e.read levels d with
    | .ok change => change s
    | .error _ => s

/-- Changes a section by every setting that is given. -/
def apply (schema : Schema σ) (levels : Nat) (fields : Fields) (start : σ) : σ :=
  schema.foldl (applyEntry levels fields) start

/-- Reads the fields of a section inside so many levels, starting from its value without
settings. -/
def readFields (schema : Schema σ) (pass? : Document → Option Flaw) (start : σ) (levels : Nat)
    (fields : Fields) (ending : Option Flaw) : Except Flaw σ :=
  match (schema.faultOfFields? pass? levels [] fields).or ending with
  | some f => .error f
  | none => .ok (schema.apply levels fields start)

/-- Reads a section whose other keys have to be sound values. -/
def read (schema : Schema σ) (start : σ) : Reader σ
  | levels, .record fields ending =>
    schema.readFields (fault? (levels + 1)) start (levels + 1) fields ending
  | _, d => .error d.mismatch

/-- The keys of a section that name no setting, in order and once each. -/
def unknownKeys (schema : Schema σ) (fields : Fields) : List String :=
  let keys := (fields.filterMap fun f => f.1.name?).filter fun k => (schema.entry? k).isNone
  (keys.mergeSort fun a b => !(b < a)).eraseReps

/-- The paths of the keys of a section that name nothing, its own before those further in. -/
def unknown (schema : Schema σ) (path : String) : Document → List String
  | .record fields _ =>
    (schema.unknownKeys fields).map (path ++ ·) ++
      schema.flatMap fun e => ((value? e fields).map (e.unknown path)).getD []
  | _ => []

end Schema

namespace Entry

variable {σ τ α : Type}

/-- A setting with a plain value. -/
def value (key : String) (otherKey : Option String) (read : Reader α) (set : α → σ → σ) :
    Entry σ where
  key := key
  otherKey := otherKey
  read := fun levels d => (read levels d).map set
  unknown := fun _ _ => []

/-- A setting that is a section itself. -/
def «section» (key : String) (otherKey : Option String) (schema : Schema τ) (start : τ)
    (set : τ → σ → σ) : Entry σ where
  key := key
  otherKey := otherKey
  read := fun levels d => (schema.read start levels d).map set
  unknown := fun path d => schema.unknown (path ++ key ++ ".") d

end Entry

end Document

end CircuitRelay
