import CircuitRelay.Log
import CircuitRelay.Log.Value
import CircuitRelay.Text.Blank
import CircuitRelay.Text.Letters

/-!
# Log filters

A filter is a list of directives.  Each sets the level for some messages: those of a target, those
inside a span, those with certain fields, or all.  A filter keeps its directives with the most
specific first and no two for the same messages; static directives, which can be decided for a
message once and for all, stand before the ones that depend on a span or on a value.
-/

namespace CircuitRelay

namespace LogLevel

/-- The levels by name. -/
def names : List (String × LogLevel) :=
  [("error", .error), ("warn", .warn), ("info", .info), ("debug", .debug), ("trace", .trace),
    ("off", .off)]

/-- The levels by number. -/
def numbers : List LogLevel := [.off, .error, .warn, .info, .debug, .trace]

/-- The level of a name, in capital letters or not, or of a number. -/
def ofText? (cs : List Char) : Option LogLevel :=
  match Text.readNat (2 ^ 64 - 1) cs with
  | .ok n => if h : n < numbers.length then some numbers[n] else none
  | .error _ => names.lookup (String.ofList (cs.map Char.toLower))

end LogLevel

/-- A field that a directive asks for. -/
structure LogField where
  /-- The name of the field. -/
  name : String
  /-- The value that it has to have. -/
  value : Option LogValue
  deriving DecidableEq, Repr

/-- A directive of a filter. -/
structure LogDirective where
  /-- The target of the messages. -/
  target : Option String
  /-- The span that the messages are in. -/
  span : Option String
  /-- The fields that the messages or their spans have. -/
  fields : List LogField
  /-- How much is logged. -/
  level : LogLevel
  deriving DecidableEq, Repr

namespace LogDirective

/-- The directive for all messages. -/
def base (level : LogLevel) : LogDirective := ⟨none, none, [], level⟩

/-! ## Reading -/

/-- A directive being read, with the place of the next thing to be read. -/
inductive State where
  | start
  /-- A target, or a level for all messages, from its first character on. -/
  | name
  | span (first : Nat)
  | field (first : Nat)
  | fieldsDone
  | spanDone
  | level (first : Nat)
  deriving DecidableEq, Repr

/-- The characters behind so many octets, if these are whole characters. -/
def dropOctets? : Nat → List Char → Option (List Char)
  | 0, cs => some cs
  | _ + 1, [] => none
  | n, c :: cs => if c.utf8Size ≤ n then dropOctets? (n - c.utf8Size) cs else none

/-- The characters in the first so many octets, if these are whole characters. -/
def takeOctets? : Nat → List Char → Option (List Char)
  | 0, _ => some []
  | _ + 1, [] => none
  | n, c :: cs => if c.utf8Size ≤ n then (takeOctets? (n - c.utf8Size) cs).map (c :: ·) else none

/-- The characters from one place to another. -/
def slice? (cs : List Char) (first last : Nat) : Option (List Char) :=
  (dropOctets? first cs).bind (takeOctets? (last - first))

/-- The text of some characters. -/
def textOf? (cs : List Char) (first last : Nat) : Option String :=
  (slice? cs first last).map String.ofList

/-- Whether a directive may start with a character: a letter or a number of any script, or one of
three signs. -/
def canStart (c : Char) : Bool := Text.isAlphanumeric c || c = '-' || c = ':' || c = '_'

/-- Reads a field; an empty one is no field. -/
def fieldOf (cs : List Char) : Option LogField :=
  match cs.splitOn '=' with
  | [[]] => none
  | name :: value :: _ => (LogValue.ofText? value).map fun v => ⟨String.ofList name, some v⟩
  | name :: [] => some ⟨String.ofList name, none⟩
  | [] => none

/-- Reads one character at a place. -/
def step (cs : List Char) (i : Nat) (c : Char) :
    State × LogDirective → Option (State × LogDirective)
  | (.start, d) =>
    if c = '[' then some (.span (i + 1), d)
    else if canStart c then some (.name, d)
    else none
  | (.name, d) =>
    if c = '=' then do some (.level (i + 1), { d with target := some (← textOf? cs 0 i) })
    else if c = '[' then do some (.span (i + 1), { d with target := some (← textOf? cs 0 i) })
    else some (.name, d)
  | (.span first, d) =>
    if c = ']' then do some (.spanDone, { d with span := some (← textOf? cs first i) })
    else if c = '\x7b' then do
      let name ← textOf? cs first i
      some (.field (i + 1), { d with span := if name.isEmpty then none else some name })
    else some (.span first, d)
  | (.field first, d) =>
    if c = '\x7d' ∨ c = ',' then do
      let f ← fieldOf (← slice? cs first i)
      some (if c = ',' then .field (i + 1) else .fieldsDone, { d with fields := d.fields ++ [f] })
    else some (.field first, d)
  | (.fieldsDone, d) => if c = ']' then some (.spanDone, d) else none
  | (.spanDone, d) => if c = '=' then some (.level (i + 1), d) else none
  | (.level first, d) => some (.level first, d)

/-- Reads characters from a place on. -/
def run (cs : List Char) : Nat → List Char → State × LogDirective → Option (State × LogDirective)
  | _, [], s => some s
  | i, c :: rest, s => (step cs i c s).bind (run cs (i + c.utf8Size) rest)

/-- The directive that was read; without a level everything is logged. -/
def finish (cs : List Char) : State × LogDirective → Option LogDirective
  | (.name, d) =>
    match LogLevel.ofText? cs with
    | some level => some { d with level := level }
    | none => some { d with target := some (String.ofList cs) }
  | (.level first, d) => do
    let text ← dropOctets? first cs
    if text.isEmpty then some d
    else (LogLevel.ofText? text).map fun level => { d with level := level }
  | (.spanDone, d) => some d
  | (.start, _) | (.span _, _) | (.field _, _) | (.fieldsDone, _) => none

/-- Reads a directive.  Blanks around it are not read, but places, which count octets, are counted
as if they were in front of everything that is. -/
def ofText? (cs : List Char) : Option LogDirective :=
  (run cs 0 (Text.trim cs) (.start, base .trace)).bind (finish cs)

/-! ## Writing -/

/-- A written field. -/
def fieldText (f : LogField) : String :=
  match f.value with
  | some v => f.name ++ "=" ++ v.toText
  | none => f.name

/-- A written directive. -/
def toText (d : LogDirective) : String :=
  let fields :=
    if d.fields.isEmpty then ""
    else "\x7b" ++ ",".intercalate (d.fields.map fieldText) ++ "\x7d"
  let inSpan :=
    if d.span.isNone ∧ d.fields.isEmpty then "" else "[" ++ d.span.getD "" ++ fields ++ "]"
  let scope := d.target.getD "" ++ inSpan
  if d.target.isNone ∧ inSpan.isEmpty then d.level.name else scope ++ "=" ++ d.level.name

/-! ## Order -/

/-- Whether a directive is decided for a message once and for all. -/
def isStatic (d : LogDirective) : Bool := d.span.isNone && d.fields.all fun f => f.value.isNone

/-- The order of missing and present values. -/
def compareOption {α : Type} (compare : α → α → Ordering) : Option α → Option α → Ordering
  | none, none => .eq
  | none, some _ => .lt
  | some _, none => .gt
  | some a, some b => compare a b

/-- The order of fields: those with a value above those without. -/
def compareField (a b : LogField) : Ordering :=
  ((compare a.value.isSome.toNat b.value.isSome.toNat).then
    (LogValue.compareText a.name b.name)).then
    (compareOption LogValue.compare a.value b.value)

/-- The order of lists of fields. -/
def compareFields : List LogField → List LogField → Ordering
  | [], [] => .eq
  | [], _ :: _ => .lt
  | _ :: _, [] => .gt
  | a :: as, b :: bs => (compareField a b).then (compareFields as bs)

/-- The order of directives by the messages they are for, the most general first. -/
def compareScope (a b : LogDirective) : Ordering :=
  let length (d : LogDirective) := d.target.map String.utf8ByteSize
  ((((((compareOption compare (length a) (length b)).then
    (compare a.span.isSome.toNat b.span.isSome.toNat)).then
    (compare a.fields.length b.fields.length)).then
    (compareOption LogValue.compareText a.target b.target)).then
    (compareOption LogValue.compareText a.span b.span)).then
    (compareFields a.fields b.fields))

end LogDirective

/-- A filter. -/
structure LogFilter where
  /-- The static directives, most specific first. -/
  static : List LogDirective
  /-- The other directives, most specific first. -/
  dynamic : List LogDirective

namespace LogFilter

/-- The filter with one level for all messages. -/
def ofLevel (level : LogLevel) : LogFilter := ⟨[.base level], []⟩

/-- Puts a directive at its place, where it replaces one for the same messages. -/
def insert (d : LogDirective) : List LogDirective → List LogDirective
  | [] => [d]
  | e :: rest =>
    match LogDirective.compareScope d e with
    | .gt => d :: e :: rest
    | .eq => d :: rest
    | .lt => e :: insert d rest

/-- Adds a directive. -/
def add (f : LogFilter) (d : LogDirective) : LogFilter :=
  if d.isStatic then { f with static := insert d f.static }
  else { f with dynamic := insert d f.dynamic }

/-- Adds the directives of a text with commas between them; what is no directive is left out. -/
def addText (f : LogFilter) (s : String) : LogFilter :=
  (s.toList.splitOn ',').foldl (fun f cs => ((LogDirective.ofText? cs).map f.add).getD f) f

/-- A written filter. -/
def toText (f : LogFilter) : String :=
  ",".intercalate ((f.static ++ f.dynamic).map LogDirective.toText)

end LogFilter

end CircuitRelay
