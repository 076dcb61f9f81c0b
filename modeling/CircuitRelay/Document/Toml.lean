import CircuitRelay.Document.Numeral
import CircuitRelay.Text.Integer

/-!
# Documents in TOML

`Toml.read` reads a TOML text as a document.  A text is a sequence of lines; the lines build a
tree of tables, whose branches remember how they came to be, because a table may be given once,
and tables that dotted keys open may not be given as tables again.
-/

namespace CircuitRelay

namespace Toml

/-- Reads something off the front of a text. -/
abbrev Scanner := StateT (List Char) Option

namespace Scanner

/-- The next character, which stays. -/
def peek : Scanner (Option Char) := fun cs => some (cs.head?, cs)

/-- Takes the next character. -/
def next : Scanner Char
  | c :: cs => some (c, cs)
  | [] => none

/-- Takes a character of a kind. -/
def one (p : Char → Bool) : Scanner Char
  | c :: cs => if p c then some (c, cs) else none
  | [] => none

/-- Takes a given character. -/
def char (c : Char) : Scanner Unit := fun cs => (one (· = c) cs).map fun (_, rest) => ((), rest)

/-- Takes characters of a kind. -/
def while? (p : Char → Bool) : Scanner (List Char) := fun cs =>
  some (cs.takeWhile p, cs.dropWhile p)

/-- Takes a given text. -/
def word (w : List Char) : Scanner Unit := fun cs =>
  if w.isPrefixOf cs then some ((), cs.drop w.length) else none

/-- Takes something, if it is there. -/
def maybe {α : Type} (p : Scanner α) : Scanner (Option α) := (some <$> p) <|> pure none

/-- Whether nothing is left. -/
def atEnd : Scanner Bool := fun cs => some (cs.isEmpty, cs)

end Scanner

open Scanner

/-! ## Characters -/

/-- Whether a character is a blank inside a line. -/
def isBlank (c : Char) : Bool := c = ' ' || c = '\t'

/-- Whether a character may stand in a text between quotation marks, which themselves and the
backslash are left to the reader. -/
def isPlain (c : Char) : Bool := c = '\t' || (' ' ≤ c && c ≠ '\x7f')

/-- Whether a character may stand in a key without quotation marks. -/
def isKeyChar (c : Char) : Bool := c.isAlphanum || c = '_' || c = '-'

/-- Skips blanks. -/
def blanks : Scanner Unit := do let _ ← while? isBlank

/-- Takes the end of a line. -/
def newline : Scanner Unit := char '\n' <|> word ['\r', '\n']

/-- Takes a comment. -/
def comment : Scanner Unit := do
  char '#'
  let _ ← while? isPlain

/-- Takes the rest of a line, which holds nothing more. -/
def lineEnd : Scanner Unit := do
  blanks
  let _ ← maybe comment
  unless ← atEnd do newline

/-- Skips blanks, comments and ends of lines. -/
def gap : Nat → Scanner Unit
  | 0 => pure ()
  | fuel + 1 => do
    blanks
    match ← peek with
    | some '#' => do
      comment
      newline
      gap fuel
    | some '\n' | some '\r' => do
      newline
      gap fuel
    | _ => pure ()

/-! ## Texts -/

/-- Takes the character that some hexadecimal digits name. -/
def codePoint (width : Nat) : Scanner Char := fun cs => do
  let digits ← (cs.take width).mapM Text.hexValue?
  let n := digits.foldl (fun n d => 16 * n + d) 0
  if digits.length = width ∧ n.isValidChar then some (Char.ofNat n, cs.drop width) else none

/-- Takes what follows a backslash. -/
def escape : Scanner Char := do
  match ← next with
  | 'b' => pure '\x08'
  | 't' => pure '\t'
  | 'n' => pure '\n'
  | 'f' => pure '\x0c'
  | 'r' => pure '\r'
  | '"' => pure '"'
  | '\\' => pure '\\'
  | 'u' => codePoint 4
  | 'U' => codePoint 8
  | _ => failure

/-- Takes the rest of a text on one line. -/
def basicText : Nat → Scanner (List Char)
  | 0 => failure
  | fuel + 1 => do
    match ← next with
    | '"' => pure []
    | '\\' => List.cons <$> escape <*> basicText fuel
    | c => if isPlain c then List.cons c <$> basicText fuel else failure

/-- Takes the rest of a literal text on one line. -/
def literalText : Scanner (List Char) := do
  let cs ← while? fun c => isPlain c && c ≠ '\x27'
  char '\x27'
  pure cs

/-- Takes blanks and ends of lines, of which there is at least one. -/
def lineGap : Nat → Scanner Unit
  | 0 => pure ()
  | fuel + 1 => do
    blanks
    newline
    let _ ← maybe (lineGap fuel)
    blanks

/-- Takes quotation marks inside or behind a text on several lines: up to two belong to the text,
three more end it.  The answer says whether the text ends here. -/
def quotes (quote : Char) : Scanner (List Char × Bool) := do
  let run ← while? (· = quote)
  if run.length < 3 then pure (run, false)
  else if run.length < 6 then pure (run.drop 3, true)
  else failure

/-- Takes the rest of a text on several lines; a backslash at the end of a line joins it to the
next text. -/
def basicLines : Nat → Scanner (List Char)
  | 0 => failure
  | fuel + 1 => do
    let (run, ends) ← quotes '"'
    if ends then pure run
    else
      let rest ← do
        match ← next with
        | '\\' =>
          (lineGap fuel *> basicLines fuel) <|> (List.cons <$> escape <*> basicLines fuel)
        | '\r' => do
          char '\n'
          List.cons '\n' <$> basicLines fuel
        | c => if isPlain c || c = '\n' then List.cons c <$> basicLines fuel else failure
      pure (run ++ rest)

/-- Takes the rest of a literal text on several lines. -/
def literalLines : Nat → Scanner (List Char)
  | 0 => failure
  | fuel + 1 => do
    let (run, ends) ← quotes '\x27'
    if ends then pure run
    else
      let rest ← do
        match ← next with
        | '\r' => do
          char '\n'
          List.cons '\n' <$> literalLines fuel
        | c => if isPlain c || c = '\n' then List.cons c <$> literalLines fuel else failure
      pure (run ++ rest)

/-- Takes a text. -/
def textOf (fuel : Nat) : Scanner (List Char) :=
  (word ['"', '"', '"'] *> maybe newline *> basicLines fuel) <|>
    (word ['\x27', '\x27', '\x27'] *> maybe newline *> literalLines fuel) <|>
    (char '"' *> basicText fuel) <|>
    (char '\x27' *> literalText)

/-! ## Keys -/

/-- Takes one key. -/
def simpleKey (fuel : Nat) : Scanner String := String.ofList <$>
  ((char '"' *> basicText fuel) <|> (char '\x27' *> literalText) <|> (do
    let cs ← while? isKeyChar
    if cs.isEmpty then failure else pure cs))

/-- The number of levels from which on a document is refused. -/
def maxLevels : Nat := 80

/-- Takes keys with points between them. -/
def dottedKey : Nat → Scanner (List String)
  | 0 => failure
  | fuel + 1 => do
    blanks
    let k ← simpleKey fuel
    blanks
    match ← peek with
    | some '.' => do
      char '.'
      List.cons k <$> dottedKey fuel
    | _ => pure [k]

/-- Takes a key that names a value in a table: the keys of the tables on the way, and its own. -/
def path (fuel : Nat) : Scanner (List String × String) := do
  let keys ← dottedKey fuel
  match keys.getLast? with
  | some k => if keys.length < maxLevels then pure (keys.dropLast, k) else failure
  | none => failure

/-! ## Numbers, dates and times -/

/-- Takes digits, between which single underscores may stand. -/
def digitRun (isDigit : Char → Bool) : Nat → Scanner (List Char)
  | 0 => failure
  | fuel + 1 => do
    let c ← one isDigit
    match ← peek with
    | some '_' => do
      char '_'
      List.cons c <$> digitRun isDigit fuel
    | some d => if isDigit d then List.cons c <$> digitRun isDigit fuel else pure [c]
    | none => pure [c]

/-- Takes a sign; the answer is whether it is a minus. -/
def sign : Scanner Bool := (char '-' *> pure true) <|> (char '+' *> pure false) <|> pure false

/-- Takes decimal digits without a leading zero. -/
def wholeDigits (fuel : Nat) : Scanner (List Char) :=
  (char '0' *> pure ['0']) <|> digitRun Char.isDigit fuel

/-- Takes a fraction. -/
def fraction (fuel : Nat) : Scanner (List Char) := char '.' *> digitRun Char.isDigit fuel

/-- Takes an exponent. -/
def exponent (fuel : Nat) : Scanner Int := do
  let _ ← one fun c => c = 'e' || c = 'E'
  let negative ← sign
  let digits ← digitRun Char.isDigit fuel
  let n : Int := Numeral.ofDigits digits
  pure (if negative then -n else n)

/-- Takes a number with a fraction or an exponent. -/
def float (fuel : Nat) : Scanner Document := do
  let negative ← sign
  let whole ← wholeDigits fuel
  let point ← maybe (fraction fuel)
  let power ← maybe (exponent fuel)
  if point.isNone ∧ power.isNone then failure
  else
    let n : Numeral := ⟨negative, whole, point, power⟩
    if n.exceedsFloats ∧ ¬negative then failure
    else pure (.decimal n.mantissa n.scale)

/-- Takes infinity, or no number. -/
def special : Scanner Document := do
  let _ ← sign
  word "inf".toList <|> word "nan".toList
  pure .other

/-- The integer of a number, if it fits in 64 bits with its sign. -/
def signed? (n : Int) : Option Document :=
  if -2 ^ 63 ≤ n ∧ n < 2 ^ 63 then some (.integer n) else none

/-- Takes an integer in another base. -/
def based (mark : Char) (base : Nat) (fuel : Nat) : Scanner Document := do
  word ['0', mark]
  let digits ← digitRun (fun c => (Text.baseValue? base c).isSome) fuel
  let n := digits.foldl (fun n c => base * n + (Text.hexValue? c).getD 0) 0
  StateT.lift (signed? n)

/-- Takes a decimal integer. -/
def integer (fuel : Nat) : Scanner Document := do
  let negative ← sign
  let digits ← wholeDigits fuel
  let n : Int := Numeral.ofDigits digits
  StateT.lift (signed? (if negative then -n else n))

/-- Takes a number of fixed width between two bounds. -/
def field (width low high : Nat) : Scanner Nat := fun cs =>
  let digits := cs.take width
  let n := Numeral.ofDigits digits
  if digits.length = width ∧ digits.all Char.isDigit ∧ low ≤ n ∧ n ≤ high then
    some (n, cs.drop width)
  else none

/-- The days of a month. -/
def daysOf (year month : Nat) : Nat :=
  if month = 2 then
    if year % 4 = 0 ∧ (year % 100 ≠ 0 ∨ year % 400 = 0) then 29 else 28
  else if month = 4 ∨ month = 6 ∨ month = 9 ∨ month = 11 then 30
  else 31

/-- Takes a date. -/
def date : Scanner Unit := do
  let year ← field 4 0 9999
  char '-'
  let month ← field 2 1 12
  char '-'
  let _ ← field 2 1 (daysOf year month)

/-- Takes a time of day. -/
def timeOfDay : Scanner Unit := do
  let _ ← field 2 0 23
  char ':'
  let _ ← field 2 0 59
  char ':'
  let _ ← field 2 0 60
  match ← peek with
  | some '.' => do
    char '.'
    let digits ← while? Char.isDigit
    if digits.isEmpty then failure
  | _ => pure ()

/-- Takes the difference to universal time. -/
def zone : Scanner Unit := do
  match ← next with
  | 'Z' | 'z' => pure ()
  | '+' | '-' => do
    let _ ← field 2 0 23
    char ':'
    let _ ← field 2 0 59
  | _ => failure

/-- The key under which a date or a time stands. -/
def momentKey : String := "$__toml_private_datetime"

/-- Takes a date, a time, or both.  It is a record with one value, which no setting reads. -/
def moment : Scanner Document := do
  (do
    date
    let _ ← maybe do
      let _ ← one fun c => c = 'T' || c = 't' || c = ' '
      timeOfDay
      let _ ← maybe zone) <|> timeOfDay
  pure (.record [(.known momentKey, .other)] none)

/-! ## Tables -/

/-- A branch of the tree of tables. -/
inductive Node where
  | value (d : Document)
  /-- A table: whether it was only passed through on the way to another one, whether dotted keys
  opened it, and what it holds. -/
  | table (implicit dotted : Bool) (entries : List (String × Node))
  /-- Tables of one name, the last one in front. -/
  | tables (items : List (List (String × Node)))

/-- What a table holds. -/
abbrev Entries := List (String × Node)

mutual

/-- The document of a branch. -/
def Node.toDocument : Node → Document
  | .value d => d
  | .table _ _ entries => .record (fieldsOf entries) none
  | .tables items => .list (recordsOf items).reverse none

/-- The fields of a table. -/
def fieldsOf : List (String × Node) → List (Label × Document)
  | [] => []
  | (k, n) :: rest => (.known k, n.toDocument) :: fieldsOf rest

/-- The documents of tables. -/
def recordsOf : List (List (String × Node)) → List Document
  | [] => []
  | t :: rest => .record (fieldsOf t) none :: recordsOf rest

end

/-- The branch of a key. -/
def Entries.get? (entries : Entries) (key : String) : Option Node := List.lookup key entries

/-- Replaces the branch of a key. -/
def Entries.set (entries : Entries) (key : String) (n : Node) : Entries :=
  if entries.any (·.1 = key) then entries.map fun e => if e.1 = key then (key, n) else e
  else entries ++ [(key, n)]

/-- Changes the table at the end of a path, opening the tables on the way; the change is told
whether dotted keys opened that table. -/
def descend (dotted : Bool) (change : Bool → Entries → Option Entries) :
    List String → Bool → Entries → Option Entries
  | [], here, entries => change here entries
  | key :: rest, _, entries => do
    let n ←
      match entries.get? key with
      | none => (descend dotted change rest dotted []).map fun t => .table true dotted t
      | some (.value _) => none
      | some (.table implicit wasDotted t) =>
        if dotted ∧ ¬implicit then none
        else (descend dotted change rest wasDotted t).map fun t => .table implicit wasDotted t
      | some (.tables []) => none
      | some (.tables (t :: ts)) =>
        (descend dotted change rest false t).map fun t => .tables (t :: ts)
    some (entries.set key n)

/-- Gives a value to a key of a table.  Tables opened by dotted keys are filled by dotted keys
only. -/
def assign (keys : List String × String) (d : Document) (entries : Entries) : Option Entries :=
  descend true
    (fun dotted entries =>
      if dotted = keys.1.isEmpty ∨ (entries.get? keys.2).isSome then none
      else some (entries.set keys.2 (.value d)))
    keys.1 false entries

/-- Opens the table of a header, which must be new or only passed through so far. -/
def openTable (keys : List String × String) (root : Entries) : Option Entries :=
  descend false
    (fun _ entries =>
      match entries.get? keys.2 with
      | none => some (entries.set keys.2 (.table false false []))
      | some (.table true false t) => some (entries.set keys.2 (.table false false t))
      | some _ => none)
    keys.1 false root

/-- Opens one more table of a name. -/
def openTables (keys : List String × String) (root : Entries) : Option Entries :=
  descend false
    (fun _ entries =>
      match entries.get? keys.2 with
      | none => some (entries.set keys.2 (.tables [[]]))
      | some (.tables ts) => some (entries.set keys.2 (.tables ([] :: ts)))
      | some _ => none)
    keys.1 false root

/-! ## Values -/

mutual

/-- Takes a value inside so many levels. -/
def value : Nat → Nat → Scanner Document
  | 0, _ => failure
  | fuel + 1, levels => do
    match ← peek with
    | some '"' | some '\x27' => (fun cs => .text (String.ofList cs)) <$> textOf fuel
    | some '[' => do
      char '['
      if levels + 1 < maxLevels then
        (fun ds => .list ds none) <$> items fuel (levels + 1)
      else failure
    | some '\x7b' => do
      char '\x7b'
      if levels + 1 < maxLevels then
        blanks
        match ← peek with
        | some '\x7d' => do
          char '\x7d'
          pure (.record [] none)
        | _ => (fun es => .record (fieldsOf es) none) <$> inlineFields fuel (levels + 1) []
      else failure
    | some 't' => do
      word "true".toList
      pure (.flag true)
    | some 'f' => do
      word "false".toList
      pure (.flag false)
    | _ =>
      moment <|> float fuel <|> special <|> based 'x' 16 fuel <|> based 'o' 8 fuel <|>
        based 'b' 2 fuel <|> integer fuel

/-- Takes the rest of a list. -/
def items : Nat → Nat → Scanner (List Document)
  | 0, _ => failure
  | fuel + 1, levels => do
    gap fuel
    match ← peek with
    | some ']' => do
      char ']'
      pure []
    | _ => do
      let d ← value fuel levels
      gap fuel
      match ← next with
      | ',' => List.cons d <$> items fuel levels
      | ']' => pure [d]
      | _ => failure

/-- Takes the rest of a table on one line. -/
def inlineFields : Nat → Nat → Entries → Scanner Entries
  | 0, _, _ => failure
  | fuel + 1, levels, entries => do
    let keys ← path fuel
    char '='
    blanks
    let d ← value fuel levels
    let entries ← StateT.lift (assign keys d entries)
    blanks
    match ← next with
    | ',' => inlineFields fuel levels entries
    | '\x7d' => pure entries
    | _ => failure

end

/-! ## Lines -/

/-- The tables read so far, and the path of the open one. -/
structure Tables where
  root : Entries
  /-- The path of the table that the next lines fill. -/
  current : List String

/-- Takes the header of a table. -/
def header (fuel : Nat) (t : Tables) : Scanner Tables := do
  match ← maybe (word ['[', '[']) with
  | some _ => do
    let keys ← path fuel
    word [']', ']']
    lineEnd
    let root ← StateT.lift (openTables keys t.root)
    pure ⟨root, keys.1 ++ [keys.2]⟩
  | none => do
    char '['
    let keys ← path fuel
    char ']'
    lineEnd
    let root ← StateT.lift (openTable keys t.root)
    pure ⟨root, keys.1 ++ [keys.2]⟩

/-- Takes a key with its value. -/
def assignment (fuel : Nat) (t : Tables) : Scanner Tables := do
  let keys ← path fuel
  char '='
  blanks
  let d ← value fuel 0
  lineEnd
  let root ← StateT.lift
    (descend false (fun _ entries => assign keys d entries) t.current false t.root)
  pure { t with root := root }

/-- Takes lines up to the end. -/
def lines : Nat → Tables → Scanner Tables
  | 0, _ => failure
  | fuel + 1, t => do
    blanks
    match ← peek with
    | none => pure t
    | some '#' => do
      lineEnd
      lines fuel t
    | some '\n' | some '\r' => do
      newline
      lines fuel t
    | some '[' => do lines fuel (← header fuel t)
    | some _ => do lines fuel (← assignment fuel t)

/-- Reads a text as a document; a byte order mark in front is skipped. -/
def read (cs : List Char) : Option Document := do
  let cs := if cs.head? = some '\ufeff' then cs.tail else cs
  let (t, _) ← lines (cs.length + 2) ⟨[], []⟩ cs
  some (.record (fieldsOf t.root) none)

end Toml

end CircuitRelay
