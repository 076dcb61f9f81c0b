import CircuitRelay.Text.Blank
import CircuitRelay.Text.Integer
import CircuitRelay.Text.Letters

/-!
# Patterns of field values

A directive may ask for a field by a regular expression.  Only well-formed patterns are accepted,
and only those that can be turned into an automaton over UTF-8 without tables of the character
database: classes such as `\d` and `\pL`, word boundaries and letters of either case are refused
unless the pattern switches to plain octets, and there whatever would match half a character is.

The text of a pattern holds no closing brace, because a closing brace ends the field.  So no
repetition can be counted, and an opening brace outside a class is refused.

The readers below take the characters that are left and return those after what they read; their
fuel is the number of characters.  They count how deeply the pieces of a pattern are nested, for
patterns nested too deeply are refused as well.
-/

namespace CircuitRelay

namespace LogPattern

/-! ## Modes -/

/-- The modes of a pattern, which its flags change. -/
structure Modes where
  /-- Whether characters are matched, and not octets. -/
  characters : Bool
  /-- Whether letters stand for both cases. -/
  caseless : Bool
  /-- Whether blanks and comments are skipped. -/
  spaced : Bool
  deriving DecidableEq, Repr

/-- The modes before any flag. -/
def Modes.standard : Modes := ⟨true, false, false⟩

/-- The modes after a flag is set or unset; some flags change nothing that matters here. -/
def Modes.set? (m : Modes) (flag : Char) (on : Bool) : Option Modes :=
  if flag = 'u' then some { m with characters := on }
  else if flag = 'i' then some { m with caseless := on }
  else if flag = 'x' then some { m with spaced := on }
  else if flag = 'm' ∨ flag = 's' ∨ flag = 'U' ∨ flag = 'R' then some m
  else none

/-- Whether letters and classes of characters would have to be taken in both cases, which needs
tables. -/
def Modes.needsCases (m : Modes) : Bool := m.characters && m.caseless

/-- Skips blanks and comments; the flag says whether a comment is open. -/
def skipSpaceFrom : Bool → List Char → List Char
  | _, [] => []
  | true, c :: cs => skipSpaceFrom (c ≠ '\n') cs
  | false, c :: cs =>
    if Text.isBlank c then skipSpaceFrom false cs
    else if c = '#' then skipSpaceFrom true cs
    else c :: cs

/-- Skips what the modes let one skip. -/
def Modes.skip (m : Modes) (cs : List Char) : List Char :=
  if m.spaced then skipSpaceFrom false cs else cs

/-! ## Single characters -/

/-- What one character or one escape stands for. -/
inductive Atom where
  /-- A character, by its code point; `octet` tells one written as two hexadecimal digits. -/
  | literal (code : Nat) (octet : Bool)
  | category
  | boundary
  deriving DecidableEq, Repr

/-- Reads the given number of hexadecimal digits. -/
def readHex (m : Modes) : Nat → Nat → List Char → Option (Nat × List Char)
  | 0, acc, cs => some (acc, m.skip cs)
  | n + 1, acc, cs =>
    match m.skip cs with
    | c :: rest =>
      match Text.hexValue? c with
      | some d => readHex m n (16 * acc + d) rest
      | none => none
    | [] => none

/-- The character of a letter behind a backslash. -/
def control? (c : Char) : Option Nat :=
  [('a', 0x07), ('f', 0x0C), ('t', 0x09), ('n', 0x0A), ('r', 0x0D), ('v', 0x0B)].lookup c

/-- The number of digits that a character is written with behind a backslash and this letter. -/
def hexWidth? (c : Char) : Option Nat := [('x', 2), ('u', 4), ('U', 8)].lookup c

/-- Whether a sign stands for itself behind a backslash. -/
def isSign (c : Char) : Bool := c.toNat < 0x80 && !c.isAlphanum && c ≠ '<' && c ≠ '>'

/-- Reads what follows a backslash. -/
def readEscape (m : Modes) : List Char → Option (Atom × List Char)
  | [] => none
  | c :: cs =>
    if isSign c then some (.literal c.toNat false, cs)
    else if c = 'A' ∨ c = 'z' then some (.boundary, cs)
    else if c = 'd' ∨ c = 's' ∨ c = 'w' then if m.characters then none else some (.category, cs)
    else if c = 'b' ∨ c = 'B' ∨ c = '<' ∨ c = '>' then
      if m.characters then none else some (.boundary, cs)
    else
      match control? c, hexWidth? c with
      | some code, _ => some (.literal code false, cs)
      | none, some width =>
        match readHex m width 0 cs with
        | some (code, rest) =>
          if code.isValidChar then some (.literal code (c = 'x'), rest) else none
        | none => none
      | none, none => none

/-- Whether a character can be matched outside a class. -/
def isMatchable (m : Modes) (code : Nat) (octet : Bool) : Bool :=
  if m.characters then !m.needsCases else !octet || code < 0x80

/-! ## Classes -/

/-- The names of the classes of ASCII characters. -/
def categories : List String := [
  "alnum", "alpha", "ascii", "blank", "cntrl", "digit", "graph", "lower", "print", "punct",
  "space", "upper", "word", "xdigit"]

/-- Reads a named class behind an opening bracket: a colon, perhaps a circumflex, a name, a colon
and a closing bracket.  The answer says whether the class is negated. -/
def readCategory : List Char → Option (Bool × List Char)
  | ':' :: cs =>
    let negated := cs.head? = some '^'
    let cs := if negated then cs.tail else cs
    let name := String.ofList (cs.takeWhile (· ≠ ':'))
    match cs.dropWhile (· ≠ ':') with
    | ':' :: ']' :: rest => if name ∈ categories then some (negated, rest) else none
    | _ => none
  | _ => none

/-- Reads one character or one escape of a class. -/
def readMember (m : Modes) : List Char → Option (Atom × List Char)
  | [] => none
  | '\\' :: cs => readEscape m cs
  | c :: cs => some (.literal c.toNat false, cs)

/-- The code point of a member that can be the end of a range. -/
def memberCode? (m : Modes) : Atom → Option Nat
  | .literal code _ => if m.characters ∨ code < 0x80 then some code else none
  | .category | .boundary => none

/-- Reads a member of a class, or a range of members.  A hyphen in front of the end of the class or
of another hyphen opens no range. -/
def readRange (m : Modes) (cs : List Char) : Option (List Char) := do
  let (first, rest) ← readMember m cs
  let isMember := first = .category ∨ (memberCode? m first).isSome
  let single := if isMember then some (m.skip rest) else none
  match m.skip rest with
  | '-' :: rest =>
    match m.skip rest with
    | [] => none
    | ']' :: _ | '-' :: _ => single
    | rest =>
      let (last, rest) ← readMember m rest
      let low ← memberCode? m first
      let high ← memberCode? m last
      if low ≤ high then some rest else none
  | [] => none
  | _ => single

/-- How deeply a sequence of pieces is nested. -/
def depthOf : List Nat → Nat
  | [] => 0
  | [n] => n
  | ns => 1 + ns.foldl max 0

/-- How deeply two operands are nested, the left one if there is one. -/
def joinDepth (left : Option Nat) (right : Nat) : Nat :=
  match left with
  | none => right
  | some left => 1 + max left right

/-- Counts the hyphens in front of some characters. -/
def readHyphens (m : Modes) : Nat → List Char → Nat × List Char
  | fuel + 1, '-' :: cs =>
    let (n, rest) := readHyphens m fuel (m.skip cs)
    (n + 1, rest)
  | _, cs => (0, cs)

/-- Reads the signs in front of the members of a class: a circumflex, hyphens, and a closing
bracket in the first place, the last two being members.  The answer says whether the class is
negated, and how many members were read. -/
def readOpening (m : Modes) (cs : List Char) : (Bool × Nat) × List Char :=
  let cs := m.skip cs
  let negated := cs.head? = some '^'
  match readHyphens m cs.length (if negated then m.skip cs.tail else cs) with
  | (0, ']' :: rest) => ((negated, 1), rest)
  | (n, rest) => ((negated, n), rest)

mutual

/-- Reads a class behind its opening bracket; the answer says how deeply it is nested. -/
def readSet : Nat → Modes → List Char → Option (Nat × List Char)
  | 0, _, _ => none
  | fuel + 1, m, cs => do
    let ((negated, n), cs) := readOpening m cs
    if (negated ∧ ¬m.characters) ∨ (n ≠ 0 ∧ m.needsCases) then failure
    let (depth, rest) ← readMembers fuel m none (List.replicate n 0) cs
    some (1 + depth, rest)

/-- Reads the members of a class up to its closing bracket, given the depth of what stands in front
of the last operator and the depths of the members behind it. -/
def readMembers : Nat → Modes → Option Nat → List Nat → List Char → Option (Nat × List Char)
  | 0, _, _, _, _ => none
  | fuel + 1, m, left, depths, cs =>
    let joined := joinDepth left (depthOf depths)
    match m.skip cs with
    | [] => none
    | ']' :: rest => some (joined, rest)
    | '&' :: '&' :: rest => readMembers fuel m (some joined) [] rest
    | '-' :: '-' :: rest => readMembers fuel m (some joined) [] rest
    | '~' :: '~' :: rest => readMembers fuel m (some joined) [] rest
    | '[' :: rest =>
      match readCategory rest with
      | some (negated, rest) =>
        if (negated ∧ ¬m.characters) ∨ m.needsCases then none
        else readMembers fuel m left (0 :: depths) rest
      | none => do
        let (depth, rest) ← readSet fuel m rest
        readMembers fuel m left (depth :: depths) rest
    | cs => do
      if m.needsCases then failure
      let rest ← readRange m cs
      readMembers fuel m left (0 :: depths) rest

end

/-! ## Flags and groups -/

/-- The flags of a group while they are read. -/
structure Flags where
  /-- The modes that they lead to. -/
  modes : Modes
  /-- The flags and the hyphen read so far, the last one in front. -/
  seen : List Char

/-- Reads flags up to the closing parenthesis or the colon behind them, which is told.  A hyphen
unsets the flags behind it; nothing stands twice, and the hyphen does not stand last. -/
def readFlags (f : Flags) : List Char → Option (Flags × Char × List Char)
  | [] => none
  | c :: cs =>
    if c = ':' ∨ c = ')' then if f.seen.head? = some '-' then none else some (f, c, cs)
    else if c ∈ f.seen then none
    else if c = '-' then readFlags { f with seen := c :: f.seen } cs
    else do
      let modes ← f.modes.set? c ('-' ∉ f.seen)
      readFlags ⟨modes, c :: f.seen⟩ cs

/-- Whether a text can be the name of a group. -/
def isName : List Char → Bool
  | [] => false
  | c :: cs =>
    (c = '_' || Text.isLetter c) &&
      cs.all fun c => c = '_' || c = '.' || c = '[' || c = ']' || Text.isAlphanumeric c

/-- What stands behind the opening parenthesis of a group. -/
inductive Opening where
  /-- A group with a name, if it has one, in these modes. -/
  | group (name : Option (List Char)) (m : Modes)
  /-- Flags for the rest of the group around them. -/
  | flags (m : Modes)

/-- Reads the name of a group up to the closing angle bracket. -/
def readName (m : Modes) (cs : List Char) : Option (Opening × List Char) :=
  let name := cs.takeWhile (· ≠ '>')
  match cs.dropWhile (· ≠ '>') with
  | _ :: rest => if isName name then some (.group (some name) m, rest) else none
  | [] => none

/-- Reads what stands behind an opening parenthesis.  Groups that look around are refused. -/
def readGroupOpening (m : Modes) (cs : List Char) : Option (Opening × List Char) :=
  match m.skip cs with
  | '?' :: 'P' :: '<' :: rest => readName m rest
  | '?' :: '<' :: rest => readName m rest
  | '?' :: rest => do
    let (f, ending, rest) ← readFlags ⟨m, []⟩ rest
    if ending = ':' then some (.group none f.modes, rest)
    else if f.seen.isEmpty then none
    else some (.flags f.modes, rest)
  | rest => some (.group none m, rest)

/-! ## Patterns -/

/-- A piece of a pattern. -/
structure Item where
  /-- How deeply it is nested. -/
  depth : Nat
  /-- Whether it can be repeated. -/
  repeatable : Bool

/-- What the readers of a pattern carry along. -/
structure Progress where
  modes : Modes
  /-- The names of the groups so far. -/
  names : List (List Char)

mutual

/-- Reads alternatives up to the end of the pattern or a closing parenthesis; the answer says how
deeply they are nested. -/
def readAlternatives : Nat → List Nat → Progress → List Char → Option (Nat × Progress × List Char)
  | 0, _, _, _ => none
  | fuel + 1, depths, p, cs => do
    let (items, p, rest) ← readBranch fuel [] p cs
    let depths := depthOf (items.map Item.depth) :: depths
    match rest with
    | '|' :: rest => readAlternatives fuel depths p rest
    | _ => some (depthOf depths, p, rest)

/-- Reads the pieces of an alternative; those read so far are given, the last one in front. -/
def readBranch : Nat → List Item → Progress → List Char → Option (List Item × Progress × List Char)
  | 0, _, _, _ => none
  | fuel + 1, items, p, cs =>
    let m := p.modes
    let go (depth : Nat) (rest : List Char) := readBranch fuel (⟨depth, true⟩ :: items) p rest
    match m.skip cs with
    | [] => some (items, p, [])
    | ')' :: rest => some (items, p, ')' :: rest)
    | '|' :: rest => some (items, p, '|' :: rest)
    | '\x7b' :: _ => none
    | '(' :: rest => do
      match ← readGroupOpening m rest with
      | (.flags modes, rest) => readBranch fuel (⟨0, false⟩ :: items) { p with modes := modes } rest
      | (.group name modes, rest) =>
        if name.any (p.names.contains ·) then none
        else
          let (depth, inner, rest) ← readAlternatives fuel [] ⟨modes, name.toList ++ p.names⟩ rest
          match rest with
          | ')' :: rest =>
            readBranch fuel (⟨1 + depth, true⟩ :: items) { inner with modes := m } rest
          | _ => none
    | '[' :: rest => do
      let (depth, rest) ← readSet fuel m rest
      go depth rest
    | '\\' :: rest => do
      match ← readEscape m rest with
      | (.literal code octet, rest) => if isMatchable m code octet then go 0 rest else none
      | (_, rest) => go 0 rest
    | c :: rest =>
      if c = '?' ∨ c = '*' ∨ c = '+' then
        match items with
        | i :: items =>
          let rest := if rest.head? = some '?' then rest.tail else rest
          if i.repeatable then readBranch fuel (⟨1 + i.depth, true⟩ :: items) p rest else none
        | [] => none
      else if c = '^' ∨ c = '$' then go 0 rest
      else if c = '.' then if m.characters then go 0 rest else none
      else if isMatchable m c.toNat false then go 0 rest
      else none

end

/-- The depth from which on a pattern is refused. -/
def maxDepth : Nat := 250

/-- Whether a text is a pattern that a directive accepts. -/
def isValid (cs : List Char) : Bool :=
  match readAlternatives (2 * cs.length + 4) [] ⟨.standard, []⟩ cs with
  | some (depth, _, []) => depth ≤ maxDepth
  | _ => false

end LogPattern

end CircuitRelay
