import CircuitRelay.Ip.Basic
import CircuitRelay.Text.Integer

/-!
# IP addresses in text

Two readers of the same grammar are in use, and a `Form` says where they part: whether an octet
may have leading zeros, and whether `::` may stand for no group at all.  Single addresses are read
strictly, the addresses of subnets leniently.

Writing an IPv6 address compresses the longest run of at least two zero groups, the first one of
equals, and shows the last 32 bits of a mapped address as IPv4.
-/

namespace CircuitRelay

namespace Ip

/-- Where the readers of address texts part. -/
structure Form where
  /-- Whether an octet such as `08` is accepted. -/
  leadingZeros : Bool
  /-- Whether `::` is accepted between eight groups. -/
  emptyRun : Bool

/-- The form of single addresses. -/
def Form.strict : Form := ⟨false, false⟩

/-- The form of the addresses of subnets. -/
def Form.lenient : Form := ⟨true, true⟩

/-- A reader takes what it knows from the front of a text and returns the rest. -/
abbrev Reader (α : Type) := List Char → Option (α × List Char)

/-- Reads one expected character. -/
def readChar (expected : Char) : Reader Unit
  | c :: cs => if c = expected then some ((), cs) else none
  | [] => none

/-- Reads a run of digits of at most `width` characters. -/
def readNumber (base width max : Nat) (leadingZeros : Bool) : Reader Nat := fun cs =>
  let isDigit := fun c => (Text.baseValue? base c).isSome
  let run := cs.takeWhile isDigit
  if run.length = 0 ∨ width < run.length then none
  else if leadingZeros = false ∧ 1 < run.length ∧ run.head? = some '0' then none
  else
    match Text.readDigits base max 0 run with
    | .ok n => some (n, cs.dropWhile isDigit)
    | .error _ => none

/-- Reads an octet. -/
def readOctet (f : Form) : Reader Nat := readNumber 10 3 255 f.leadingZeros

/-- Reads four octets between points. -/
def readV4 (f : Form) : Reader IPv4 := fun cs => do
  let (a, cs) ← readOctet f cs
  let (_, cs) ← readChar '.' cs
  let (b, cs) ← readOctet f cs
  let (_, cs) ← readChar '.' cs
  let (c, cs) ← readOctet f cs
  let (_, cs) ← readChar '.' cs
  let (d, cs) ← readOctet f cs
  pure (IPv4.ofOctets a b c d, cs)

/-- Groups that were read, and whether the last two came from an embedded IPv4 address. -/
structure Groups where
  /-- The groups in order. -/
  groups : List Nat
  /-- Whether an IPv4 address ended the run. -/
  embedded : Bool

/-- Reads a colon in front of every group but the first. -/
def readSeparator (first : Bool) : Reader Unit := fun cs =>
  if first then some ((), cs) else readChar ':' cs

/-- Reads as many groups as there are, at most `limit`; an IPv4 address ends the run and counts as
two groups. -/
def readGroups (f : Form) (first : Bool) : Nat → List Char → Groups × List Char
  | 0, cs => (⟨[], false⟩, cs)
  | limit + 1, cs =>
    match readSeparator first cs with
    | none => (⟨[], false⟩, cs)
    | some (_, inner) =>
      match if limit = 0 then none else readV4 f inner with
      | some (a, rest) => (⟨[a.toNat / 65536, a.toNat % 65536], true⟩, rest)
      | none =>
        match readNumber 16 4 0xFFFF true inner with
        | none => (⟨[], false⟩, cs)
        | some (g, rest) =>
          let (more, rest) := readGroups f false limit rest
          (⟨g :: more.groups, more.embedded⟩, rest)

/-- Reads an IPv6 address: eight groups, or fewer around one `::`. -/
def readV6 (f : Form) : Reader IPv6 := fun cs =>
  let (head, cs) := readGroups f true 8 cs
  let size := head.groups.length
  if size = 8 then some (IPv6.ofGroups head.groups, cs)
  else if head.embedded then none
  else do
    let (_, cs) ← readChar ':' cs
    let (_, cs) ← readChar ':' cs
    let limit := if f.emptyRun then 8 - size else 7 - size
    let (tail, cs) := readGroups f true limit cs
    let zeros := List.replicate (8 - size - tail.groups.length) 0
    pure (IPv6.ofGroups (head.groups ++ zeros ++ tail.groups), cs)

/-- What a reader finds when it takes the whole text. -/
def readAll {α : Type} (read : Reader α) (s : String) : Option α :=
  match read s.toList with
  | some (a, []) => some a
  | _ => none

end Ip

/-- Reads an IPv4 address. -/
def IPv4.ofText? (s : String) : Option IPv4 := Ip.readAll (Ip.readV4 .strict) s

/-- Reads an IPv6 address. -/
def IPv6.ofText? (s : String) : Option IPv6 := Ip.readAll (Ip.readV6 .strict) s

/-- Reads an address of either family. -/
def Ip.ofText? (s : String) : Option Ip :=
  match IPv4.ofText? s with
  | some a => some (.v4 a)
  | none => (IPv6.ofText? s).map .v6

/-- The complaint about a text that is no address. -/
def Ip.faultMessage : String := "invalid IP address syntax"

/-- Four decimal octets between points. -/
def IPv4.toText (a : IPv4) : String :=
  ".".intercalate (a.octets.map fun n => String.ofList (Text.digits n))

namespace IPv6

/-- The length of the run of zeros at the start of a list. -/
def zeroRun (gs : List Nat) : Nat := (gs.takeWhile (· = 0)).length

/-- The start and the length of the longest run of zeros, the first one of equals. -/
def longestZeroRun (gs : List Nat) : Nat × Nat :=
  (List.range gs.length).foldl
    (fun best i => if best.2 < zeroRun (gs.drop i) then (i, zeroRun (gs.drop i)) else best) (0, 0)

/-- Groups between colons. -/
def groupsText (gs : List Nat) : String :=
  ":".intercalate (gs.map fun g => String.ofList (Nat.toDigits 16 g))

/-- The canonical text of an address. -/
def toText (a : IPv6) : String :=
  match a.mapped? with
  | some v4 => "::ffff:" ++ v4.toText
  | none =>
    let (start, length) := longestZeroRun a.groups
    if 1 < length then
      groupsText (a.groups.take start) ++ "::" ++ groupsText (a.groups.drop (start + length))
    else groupsText a.groups

end IPv6

/-- The canonical text of an address. -/
def Ip.toText : Ip → String
  | .v4 a => a.toText
  | .v6 a => a.toText

end CircuitRelay
