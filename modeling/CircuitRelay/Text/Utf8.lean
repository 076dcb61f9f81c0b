/-!
# Reading octets as UTF-8

Files and percent-encoded segments hold octets that must be UTF-8.  The reader follows the table
of well-formed sequences: the lead octet fixes how many octets follow and the range of the second
one, so no overlong form, no surrogate and nothing above U+10FFFF is accepted.  A fault names the
index of the sequence and, unless the text merely ends early, how many octets are certainly wrong.
-/

namespace CircuitRelay.Text

/-- Why octets are not UTF-8. -/
structure Utf8Fault where
  /-- The index of the first octet of the malformed sequence. -/
  index : Nat
  /-- How many octets are certainly wrong, `none` when the text ends inside a sequence. -/
  width : Option Nat
  deriving DecidableEq, Repr

/-- The words for a fault. -/
def Utf8Fault.message (f : Utf8Fault) : String :=
  match f.width with
  | some n => "invalid utf-8 sequence of " ++ toString n ++ " bytes from index " ++ toString f.index
  | none => "incomplete utf-8 byte sequence from index " ++ toString f.index

namespace Utf8

/-- What a lead octet promises: the number of further octets and the range of the first of them. -/
def lead? (b : UInt8) : Option (Nat × UInt8 × UInt8) :=
  if 0xC2 ≤ b ∧ b ≤ 0xDF then some (1, 0x80, 0xBF)
  else if b = 0xE0 then some (2, 0xA0, 0xBF)
  else if b = 0xED then some (2, 0x80, 0x9F)
  else if 0xE1 ≤ b ∧ b ≤ 0xEF then some (2, 0x80, 0xBF)
  else if b = 0xF0 then some (3, 0x90, 0xBF)
  else if 0xF1 ≤ b ∧ b ≤ 0xF3 then some (3, 0x80, 0xBF)
  else if b = 0xF4 then some (3, 0x80, 0x8F)
  else none

/-- The outcome of the octets after a lead octet: a character and the rest, too few octets, or the
number of octets that are certainly wrong. -/
inductive Tail where
  | char (c : Char) (rest : List UInt8)
  | short
  /-- So many octets, the lead octet included, belong to no sequence. -/
  | wrong (width : Nat)

/-- Reads so many octets after a lead octet; `seen` counts the octets accepted so far and `acc`
holds their value. -/
def tail (seen : Nat) (lo hi : UInt8) (acc : Nat) : Nat → List UInt8 → Tail
  | 0, rest => .char (Char.ofNat acc) rest
  | _ + 1, [] => .short
  | need + 1, b :: rest =>
    if lo ≤ b ∧ b ≤ hi then tail (seen + 1) 0x80 0xBF (acc * 64 + (b.toNat - 0x80)) need rest
    else .wrong seen

theorem length_le_of_tail {seen need : Nat} {lo hi : UInt8} {acc : Nat} {bs rest : List UInt8}
    {c : Char} (h : tail seen lo hi acc need bs = .char c rest) : rest.length ≤ bs.length := by
  induction need generalizing seen lo hi acc bs with
  | zero =>
    simp only [tail, Tail.char.injEq] at h
    simp [h.2]
  | succ need ih =>
    cases bs with
    | nil => cases h
    | cons b bs =>
      simp only [tail] at h
      split at h
      · exact Nat.le_succ_of_le (ih h)
      · cases h

/-- The value bits of a lead octet that is followed by `need` octets. -/
def leadBits (b : UInt8) (need : Nat) : Nat :=
  match need with
  | 1 => b.toNat - 0xC0
  | 2 => b.toNat - 0xE0
  | _ => b.toNat - 0xF0

/-- Reads octets from index `i` on. -/
def decodeFrom (i : Nat) : List UInt8 → Except Utf8Fault (List Char)
  | [] => .ok []
  | b :: bs =>
    if b < 0x80 then (decodeFrom (i + 1) bs).map (Char.ofNat b.toNat :: ·)
    else
      match lead? b with
      | none => .error ⟨i, some 1⟩
      | some (need, lo, hi) =>
        match h : tail 1 lo hi (leadBits b need) need bs with
        | .char c rest =>
          have hrest : rest.length < (b :: bs).length := Nat.lt_succ_of_le (length_le_of_tail h)
          (decodeFrom (i + 1 + need) rest).map (c :: ·)
        | .short => .error ⟨i, none⟩
        | .wrong width => .error ⟨i, some width⟩
termination_by bs => bs.length
decreasing_by
  · exact Nat.lt_succ_self bs.length
  · exact hrest

/-- Reads a list of octets as text. -/
def decode (bs : List UInt8) : Except Utf8Fault (List Char) := decodeFrom 0 bs

/-- The octets of a character. -/
def encodeChar (c : Char) : List UInt8 :=
  let n := c.toNat
  if n < 0x80 then [n.toUInt8]
  else if n < 0x800 then [(0xC0 + n / 64).toUInt8, (0x80 + n % 64).toUInt8]
  else if n < 0x10000 then
    [(0xE0 + n / 4096).toUInt8, (0x80 + n / 64 % 64).toUInt8, (0x80 + n % 64).toUInt8]
  else
    [(0xF0 + n / 262144).toUInt8, (0x80 + n / 4096 % 64).toUInt8, (0x80 + n / 64 % 64).toUInt8,
      (0x80 + n % 64).toUInt8]

/-- The octets of a text. -/
def encode (cs : List Char) : List UInt8 := cs.flatMap encodeChar

end Utf8

end CircuitRelay.Text
