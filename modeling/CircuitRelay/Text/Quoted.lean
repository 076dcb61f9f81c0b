import CircuitRelay.Text.Shown

/-!
# Quoted text in messages

Messages quote the text they complain about.  Quotes of the surrounding kind, the backslash and
the common controls are written with a backslash, every other character without a shape of its
own as its code point in braces.

* `escape_length_pos`: no character disappears.
-/

namespace CircuitRelay.Text

/-- The hexadecimal digits of a code point, without leading zeros. -/
def codePoint (c : Char) : List Char := Nat.toDigits 16 c.toNat

/-- A character inside quotes of the kind `quote`. -/
def escape (quote c : Char) : List Char :=
  if c = Char.ofNat 0 then ['\\', '0']
  else if c = '\t' then ['\\', 't']
  else if c = '\r' then ['\\', 'r']
  else if c = '\n' then ['\\', 'n']
  else if c = '\\' ∨ c = quote then ['\\', c]
  else if isShown c then [c]
  else ['\\', 'u', '\x7b'] ++ codePoint c ++ ['\x7d']

/-- A text between double quotes. -/
def quoted (s : String) : String :=
  String.ofList (['"'] ++ s.toList.flatMap (escape '"') ++ ['"'])

/-- A character between single quotes. -/
def quotedChar (c : Char) : String :=
  String.ofList (['\x27'] ++ escape '\x27' c ++ ['\x27'])

/-- No character disappears inside quotes. -/
theorem escape_length_pos (quote c : Char) : 0 < (escape quote c).length := by
  unfold escape
  repeat' split
  all_goals simp

end CircuitRelay.Text
