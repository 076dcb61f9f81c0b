import CircuitRelay.Codec.Positional

/-!
# The Salsa20 key stream

A block of the key stream is a stirred square of sixteen words, added to the square itself.  The
square holds the key, a nonce, the number of the block, and four constant words.
-/

namespace CircuitRelay

namespace Crypto.Salsa

/-- A square of sixteen words, row by row. -/
abbrev Square := List UInt32

/-- Rotates a word to the left. -/
def rotl (x : UInt32) (n : UInt32) : UInt32 := (x <<< n) ||| (x >>> (32 - n))

/-- Adds the rotated sum of two words to a third. -/
def stirOne (s : Square) (target left right : Nat) (places : UInt32) : Square :=
  s.set target (s.getD target 0 ^^^ rotl (s.getD left 0 + s.getD right 0) places)

/-- Stirs four words of the square. -/
def stirFour (s : Square) (w : Nat × Nat × Nat × Nat) : Square :=
  let (a, b, c, d) := w
  let s := stirOne s b a d 7
  let s := stirOne s c b a 9
  let s := stirOne s d c b 13
  stirOne s a d c 18

/-- The columns of the square, each from the diagonal on. -/
def columns : List (Nat × Nat × Nat × Nat) :=
  [(0, 4, 8, 12), (5, 9, 13, 1), (10, 14, 2, 6), (15, 3, 7, 11)]

/-- The rows of the square, each from the diagonal on. -/
def rows : List (Nat × Nat × Nat × Nat) :=
  [(0, 1, 2, 3), (5, 6, 7, 4), (10, 11, 8, 9), (15, 12, 13, 14)]

/-- Stirs the columns and the rows so many times. -/
def stir : Nat → Square → Square
  | 0, s => s
  | n + 1, s => stir n (rows.foldl stirFour (columns.foldl stirFour s))

/-- The words of some octets, lowest octet first. -/
def wordsOf (bs : List UInt8) : List UInt32 :=
  (List.range (bs.length / 4)).map fun i =>
    UInt32.ofNat (Codec.ofLittleEndian ((bs.drop (4 * i)).take 4))

/-- The square of a key of 32 octets, a nonce of eight, and a block number. -/
def square (key nonce : List UInt8) (number : Nat) : Square :=
  let k := wordsOf key
  [0x61707865] ++ k.take 4 ++ [0x3320646e] ++ wordsOf nonce ++
    [UInt32.ofNat number, UInt32.ofNat (number / 2 ^ 32)] ++ [0x79622d32] ++ k.drop 4 ++
    [0x6b206574]

/-- A block of the key stream: 64 octets. -/
def block (key nonce : List UInt8) (number : Nat) : List UInt8 :=
  let s := square key nonce number
  (List.zipWith (· + ·) s (stir 10 s)).flatMap fun w => Codec.littleEndian 4 w.toNat

end Crypto.Salsa

end CircuitRelay
