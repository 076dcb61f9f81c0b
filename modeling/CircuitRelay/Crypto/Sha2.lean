import CircuitRelay.Codec.Positional

/-!
# SHA-256 and SHA-512

The two hashes run the same rounds on words of 32 and of 64 bits.  Their constants are digits of
roots of primes: the round constants begin the fractional parts of the cube roots of the first
primes, the initial state those of the square roots of the first eight.  A round takes the first
of sixteen words and appends the word that its sixteenth successor will be, so one fold over the
round constants runs a block.
-/

namespace CircuitRelay

namespace Crypto.Sha2

/-! ## Constants -/

/-- The largest number of at most so many bits whose `k`-th power does not exceed `n`. -/
def root (k n bits : Nat) : Nat :=
  (List.range bits).foldr (fun i r => if (r + 2 ^ i) ^ k ≤ n then r + 2 ^ i else r) 0

/-- Whether a number is prime. -/
def isPrime (n : Nat) : Bool := 2 ≤ n && (List.range n).all fun d => d < 2 || n % d ≠ 0

/-- The first eighty primes. -/
def primes : List Nat := (List.range 410).filter isPrime

/-- The first binary places of the `k`-th root of a small number. -/
def rootPlaces (bits k n : Nat) : BitVec bits :=
  .ofNat bits (root k (n * 2 ^ (bits * k)) (bits + 8))

/-! ## The family -/

/-- The state of a hash: eight words. -/
structure State (bits : Nat) where
  a : BitVec bits
  b : BitVec bits
  c : BitVec bits
  d : BitVec bits
  e : BitVec bits
  f : BitVec bits
  g : BitVec bits
  h : BitVec bits

/-- The words of a state. -/
def State.toList {bits : Nat} (s : State bits) : List (BitVec bits) :=
  [s.a, s.b, s.c, s.d, s.e, s.f, s.g, s.h]

/-- The sum of two states, word by word. -/
def State.add {bits : Nat} (s t : State bits) : State bits :=
  ⟨s.a + t.a, s.b + t.b, s.c + t.c, s.d + t.d, s.e + t.e, s.f + t.f, s.g + t.g, s.h + t.h⟩

/-- The places of the three copies of a word that are added to each other bit by bit. -/
structure Mix where
  /-- The rotation of the first copy. -/
  first : Nat
  /-- The rotation of the second copy. -/
  second : Nat
  /-- The rotation of the third copy, or its shift. -/
  third : Nat

/-- Mixes a word with its rotations. -/
def Mix.rotate {bits : Nat} (m : Mix) (x : BitVec bits) : BitVec bits :=
  x.rotateRight m.first ^^^ x.rotateRight m.second ^^^ x.rotateRight m.third

/-- Mixes a word with its rotations and a shift. -/
def Mix.shift {bits : Nat} (m : Mix) (x : BitVec bits) : BitVec bits :=
  x.rotateRight m.first ^^^ x.rotateRight m.second ^^^ (x >>> m.third)

/-- A hash of the family. -/
structure Variant where
  /-- The bits of a word. -/
  bits : Nat
  /-- Mixes the word after the oldest one into the schedule. -/
  early : Mix
  /-- Mixes the word before the newest one into the schedule. -/
  late : Mix
  /-- Mixes the first word of the state. -/
  upper : Mix
  /-- Mixes the fifth word of the state. -/
  lower : Mix
  constants : List (BitVec bits)
  initial : State bits

/-- The initial state of words of so many bits. -/
def initialState (bits : Nat) : State bits :=
  let places := rootPlaces bits 2
  ⟨places 2, places 3, places 5, places 7, places 11, places 13, places 17, places 19⟩

/-- SHA-256. -/
def sha256 : Variant where
  bits := 32
  early := ⟨7, 18, 3⟩
  late := ⟨17, 19, 10⟩
  upper := ⟨2, 13, 22⟩
  lower := ⟨6, 11, 25⟩
  constants := (primes.take 64).map (rootPlaces 32 3)
  initial := initialState 32

/-- SHA-512. -/
def sha512 : Variant where
  bits := 64
  early := ⟨1, 8, 7⟩
  late := ⟨19, 61, 6⟩
  upper := ⟨28, 34, 39⟩
  lower := ⟨14, 18, 41⟩
  constants := primes.map (rootPlaces 64 3)
  initial := initialState 64

namespace Variant

/-! ## Hashing -/

/-- The next word of the schedule after sixteen words. -/
def nextWord (v : Variant) (ws : List (BitVec v.bits)) : BitVec v.bits :=
  v.late.shift (ws.getD 14 0) + ws.getD 9 0 + v.early.shift (ws.getD 1 0) + ws.getD 0 0

/-- One round with a round constant on a state and the next sixteen words. -/
def round (v : Variant) (acc : State v.bits × List (BitVec v.bits)) (k : BitVec v.bits) :
    State v.bits × List (BitVec v.bits) :=
  let (s, ws) := acc
  let choice := (s.e &&& s.f) ^^^ (~~~s.e &&& s.g)
  let majority := (s.a &&& s.b) ^^^ (s.a &&& s.c) ^^^ (s.b &&& s.c)
  let t1 := s.h + v.lower.rotate s.e + choice + k + ws.headD 0
  let t2 := v.upper.rotate s.a + majority
  (⟨t1 + t2, s.a, s.b, s.c, s.d + t1, s.e, s.f, s.g⟩, ws.tail ++ [v.nextWord ws])

/-- The octets of a word. -/
def wordOctets (v : Variant) : Nat := v.bits / 8

/-- The octets of a block of sixteen words. -/
def blockOctets (v : Variant) : Nat := 16 * v.wordOctets

/-- The word of some octets, highest first. -/
def wordOf (v : Variant) (bs : List UInt8) : BitVec v.bits :=
  .ofNat v.bits (Codec.ofDigits 256 (bs.map UInt8.toNat))

/-- Runs a block. -/
def block (v : Variant) (s : State v.bits) (bs : List UInt8) : State v.bits :=
  let ws := (List.range 16).map fun i => v.wordOf ((bs.drop (v.wordOctets * i)).take v.wordOctets)
  s.add (v.constants.foldl v.round (s, ws)).1

/-- The octets of a number, highest first. -/
def bigEndian (width n : Nat) : List UInt8 := (Codec.littleEndian width n).reverse

/-- A message filled up to whole blocks, with its length in bits in the two last words. -/
def padded (v : Variant) (message : List UInt8) : List UInt8 :=
  let used := (message.length + 1 + 2 * v.wordOctets) % v.blockOctets
  let fill := (v.blockOctets - used) % v.blockOctets
  message ++ [0x80] ++ List.replicate fill 0 ++ bigEndian (2 * v.wordOctets) (8 * message.length)

/-- Runs so many blocks. -/
def blocks (v : Variant) : Nat → State v.bits → List UInt8 → State v.bits
  | 0, s, _ => s
  | n + 1, s, bs => v.blocks n (v.block s (bs.take v.blockOctets)) (bs.drop v.blockOctets)

/-- The hash of a message. -/
def hash (v : Variant) (message : List UInt8) : List UInt8 :=
  let bs := v.padded message
  (v.blocks (bs.length / v.blockOctets) v.initial bs).toList.flatMap fun w =>
    bigEndian v.wordOctets w.toNat

end Variant

end Crypto.Sha2

end CircuitRelay
