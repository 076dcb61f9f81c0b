import CircuitRelay.Codec.Positional
import CircuitRelay.Crypto.Sha2

/-!
# Ed25519 public keys

The public key of a seed is a multiple of the base point of the curve
`-x^2 + y^2 = 1 + d x^2 y^2` over the field of `2^255 - 19` elements, written by its `y` and the
parity of its `x`.  Points are kept with a common denominator, so that only the last step divides.
-/

namespace CircuitRelay

namespace Crypto.Edwards

/-- The number of elements of the field. -/
def p : Nat := 2 ^ 255 - 19

/-- The product in the field. -/
def mul (a b : Nat) : Nat := a * b % p

/-- The sum in the field. -/
def add (a b : Nat) : Nat := (a + b) % p

/-- The difference in the field. -/
def sub (a b : Nat) : Nat := (a + (p - b % p)) % p

/-- A power in the field, by the lowest so many bits of the exponent. -/
def pow (a exponent : Nat) : Nat → Nat
  | 0 => 1
  | bits + 1 =>
    let r := pow (mul a a) (exponent / 2) bits
    if exponent % 2 = 1 then mul a r else r

/-- The inverse in the field; zero has none. -/
def inverse (a : Nat) : Nat := pow a (p - 2) 255

/-- The coefficient of the curve. -/
def d : Nat := mul (p - 121665) (inverse 121666)

/-- A point of the curve: `x / z`, `y / z` and `x * y / z`. -/
structure Point where
  /-- The first coordinate times the denominator. -/
  x : Nat
  /-- The second coordinate times the denominator. -/
  y : Nat
  z : Nat
  /-- The product of the coordinates times the denominator. -/
  t : Nat

/-- The neutral point. -/
def Point.neutral : Point := ⟨0, 1, 1, 0⟩

/-- The base point. -/
def Point.base : Point :=
  let x := 0x216936D3CD6E53FEC0A4E231FDD6DC5C692CC7609525A7B2C9562D608F25D51A
  let y := mul 4 (inverse 5)
  ⟨x, y, 1, mul x y⟩

/-- The sum of two points. -/
def Point.add (s t : Point) : Point :=
  let a := mul (sub s.y s.x) (sub t.y t.x)
  let b := mul (Edwards.add s.y s.x) (Edwards.add t.y t.x)
  let c := mul (mul 2 d) (mul s.t t.t)
  let e := mul 2 (mul s.z t.z)
  let w := sub b a
  let v := sub e c
  let u := Edwards.add e c
  let h := Edwards.add b a
  ⟨mul w v, mul u h, mul v u, mul w h⟩

/-- A multiple of a point, by the lowest so many bits of the factor. -/
def Point.times (s : Point) (n : Nat) : Nat → Point
  | 0 => .neutral
  | bits + 1 =>
    let r := Point.times (s.add s) (n / 2) bits
    if n % 2 = 1 then s.add r else r

/-- The written form of a point. -/
def Point.encode (s : Point) : List UInt8 :=
  let i := inverse s.z
  Codec.littleEndian 32 (mul s.y i + mul s.x i % 2 * 2 ^ 255)

/-- The factor of a seed: the first half of its hash as a number between `2^254` and `2^255` that
is a multiple of eight. -/
def factor (seed : List UInt8) : Nat :=
  let n := Codec.ofLittleEndian ((Sha2.sha512.hash seed).take 32)
  2 ^ 254 + n % 2 ^ 254 / 8 * 8

/-- The public key of a seed. -/
def publicKey (seed : List UInt8) : List UInt8 := (Point.base.times (factor seed) 255).encode

end Crypto.Edwards

end CircuitRelay
