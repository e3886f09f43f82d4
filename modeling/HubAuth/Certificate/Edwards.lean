import HubAuth.Certificate.Curve
import HubAuth.Hash

/-! # The Edwards curve of 255 bits

  Keys on this curve are strings of thirty-two octets. The public one is
  determined by the private one: the private number is a part of its hash, and
  the public key is that multiple of the base point. Points are kept in
  projective coordinates, so that the group needs a single division.
-/

namespace HubAuth.Edwards

/-! ### The group -/

/-- The prime. -/
def p : Nat :=
  0x7fffffffffffffffffffffffffffffffffffffffffffffffffffffffffffffed

/-- The coefficient of `x² y²` in the equation `y² - x² = 1 + d x² y²`. -/
def d : Nat :=
  0x52036cee2b6ffe738cc740797779e89800700a4d4141d8ab75eb4dca135978a3

/-- A point `(x / z, y / z)`, with `t = x y / z`. -/
structure Point where
  /-- The first coordinate, times `z`. -/
  x : Nat
  /-- The second coordinate, times `z`. -/
  y : Nat
  /-- The common denominator. -/
  z : Nat
  /-- The product of both coordinates, times `z`. -/
  t : Nat
  deriving DecidableEq, Repr

/-- The point that is neutral in the group. -/
def neutral : Point :=
  { x := 0, y := 1, z := 1, t := 0 }

/-- The base point. -/
def base : Point :=
  let x := 0x216936d3cd6e53fec0a4e231fdd6dc5c692cc7609525a7b2c9562d608f25d51a
  let y := 0x6666666666666666666666666666666666666666666666666666666666666658
  { x, y, z := 1, t := x * y % p }

/-- The sum of two points. It holds for equal points as well. -/
def add (q r : Point) : Point :=
  let a := Modular.sub p q.y q.x * Modular.sub p r.y r.x % p
  let b := (q.y + q.x) * (r.y + r.x) % p
  let c := q.t * (2 * d) % p * r.t % p
  let g := 2 * q.z * r.z % p
  let e := Modular.sub p b a
  let f := Modular.sub p g c
  let h := (b + a) % p
  let k := (g + c) % p
  { x := e * f % p, y := k * h % p, z := f * k % p, t := e * h % p }

/-- A multiple of the base point. -/
def multiple (n : Nat) : Point :=
  (Modular.bits n).foldl (fun r bit => if bit then add (add r r) base else add r r) neutral

/-! ### Keys -/

/-- The length of a key in octets. -/
def keyLength : Nat := 32

/-- The number that little-endian octets stand for. -/
def littleEndian (octets : List UInt8) : Nat :=
  Binary.natOf octets.reverse

/-- The private number of a private key: a multiple of eight whose highest bit
    is fixed, with the other bits from the hash. -/
def secret (key : List UInt8) : Nat :=
  let n := littleEndian ((Hash.sha512.digest key).take keyLength)
  Nat.pow 2 254 + n % Nat.pow 2 254 / 8 * 8

/-- A point as octets: the second coordinate, and in the highest bit whether
    the first one is odd. -/
def octetsOf (q : Point) : List UInt8 :=
  let x := Modular.div p q.x q.z
  let y := Modular.div p q.y q.z
  (Binary.bytesOf keyLength (y + x % 2 * Nat.pow 2 255)).reverse

/-- The public key of a private key. -/
def publicOctets (key : List UInt8) : List UInt8 :=
  octetsOf (multiple (secret key))

end HubAuth.Edwards
