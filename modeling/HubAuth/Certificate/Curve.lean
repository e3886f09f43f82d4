import HubAuth.Binary.BigEndian

/-! # Elliptic curves

  The curves over prime fields that keys may be on, with what is needed to
  read the point of a key and to compute it from the private number. In the
  field, powers are taken bit by bit, and a quotient is a product with a power.
-/

namespace HubAuth

/-! ### Arithmetic modulo a prime -/

namespace Modular

/-- The binary digits of a number, the most significant first. -/
def bits (n : Nat) : List Bool :=
  ((List.range (n.log2 + 1)).map n.testBit).reverse

/-- A power modulo `m`. -/
def pow (m base exponent : Nat) : Nat :=
  (bits exponent).foldl (fun r bit => if bit then r * r % m * base % m else r * r % m) 1

/-- The difference modulo `m` of numbers below `m`. -/
def sub (m a b : Nat) : Nat :=
  (a + (m - b)) % m

/-- The quotient modulo a prime `m`. -/
def div (m a b : Nat) : Nat :=
  a * pow m b (m - 2) % m

end Modular

/-! ### Curves -/

/-- The curve `y² = x³ + a x + b` over a prime field, with a base point. -/
structure Curve where
  /-- The object identifier of the curve. -/
  object : List UInt8
  /-- The prime. -/
  p : Nat
  /-- The coefficient of `x`. -/
  a : Nat
  /-- The constant coefficient. -/
  b : Nat
  /-- The first coordinate of the base point. -/
  gx : Nat
  /-- The second coordinate of the base point. -/
  gy : Nat
  /-- The order of the base point. -/
  order : Nat
  deriving DecidableEq, Repr

/-- A point of a curve, unless it is the one at infinity. -/
structure Point where
  /-- The first coordinate. -/
  x : Nat
  /-- The second coordinate. -/
  y : Nat
  deriving DecidableEq, Repr

namespace Curve

/-- The size of a coordinate in bytes. -/
def width (c : Curve) : Nat :=
  (c.p.log2 + 8) / 8

/-- The right side of the equation of a curve. -/
def rightSide (c : Curve) (x : Nat) : Nat :=
  (x * x * x + c.a * x + c.b) % c.p

/-- The point is on the curve. -/
def contains (c : Curve) (q : Point) : Bool :=
  q.x < c.p && q.y < c.p && q.y * q.y % c.p == c.rightSide q.x

/-! ### The group -/

/-- The third point on the line of the given slope through two points,
    reflected. -/
def meet (c : Curve) (slope : Nat) (q r : Point) : Point :=
  let x := Modular.sub c.p (slope * slope % c.p) ((q.x + r.x) % c.p)
  { x, y := Modular.sub c.p (slope * Modular.sub c.p q.x x % c.p) q.y }

/-- The sum of two points; none is the point at infinity. -/
def add (c : Curve) : Option Point → Option Point → Option Point
  | none, r => r
  | q, none => q
  | some q, some r =>
    if q.x = r.x then
      -- Either the points are opposite, or the line is the tangent.
      if (q.y + r.y) % c.p = 0 then none
      else some (c.meet (Modular.div c.p ((3 * q.x * q.x + c.a) % c.p) (2 * q.y % c.p)) q r)
    else
      some (c.meet (Modular.div c.p (Modular.sub c.p r.y q.y) (Modular.sub c.p r.x q.x)) q r)

/-- The base point of a curve. -/
def base (c : Curve) : Point :=
  { x := c.gx, y := c.gy }

/-- A multiple of the base point. -/
def multiple (c : Curve) (n : Nat) : Option Point :=
  (Modular.bits n).foldl
    (fun r bit => if bit then c.add (c.add r r) (some c.base) else c.add r r) none

/-! ### Points as octets -/

/-- The point with the given first coordinate whose second one is odd or even,
    where square roots are powers. -/
def lift? (c : Curve) (x : Nat) (odd : Bool) : Option Point :=
  let root := Modular.pow c.p (c.rightSide x) ((c.p + 1) / 4)
  let y := if (root % 2 == 1) == odd then root else Modular.sub c.p 0 root
  let q : Point := { x, y }
  if c.contains q && (q.y % 2 == 1) == odd then some q else none

/-- The point that octets stand for: a kind, then one coordinate, and the
    other unless the kind says enough about it. -/
def point? (c : Curve) : List UInt8 → Option Point
  | [] => none
  | kind :: octets =>
    if octets.length = c.width then
      if kind = 2 ∨ kind = 3 then c.lift? (Binary.natOf octets) (kind == 3) else none
    else if octets.length = 2 * c.width then
      let q : Point :=
        { x := Binary.natOf (octets.take c.width), y := Binary.natOf (octets.drop c.width) }
      if c.contains q ∧ (kind = 4 ∨ kind.toNat = 6 + q.y % 2) then some q else none
    else none

/-! ### The known curves -/

/-- The curve of 224 bits. -/
def p224 : Curve where
  object := [0x2B, 0x81, 0x04, 0x00, 0x21]
  p := 0xffffffffffffffffffffffffffffffff000000000000000000000001
  a := 0xfffffffffffffffffffffffffffffffefffffffffffffffffffffffe
  b := 0xb4050a850c04b3abf54132565044b0b7d7bfd8ba270b39432355ffb4
  gx := 0xb70e0cbd6bb4bf7f321390b94a03c1d356c21122343280d6115c1d21
  gy := 0xbd376388b5f723fb4c22dfe6cd4375a05a07476444d5819985007e34
  order := 0xffffffffffffffffffffffffffff16a2e0b8f03e13dd29455c5c2a3d

/-- The curve of 256 bits. -/
def p256 : Curve where
  object := [0x2A, 0x86, 0x48, 0xCE, 0x3D, 0x03, 0x01, 0x07]
  p := 0xffffffff00000001000000000000000000000000ffffffffffffffffffffffff
  a := 0xffffffff00000001000000000000000000000000fffffffffffffffffffffffc
  b := 0x5ac635d8aa3a93e7b3ebbd55769886bc651d06b0cc53b0f63bce3c3e27d2604b
  gx := 0x6b17d1f2e12c4247f8bce6e563a440f277037d812deb33a0f4a13945d898c296
  gy := 0x4fe342e2fe1a7f9b8ee7eb4a7c0f9e162bce33576b315ececbb6406837bf51f5
  order := 0xffffffff00000000ffffffffffffffffbce6faada7179e84f3b9cac2fc632551

/-- The curve of 256 bits whose equation has no `x`. -/
def k256 : Curve where
  object := [0x2B, 0x81, 0x04, 0x00, 0x0A]
  p := 0xfffffffffffffffffffffffffffffffffffffffffffffffffffffffefffffc2f
  a := 0
  b := 7
  gx := 0x79be667ef9dcbbac55a06295ce870b07029bfcdb2dce28d959f2815b16f81798
  gy := 0x483ada7726a3c4655da4fbfc0e1108a8fd17b448a68554199c47d08ffb10d4b8
  order := 0xfffffffffffffffffffffffffffffffebaaedce6af48a03bbfd25e8cd0364141

/-- The curve of 384 bits. -/
def p384 : Curve where
  object := [0x2B, 0x81, 0x04, 0x00, 0x22]
  p := 0xfffffffffffffffffffffffffffffffffffffffffffffffffffffffffffffffeffffffff0000000000000000ffffffff
  a := 0xfffffffffffffffffffffffffffffffffffffffffffffffffffffffffffffffeffffffff0000000000000000fffffffc
  b := 0xb3312fa7e23ee7e4988e056be3f82d19181d9c6efe8141120314088f5013875ac656398d8a2ed19d2a85c8edd3ec2aef
  gx := 0xaa87ca22be8b05378eb1c71ef320ad746e1d3b628ba79b9859f741e082542a385502f25dbf55296c3a545e3872760ab7
  gy := 0x3617de4a96262c6f5d9e98bf9292dc29f8f41dbd289a147ce9da3113b5f0b8c00a60b1ce1d7e819d7a431d7c90ea0e5f
  order := 0xffffffffffffffffffffffffffffffffffffffffffffffffc7634d81f4372ddf581a0db248b0a77aecec196accc52973

/-- The curve of 521 bits. -/
def p521 : Curve where
  object := [0x2B, 0x81, 0x04, 0x00, 0x23]
  p := 0x1ffffffffffffffffffffffffffffffffffffffffffffffffffffffffffffffffffffffffffffffffffffffffffffffffffffffffffffffffffffffffffffffffff
  a := 0x1fffffffffffffffffffffffffffffffffffffffffffffffffffffffffffffffffffffffffffffffffffffffffffffffffffffffffffffffffffffffffffffffffc
  b := 0x51953eb9618e1c9a1f929a21a0b68540eea2da725b99b315f3b8b489918ef109e156193951ec7e937b1652c0bd3bb1bf073573df883d2c34f1ef451fd46b503f00
  gx := 0xc6858e06b70404e9cd9e3ecb662395b4429c648139053fb521f828af606b4d3dbaa14b5e77efe75928fe1dc127a2ffa8de3348b3c1856a429bf97e7e31c2e5bd66
  gy := 0x11839296a789a3bc0045c8a5fb42c7d1bd998f54449579b446817afbd17273e662c97ee72995ef42640c550b9013fad0761353c7086a272c24088be94769fd16650
  order := 0x1fffffffffffffffffffffffffffffffffffffffffffffffffffffffffffffffffa51868783bf2f966b7fcc0148f709a5d03bb5c9b8899c47aebb6fb71e91386409

/-- The curves that keys may be on. -/
def known : List Curve :=
  [p224, p256, k256, p384, p521]

/-- The known curve of an object identifier. -/
def ofObject? (object : List UInt8) : Option Curve :=
  known.find? fun c => c.object == object

end Curve

end HubAuth
