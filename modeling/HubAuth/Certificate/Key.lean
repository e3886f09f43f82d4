import HubAuth.Certificate.Curve
import HubAuth.Certificate.Der
import HubAuth.Certificate.Edwards
import HubAuth.Certificate.Pem

/-! # Keys

  Public keys as they stand in certificates, and private keys as they stand in
  files. Of a private key only the public half is of interest, by which it is
  matched with a certificate: RSA keys carry it, and keys on curves carry it or
  determine it.
-/

namespace HubAuth

open Der (Reader)

/-! ### Public keys -/

/-- A public key. -/
inductive PublicKey where
  /-- An RSA key. -/
  | rsa (modulus exponent : Nat)
  /-- A point of a curve. -/
  | curve (c : Curve) (q : Point)
  /-- The octets of a point of the Edwards curve. -/
  | edwards (octets : List UInt8)
  deriving DecidableEq, Repr

namespace PublicKey

/-- The size of a key in bits: of the modulus, or of the order of the curve. -/
def size : PublicKey → Nat
  | .rsa modulus _ => modulus.log2 + 1
  | .curve c _ => c.order.log2 + 1
  | .edwards _ => 253

/-- The least size of a key of its kind that connections are made with: the
    strength that is asked for is 112 bits, which curves have at twice that
    size and RSA, with strengths rounded to bytes, from 1963 bits on. -/
def minSize : PublicKey → Nat
  | .rsa .. => 1963
  | .curve .. | .edwards _ => 224

/-- The key is large enough to make connections with. -/
def isStrong (k : PublicKey) : Bool :=
  k.minSize ≤ k.size

end PublicKey

/-! ### Algorithms -/

/-- The kind of a key, as algorithm identifiers name it. -/
structure Algorithm where
  /-- The object identifier. -/
  object : List UInt8
  /-- The parameters. -/
  parameters : Option Der.Element

namespace Algorithm

/-- Reads an algorithm identifier. -/
def read : Reader Algorithm :=
  Der.inside Der.sequenceTag do
    let object ← Der.object
    let parameters ← if (← get).isEmpty then pure none else some <$> Der.value
    return { object, parameters }

/-- The object identifier of RSA. -/
def rsa : List UInt8 :=
  [0x2A, 0x86, 0x48, 0x86, 0xF7, 0x0D, 0x01, 0x01, 0x01]

/-- The object identifier of keys on curves. -/
def onCurve : List UInt8 :=
  [0x2A, 0x86, 0x48, 0xCE, 0x3D, 0x02, 0x01]

/-- The object identifier of keys on the Edwards curve. -/
def onEdwards : List UInt8 :=
  [0x2B, 0x65, 0x70]

/-- The key is on the Edwards curve, which takes no parameters. -/
def isEdwards (a : Algorithm) : Bool :=
  a.object == onEdwards && a.parameters.isNone

/-- The curve that parameters name. -/
def curveOf? (e : Der.Element) : Option Curve :=
  if e.tag = Der.objectTag then Curve.ofObject? e.contents else none

/-- The curve of a key. -/
def curve? (a : Algorithm) : Option Curve :=
  if a.object = onCurve then a.parameters.bind curveOf? else none

end Algorithm

namespace PublicKey

/-- Reads an RSA key: modulus and exponent. -/
def rsaReader : Reader PublicKey :=
  Der.inside Der.sequenceTag do return .rsa (← Der.natural) (← Der.natural)

/-- The public key that octets stand for. -/
def ofOctets? (a : Algorithm) (octets : List UInt8) : Option PublicKey :=
  if a.object = Algorithm.rsa then (rsaReader octets).map Prod.fst
  else if a.isEdwards then
    if octets.length = Edwards.keyLength then some (.edwards octets) else none
  else do
    let c ← a.curve?
    let q ← c.point? octets
    return .curve c q

end PublicKey

/-! ### Private keys -/

/-- A private key, known by its public half. -/
structure PrivateKey where
  /-- The public half. -/
  publicHalf : PublicKey
  deriving DecidableEq, Repr

namespace PrivateKey

/-- The version of RSA keys with more than two primes. -/
def manyPrimes : Nat := 1

/-- Reads an RSA key: a version, modulus and exponent, six numbers that follow
    from the private one, and more primes if the version asks for them. -/
def rsaReader : Reader PrivateKey :=
  Der.inside Der.sequenceTag do
    let version ← Der.natural
    let modulus ← Der.natural
    let exponent ← Der.natural
    -- The private exponent, two primes and what speeds up signing.
    let _ ← Der.naturals 6
    let primes ← Der.optional Der.sequenceTag
    if version = manyPrimes ∧ primes.all List.isEmpty then failure
    return { publicHalf := .rsa modulus exponent }

/-- The element inside a numbered part, if the part is there. -/
def part (n : UInt8) : Reader (Option Der.Element) := do
  match ← Der.optional (Der.wrappedPart n) with
  | none => return none
  | some contents =>
    match Der.all Der.element contents with
    | some e => return some e
    | none => failure

/-- The point of a key on a curve: as it is given, or else computed. -/
def pointOf (c : Curve) (secret : List UInt8) : Option Der.Element → Option Point
  | none => c.multiple (Binary.natOf secret)
  | some e =>
    if e.tag = Der.bitStringTag then (Der.bits? e.contents).bind c.point? else none

/-- Reads a key on a curve: a version, the private number, and perhaps the
    curve and the point. A curve that is given here takes precedence. -/
def curveReader (outer : Option Curve) : Reader PrivateKey :=
  Der.inside Der.sequenceTag do
    let _ ← Der.natural
    let secret ← Der.tagged Der.octetStringTag
    let parameters ← part 0
    let point ← part 1
    let found : Option (Curve × Point) := do
      let c ← match parameters with
        | none => outer
        | some e => Algorithm.curveOf? e
      return (c, ← pointOf c secret point)
    match found with
    | some (c, q) => return { publicHalf := .curve c q }
    | none => failure

/-- Reads a key on the Edwards curve: its octets. -/
def edwardsReader : Reader PrivateKey := do
  let key ← Der.tagged Der.octetStringTag
  if key.length = Edwards.keyLength then
    return { publicHalf := .edwards (Edwards.publicOctets key) }
  else failure

/-- Reads a key of any kind: a version, the kind, and the key in an octet
    string. Attributes and a public key may follow. -/
def anyReader : Reader (Algorithm × PrivateKey) :=
  Der.inside Der.sequenceTag do
    let _ ← Der.integer
    let a ← Algorithm.read
    let octets ← Der.tagged Der.octetStringTag
    -- Attributes, and the public key as its bearer states it.
    let _ ← Der.optional (Der.wrappedPart 0)
    let _ ← Der.optional (Der.simplePart 1)
    let key :=
      if a.object = Algorithm.rsa then rsaReader octets
      else if a.object = Algorithm.onCurve then curveReader a.curve? octets
      else if a.isEdwards then edwardsReader octets
      else none
    match key with
    | some (k, _) => return (a, k)
    | none => failure

/-- The key of the given kind in data that holds a key of any kind. -/
def ofKind? (object data : List UInt8) : Option PrivateKey :=
  match anyReader data with
  | some ((a, k), _) => if a.object = object then some k else none
  | none => none

/-! ### Private keys as text -/

/-- The label of a key of any kind. -/
def anyLabel : Pem.Line := Pem.bytes "PRIVATE KEY"

/-- The label of an RSA key. -/
def rsaLabel : Pem.Line := Pem.bytes "RSA PRIVATE KEY"

/-- The label of a key on a curve. -/
def curveLabel : Pem.Line := Pem.bytes "EC PRIVATE KEY"

/-- The labels under which an RSA key is looked for. -/
def rsaLabels : List Pem.Line :=
  [rsaLabel, Pem.bytes "RSA PUBLIC KEY"]

/-- The labels under which a key on a curve is looked for. -/
def curveLabels : List Pem.Line :=
  [curveLabel, Pem.bytes "EC PARAMETERS"]

/-- The private key in a block, read as its label says. -/
def ofBlock? (b : Pem.Block) : Option PrivateKey :=
  if b.label = anyLabel then (anyReader b.data).map fun r => r.1.2
  else if rsaLabels.contains b.label then (rsaReader b.data).map Prod.fst
  else if curveLabels.contains b.label then (curveReader none b.data).map Prod.fst
  else none

/-- The longest text of headers that is passed over. -/
def maxHeader : Nat := 10

/-- The first private key in blocks, up to the first block with headers.
    Whatever else is not a private key is passed over. -/
def search : List (Option Pem.Block) → Option PrivateKey
  | [] => none
  | none :: bs => search bs
  | some b :: bs =>
    if maxHeader < b.header.length then none
    else
      match ofBlock? b with
      | some k => some k
      | none => search bs

/-- The private key in a block with the label of a key. Under the label of a
    certain kind there may also be a key of any kind, if it is of that one. -/
def ofKeyBlock? (b : Pem.Block) : Option PrivateKey :=
  (ofBlock? b).or
    (if b.label = rsaLabel then ofKind? Algorithm.rsa b.data
    else if b.label = curveLabel then ofKind? Algorithm.onCurve b.data
    else none)

/-- The private key in a text. If the search for one fails, the first block
    with the label of a key decides. -/
def ofPem? (text : String) : Option PrivateKey :=
  let blocks := Pem.blocks text
  (search blocks).or ((Pem.first? [anyLabel, rsaLabel, curveLabel] blocks).bind ofKeyBlock?)

end PrivateKey

end HubAuth
