import HubAuth.Certificate.Key

/-! # Certificates

  A certificate is read for its structure and its public key. Its signature,
  its dates and its extensions are not judged; whether its key is of a known
  kind shows only when the key is needed.
-/

namespace HubAuth

open Der (Reader)

/-- A certificate. -/
structure Certificate where
  /-- The public key, if it is of a known kind. -/
  publicKey : Option PublicKey
  deriving DecidableEq, Repr

namespace Certificate

/-! ### Parts -/

/-- The code points of text in two bytes for each character. -/
def twoByteText : List UInt8 → List Nat
  | a :: b :: rest => Binary.natOf [a, b] :: twoByteText rest
  | _ => []

/-- The code points of text in four bytes for each character. -/
def fourByteText : List UInt8 → List Nat
  | a :: b :: c :: d :: rest => Binary.natOf [a, b, c, d] :: fourByteText rest
  | _ => []

/-- A code point is that of a character. -/
def isCharacter (n : Nat) : Bool :=
  n < 0xD800 || (0xDFFF < n && n < 0x110000)

/-- The tags of values whose contents do not matter in a name. -/
def freeTags : List UInt8 :=
  [0x07, 0x08, 0x09, 0x0B, 0x0D, 0x0E, 0x0F, 0x12, 0x13, 0x14, 0x16, 0x1D, Der.sequenceTag]

/-- The value may stand in a name: text whose characters are known is checked
    for them. -/
def isNameValue (e : Der.Element) : Bool :=
  if e.tag = Der.utf8Tag then (Text.Utf8.decode? e.contents).isSome
  else if e.tag = Der.twoByteTextTag then (twoByteText e.contents).all isCharacter
  else if e.tag = Der.fourByteTextTag then (fourByteText e.contents).all isCharacter
  else e.tag == Der.bitStringTag || freeTags.contains e.tag

/-- Reads a part of a name: its kind and a value. -/
def namePartReader : Reader Unit :=
  Der.inside Der.sequenceTag do
    let _ ← Der.object
    if isNameValue (← Der.value) then return () else failure

/-- Reads a name: groups of parts. -/
def nameReader : Reader Unit := do
  let _ ← Der.listInside Der.sequenceTag (Der.listInside Der.setTag namePartReader)

/-- Reads a time in either notation. -/
def timeReader : Reader Unit := do
  let e ← Der.element
  if e.tag = Der.shortTimeTag ∨ e.tag = Der.longTimeTag then return () else failure

/-- Reads the time from which and the time to which a certificate counts. -/
def validityReader : Reader Unit :=
  Der.inside Der.sequenceTag do
    timeReader
    timeReader

/-- Reads a public key with its kind. -/
def keyReader : Reader (Option PublicKey) :=
  Der.inside Der.sequenceTag do
    let a ← Algorithm.read
    return PublicKey.ofOctets? a (← Der.bitString)

/-- Reads a numbered bit string, if it is there. -/
def uniqueReader (n : UInt8) : Reader Unit := do
  match ← Der.optional (Der.simplePart n) with
  | none => return ()
  | some contents => if (Der.bits? contents).isSome then return () else failure

/-- Reads an extension: its kind, perhaps whether it is critical, and its
    value. -/
def extensionReader : Reader Unit :=
  Der.inside Der.sequenceTag do
    let _ ← Der.object
    match ← Der.optional Der.booleanTag with
    | some [_] | none =>
      let _ ← Der.tagged Der.octetStringTag
    | some _ => failure

/-- Reads a numbered part, if it is there. -/
def optionalPart (n : UInt8) (r : Reader Unit) : Reader Unit := do
  if (← get).head? = some (Der.wrappedPart n) then Der.inside (Der.wrappedPart n) r else return ()

/-! ### Whole certificates -/

/-- Reads what a certificate says. -/
def bodyReader : Reader Certificate :=
  Der.inside Der.sequenceTag do
    -- The version and the serial number.
    optionalPart 0 do let _ ← Der.integer
    let _ ← Der.integer
    let _ ← Algorithm.read
    -- The issuer, the dates and the subject.
    nameReader
    validityReader
    nameReader
    let publicKey ← keyReader
    -- Identifiers of issuer and subject, and the extensions.
    uniqueReader 1
    uniqueReader 2
    optionalPart 3 do let _ ← Der.listInside Der.sequenceTag extensionReader
    return { publicKey }

/-- Reads a certificate: what it says and a signature of it. -/
def reader : Reader Certificate :=
  Der.inside Der.sequenceTag do
    let body ← bodyReader
    let _ ← Algorithm.read
    let _ ← Der.bitString
    return body

/-- The labels of a certificate. -/
def labels : List Pem.Line :=
  [Pem.bytes "CERTIFICATE", Pem.bytes "X509 CERTIFICATE"]

/-- The first certificate in a text. -/
def ofPem? (text : String) : Option Certificate := do
  let b ← Pem.first? labels (Pem.blocks text)
  return (← reader b.data).1

end Certificate

end HubAuth
