import HubAuth.Binary.BigEndian

/-! # DER

  The binary form of certificates and keys: nested elements, each with a tag,
  a length and contents. A reader takes elements from the front of a byte
  sequence and has no value if they are not there.
-/

namespace HubAuth.Der

/-! ### Elements -/

/-- A reader of bytes: a value and the rest, or nothing. -/
abbrev Reader (α : Type) := StateT (List UInt8) Option α

/-- An element. -/
structure Element where
  /-- Its tag. -/
  tag : UInt8
  /-- Its contents. -/
  contents : List UInt8
  deriving DecidableEq, Repr

/-- The most bytes that a length may have, without leading zeros. -/
def maxLengthBytes : Nat := 8

/-- The length that stands in front of contents, and the rest. A length in
    several bytes begins with their number. -/
def length? : List UInt8 → Option (Nat × List UInt8)
  | [] => none
  | b :: bs =>
    if b < 128 then some (b.toNat, bs)
    -- A length that is left open is not read.
    else if b = 128 then none
    else
      match Binary.split? (b.toNat - 128) bs with
      | none => none
      | some (digits, rest) =>
        if maxLengthBytes < (digits.dropWhile (· == 0)).length then none
        else some (Binary.natOf digits, rest)

/-- The next element. Tags of more than one byte are not read. -/
def element : Reader Element
  | [] => none
  | tag :: bs =>
    if tag.toNat % 32 = 31 then none
    else
      match length? bs with
      | none => none
      | some (n, bs) =>
        match Binary.split? n bs with
        | none => none
        | some (contents, rest) => some ({ tag, contents }, rest)

/-- The contents of the next element, which must have the given tag. -/
def tagged (tag : UInt8) : Reader (List UInt8) := do
  let e ← element
  if e.tag = tag then return e.contents else failure

/-- The contents of the next element, if it has the given tag. -/
def optional (tag : UInt8) : Reader (Option (List UInt8)) := do
  if (← get).head? = some tag then some <$> tagged tag else return none

/-- The value that a reader gives for all of some bytes. -/
def all {α : Type} (r : Reader α) (bytes : List UInt8) : Option α :=
  match r bytes with
  | some (a, []) => some a
  | _ => none

/-- The value that a reader gives for all contents of the next element. -/
def inside {α : Type} (tag : UInt8) (r : Reader α) : Reader α := do
  match all r (← tagged tag) with
  | some a => return a
  | none => failure

/-- As many values as there are bytes for. The number bounds how many. -/
def many {α : Type} (r : Reader α) : Nat → Reader (List α)
  | 0 => fun bytes => if bytes.isEmpty then some ([], []) else none
  | n + 1 => do
    if (← get).isEmpty then return []
    else return (← r) :: (← many r n)

/-- The bit of a tag that says that the contents are elements. -/
def nestedBit : UInt8 := 0x20

/-- The values inside the next element, all read alike. Whether its tag says
    that the contents are elements does not count. -/
def listInside {α : Type} (tag : UInt8) (r : Reader α) : Reader (List α) := do
  let e ← element
  if e.tag ||| nestedBit = tag then
    match all (many r e.contents.length) e.contents with
    | some as => return as
    | none => failure
  else failure

/-! ### Tags -/

/-- The tag of truth values. -/
def booleanTag : UInt8 := 0x01

/-- The tag of integers. -/
def integerTag : UInt8 := 0x02

/-- The tag of bit strings. -/
def bitStringTag : UInt8 := 0x03

/-- The tag of octet strings. -/
def octetStringTag : UInt8 := 0x04

/-- The tag of object identifiers. -/
def objectTag : UInt8 := 0x06

/-- The tag of sequences. -/
def sequenceTag : UInt8 := 0x30

/-- The tag of sets. -/
def setTag : UInt8 := 0x31

/-- The tag of a simple element that stands for a numbered part. -/
def simplePart (n : UInt8) : UInt8 := 0x80 + n

/-- The tag of an element around a numbered part. -/
def wrappedPart (n : UInt8) : UInt8 := 0xA0 + n

/-! ### Simple values -/

/-- The bytes of an integer are not more than it needs. -/
def isShortest : List UInt8 → Bool
  | [] => false
  | [_] => true
  | a :: b :: _ => !(a == 0 && b < 128) && !(a == 255 && 128 ≤ b)

/-- An integer. Its sign does not matter where one is read. -/
def integer : Reader (List UInt8) := do
  let contents ← tagged integerTag
  if isShortest contents then return contents else failure

/-- An integer that is taken as unsigned, however it is written. -/
def natural : Reader Nat := do
  return Binary.natOf (← tagged integerTag)

/-- A number of integers, one after the other. -/
def naturals : Nat → Reader (List Nat)
  | 0 => return []
  | n + 1 => return (← natural) :: (← naturals n)

/-- The parts of an object identifier end, and none begins with a zero. -/
def isObject : List UInt8 → Bool
  | [] => false
  | bs => bs.getLast?.any (· < 128) && noLeadingZero true bs
where
  /-- No part begins with a zero; the next byte begins one or not. -/
  noLeadingZero : Bool → List UInt8 → Bool
    | _, [] => true
    | begins, b :: bs => !(begins && b == 128) && noLeadingZero (b < 128) bs

/-- An object identifier. -/
def object : Reader (List UInt8) := do
  let contents ← tagged objectTag
  if isObject contents then return contents else failure

/-- The octets of a bit string, whose first octet counts the unused bits of
    the last. These are taken as zero. -/
def bits? : List UInt8 → Option (List UInt8)
  | [] => none
  | unused :: octets =>
    if unused ≤ 7 then
      match octets.getLast? with
      | none => some []
      | some last => some (octets.dropLast ++ [last >>> unused <<< unused])
    else none

/-- A bit string. -/
def bitString : Reader (List UInt8) := do
  match bits? (← tagged bitStringTag) with
  | some octets => return octets
  | none => failure

/-! ### Values of any kind -/

/-- The tag of the value that says nothing. -/
def nullTag : UInt8 := 0x05

/-- The tag of enumerated numbers. -/
def enumeratedTag : UInt8 := 0x0A

/-- The tag of text in UTF-8. -/
def utf8Tag : UInt8 := 0x0C

/-- The tag of times with two digits for the year. -/
def shortTimeTag : UInt8 := 0x17

/-- The tag of times with four digits for the year. -/
def longTimeTag : UInt8 := 0x18

/-- The tag of text in four bytes for each character. -/
def fourByteTextTag : UInt8 := 0x1C

/-- The tag of text in two bytes for each character. -/
def twoByteTextTag : UInt8 := 0x1E

/-- The tag says of its contents what it must: that they are elements for a
    sequence or a set, and that they are not for any other value. No value has
    the tag zero. -/
def isNestedRightly (tag : UInt8) : Bool :=
  if tag = 0 then false
  else if tag = sequenceTag ∨ tag = setTag then true
  else if 0x40 ≤ tag then true
  else tag < 0x20 && tag ||| nestedBit != sequenceTag && tag ||| nestedBit != setTag

/-- The contents of an element are such as its tag asks for. -/
def isValue (e : Element) : Bool :=
  if !isNestedRightly e.tag then false
  else if e.tag = booleanTag then e.contents.length == 1
  else if e.tag = integerTag ∨ e.tag = enumeratedTag then isShortest e.contents
  else if e.tag = bitStringTag then (bits? e.contents).isSome
  else if e.tag = nullTag then e.contents.isEmpty
  else if e.tag = objectTag then isObject e.contents
  else if e.tag = fourByteTextTag then e.contents.length % 4 == 0
  else if e.tag = twoByteTextTag then e.contents.length % 2 == 0
  else true

/-- A value of any kind. -/
def value : Reader Element := do
  let e ← element
  if isValue e then return e else failure

end HubAuth.Der
