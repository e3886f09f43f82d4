import HubAuth.Binary.BigEndian
import HubAuth.Text.Utf8

/-! # The CONNECT packet

  The first packet of an MQTT 3.1.1 connection: a type byte, the length of what
  follows in groups of seven bits, the name and level of the protocol, flags,
  the keep-alive interval, and then the client id, the user name and, if there
  is one, the password, each after its length in two bytes.
-/

namespace HubAuth.Mqtt

/-- What a client says first. -/
structure Connect where
  /-- The client id. -/
  clientId : String
  /-- The user name. -/
  userName : String
  /-- The password, if there is one. -/
  password : Option String
  /-- The keep-alive interval in seconds. -/
  keepAlive : UInt16
  deriving DecidableEq, Repr

/-! ### Lengths and texts -/

/-- A length in groups of seven bits, the lowest first. All but the last have
    the highest bit set. -/
def lengthBytes (n : Nat) : List UInt8 :=
  if n < 128 then [UInt8.ofNat n] else UInt8.ofNat (128 + n % 128) :: lengthBytes (n / 128)

/-- The most bytes of a text. -/
def maxText : Nat := 65535

/-- A text after its length, unless it is too long. -/
def textBytes (s : String) : Option (List UInt8) :=
  let bytes := Text.Utf8.encode s.toList
  if bytes.length ≤ maxText then some (Binary.bytesOf 2 bytes.length ++ bytes) else none

/-! ### Packets -/

/-- The type byte of a CONNECT packet. -/
def packetType : UInt8 := 0x10

/-- The name and the level of the protocol. -/
def protocol : List UInt8 :=
  [0x00, 0x04, 0x4D, 0x51, 0x54, 0x54, 0x04]

namespace Connect

/-- The flags: a user name is there, and perhaps a password. The session goes
    on from an earlier connection. -/
def flags (c : Connect) : UInt8 :=
  if c.password.isSome then 0xC0 else 0x80

/-- The texts of a packet, unless one is too long. -/
def texts (c : Connect) : Option (List UInt8) := do
  let clientId ← textBytes c.clientId
  let userName ← textBytes c.userName
  let password ←
    match c.password with
    | none => some []
    | some password => textBytes password
  return clientId ++ userName ++ password

/-- The bytes of a packet, unless a text is too long. -/
def encode (c : Connect) : Option (List UInt8) := do
  let texts ← texts c
  let body := protocol ++ flags c :: Binary.bytesOf 2 c.keepAlive.toNat ++ texts
  return packetType :: lengthBytes body.length ++ body

end Connect

end HubAuth.Mqtt
