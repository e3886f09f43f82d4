import HubAuth.Mqtt.Packet

/-! # Reading CONNECT packets

  What a broker learns from the first packet of an MQTT 3.1.1 connection,
  whoever wrote it. A byte of flags says which parts the packet has: the client
  id is always there, and a will, a user name and a password may follow it. The
  packet ends where its length says; another type, another protocol, flags that
  contradict each other and bytes that are missing or left over are refused.
-/

namespace HubAuth.Mqtt

/-! ### Flags -/

/-- What the byte of flags says. -/
structure Flags where
  /-- There is a user name. -/
  userName : Bool
  /-- There is a password. -/
  password : Bool
  /-- The will is to be kept by the broker. -/
  willRetain : Bool
  /-- The quality of service of the will. -/
  willQuality : Nat
  /-- There is a will. -/
  will : Bool
  /-- No earlier session is to be taken up. -/
  cleanSession : Bool
  deriving DecidableEq, Repr

namespace Flags

/-- The flags do not contradict each other: nothing is said about a will that is
    not there, its quality is one of three, and there is a user name where there
    is a password. -/
def isConsistent (f : Flags) : Bool :=
  (f.will || (f.willQuality == 0 && !f.willRetain)) && f.willQuality < 3
    && (f.userName || !f.password)

/-- The flags in a byte. Its lowest bit must not be set. -/
def ofByte? (b : UInt8) : Option Flags :=
  let bit (n : Nat) : Bool := b.toNat.testBit n
  let f : Flags :=
    { userName := bit 7
      password := bit 6
      willRetain := bit 5
      willQuality := b.toNat / 8 % 4
      will := bit 2
      cleanSession := bit 1 }
  if !bit 0 && f.isConsistent then some f else none

end Flags

/-! ### Parts -/

/-- Reads a length of at most the given number of groups. -/
def readLength : Nat → List UInt8 → Option (Nat × List UInt8)
  | 0, _ => none
  | _ + 1, [] => none
  | groups + 1, b :: bs =>
    if b < 128 then some (b.toNat, bs)
    else (readLength groups bs).map fun r => (b.toNat - 128 + 128 * r.1, r.2)

/-- Reads one byte. -/
def readByte : List UInt8 → Option (UInt8 × List UInt8)
  | [] => none
  | b :: bytes => some (b, bytes)

/-- Reads bytes after their number in two bytes. -/
def readBlock (bytes : List UInt8) : Option (List UInt8 × List UInt8) := do
  let (length, bytes) ← Binary.split? 2 bytes
  Binary.split? (Binary.natOf length) bytes

/-- Reads a text after the number of its bytes. -/
def readText (bytes : List UInt8) : Option (String × List UInt8) := do
  let (block, bytes) ← readBlock bytes
  return (String.ofList (← Text.Utf8.decode? block), bytes)

/-- Reads a part that is there only if a flag says so. -/
def readIf {α : Type} (present : Bool) (read : List UInt8 → Option (α × List UInt8))
    (bytes : List UInt8) : Option (Option α × List UInt8) :=
  if present then (read bytes).map fun r => (some r.1, r.2) else some (none, bytes)

/-- Reads a will: its topic and its message. -/
def readWill (bytes : List UInt8) : Option ((String × List UInt8) × List UInt8) := do
  let (topic, bytes) ← readText bytes
  let (message, bytes) ← readBlock bytes
  return ((topic, message), bytes)

/-! ### Packets -/

/-- What a broker learns from a CONNECT packet. -/
structure Session where
  /-- The flags. -/
  flags : Flags
  /-- The keep-alive interval in seconds. -/
  keepAlive : Nat
  /-- The client id. -/
  clientId : String
  /-- The topic and the message of the will. -/
  will : Option (String × List UInt8)
  /-- The user name. -/
  userName : Option String
  /-- The password, which need not be a text. -/
  password : Option (List UInt8)
  deriving DecidableEq, Repr

namespace Session

/-- The name and the level of the protocol. -/
def readProtocol (bytes : List UInt8) : Option (Unit × List UInt8) := do
  let (name, bytes) ← readText bytes
  let (level, bytes) ← readByte bytes
  if name = "MQTT" ∧ level = 4 then return ((), bytes) else none

/-- Reads what follows the length. All bytes must be used. -/
def ofBody? (bytes : List UInt8) : Option Session := do
  let (_, bytes) ← readProtocol bytes
  let (octet, bytes) ← readByte bytes
  let flags ← Flags.ofByte? octet
  let (keepAlive, bytes) ← Binary.split? 2 bytes
  let (clientId, bytes) ← readText bytes
  let (will, bytes) ← readIf flags.will readWill bytes
  let (userName, bytes) ← readIf flags.userName readText bytes
  let (password, bytes) ← readIf flags.password readBlock bytes
  if bytes.isEmpty then
    return { flags, keepAlive := Binary.natOf keepAlive, clientId, will, userName, password }
  else none

/-- Reads one packet from the front of the bytes that have arrived. -/
def read (bytes : List UInt8) : Option (Session × List UInt8) := do
  let bytes ← [packetType].isPrefixOf? bytes
  let (length, bytes) ← readLength 4 bytes
  let (body, rest) ← Binary.split? length bytes
  return (← ofBody? body, rest)

end Session

end HubAuth.Mqtt
