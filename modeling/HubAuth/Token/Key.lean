import HubAuth.Base64.Lenient
import HubAuth.Base64.Strict
import HubAuth.Hash
import HubAuth.Outcome

/-! # Device keys

  The long-lived secret of a device, as it was written and as the bytes that
  sign. Reading a key is lenient about padding, white space and a lone last
  symbol; a key that only the lenient reading accepts is reported.
-/

namespace HubAuth

/-- A device key. -/
structure DeviceKey where
  /-- The key as it was written. -/
  encoded : String
  /-- The bytes it stands for. -/
  bytes : List UInt8
  deriving DecidableEq, Repr

namespace DeviceKey

/-- The fault of a key, as a cause of failure. -/
def fault : Base64.Fault → CredentialFault
  | .notAscii => .keyNotAscii
  | .invalidByte code offset => .keyByte code offset

/-- The key that a base64 text stands for. -/
def ofBase64 (key : String) : Outcome DeviceKey :=
  match Base64.decodeLenient key.toList with
  | .error e => .fail (.credential (fault e))
  | .ok [] => .fail (.credential .emptyKey)
  | .ok bytes => do
    if (Base64.decodeStrict? key.toList).isNone then
      Outcome.note .keyNotCanonical
    return { encoded := key, bytes }

/-- The signature of a message, in base64. -/
def sign (k : DeviceKey) (message : List UInt8) : List Char :=
  Base64.encode (Hash.hmac k.bytes message)

/-- A key in words; nothing of it is shown. -/
def describe (_ : DeviceKey) : String :=
  "DeviceKey(<redacted>)"

end DeviceKey

end HubAuth
