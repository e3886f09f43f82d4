import HubAuth.Outcome
import HubAuth.Text.Quoted

/-! # Endpoints

  Which hub a device talks to, which device it is, and what it logs in with.
  The way of login is one value of `Login`, so an endpoint has exactly one;
  host and device are never empty.
-/

namespace HubAuth

/-- What a device logs in with. -/
inductive Login where
  /-- A device key in base64, from which tokens are signed. -/
  | sharedKey (key : String)
  /-- A token that was issued elsewhere. -/
  | sharedToken (token : String)
  /-- A certificate, which is not part of the endpoint. -/
  | certificate
  deriving DecidableEq, Repr

/-- The resource that tokens of a device at a hub are for. -/
def deviceResource (hostName deviceId : String) : String :=
  hostName ++ "/devices/" ++ deviceId

/-- The identity of a device at a hub. -/
structure Endpoint where
  /-- The fully qualified name of the hub. -/
  hostName : String
  /-- The id of the device. -/
  deviceId : String
  /-- What the device logs in with. -/
  login : Login
  /-- The hub has a name. -/
  host_ne : hostName ≠ ""
  /-- The device has an id. -/
  device_ne : deviceId ≠ ""
  deriving DecidableEq, Repr

namespace Endpoint

/-! ### Building -/

/-- The endpoint with the given parts; an empty host is reported before an
    empty device. -/
def make (hostName deviceId : String) (login : Login) : Except ArgumentFault Endpoint :=
  if host_ne : hostName = "" then .error (.emptyName .host)
  else if device_ne : deviceId = "" then .error (.emptyName .device)
  else .ok { hostName, deviceId, login, host_ne, device_ne }

/-- The endpoint of a device that signs its own tokens. -/
def withSharedKey (hostName deviceId key : String) : Except ArgumentFault Endpoint :=
  make hostName deviceId (.sharedKey key)

/-- The endpoint of a device with a token from elsewhere. -/
def withSharedToken (hostName deviceId token : String) : Except ArgumentFault Endpoint :=
  make hostName deviceId (.sharedToken token)

/-- The endpoint of a device with a certificate. -/
def withCertificate (hostName deviceId : String) : Except ArgumentFault Endpoint :=
  make hostName deviceId .certificate

/-! ### Parts -/

/-- The name of the hub: the host name up to its first dot. -/
def hubName (e : Endpoint) : String :=
  String.ofList (e.hostName.toList.takeWhile (· != '.'))

/-- The device key, if the device signs its own tokens. -/
def sharedKey? (e : Endpoint) : Option String :=
  match e.login with
  | .sharedKey key => some key
  | _ => none

/-- The token the endpoint was given, if any. -/
def sharedToken? (e : Endpoint) : Option String :=
  match e.login with
  | .sharedToken token => some token
  | _ => none

/-- The device logs in with a certificate. -/
def usesCertificate (e : Endpoint) : Bool :=
  match e.login with
  | .certificate => true
  | _ => false

/-- The resource that tokens of the device are for. -/
def resourceUri (e : Endpoint) : String :=
  deviceResource e.hostName e.deviceId

/-- An endpoint in words, without its key or token. -/
def describe (e : Endpoint) : String :=
  Text.record "ConnectionEndpoint"
    [("host_name", Text.quoted e.hostName),
     ("device_id", Text.quoted e.deviceId),
     ("hub_name", Text.quoted e.hubName),
     ("shared_access_key", Text.optional (e.sharedKey?.map fun _ => Text.redacted)),
     ("shared_access_token", Text.optional (e.sharedToken?.map fun _ => Text.redacted)),
     ("uses_certificate_auth", Text.truth e.usesCertificate)]

end Endpoint

end HubAuth
