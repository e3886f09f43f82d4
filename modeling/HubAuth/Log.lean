import HubAuth.Failure
import HubAuth.Time.Instant

/-! # Log entries

  What operations report while they run. An entry is the event itself; its
  level and its wording are functions of it. No event carries a key, a
  signature or the text of a token.
-/

namespace HubAuth

/-! ### Levels -/

/-- How much attention an entry asks for. -/
inductive Level where
  /-- Detail of an operation. -/
  | trace
  /-- A change that the program makes on its own. -/
  | debug
  /-- A change that a caller asked for. -/
  | info
  /-- Something that a person should look at. -/
  | warn
  deriving DecidableEq, Repr

/-- The name of a level. -/
def Level.name : Level → String
  | .trace => "TRACE"
  | .debug => "DEBUG"
  | .info => "INFO"
  | .warn => "WARN"

/-! ### TLS modes -/

/-- Which peers present certificates during the handshake. -/
inductive TlsMode where
  /-- Only the hub proves its identity. -/
  | serverAuthOnly
  /-- The device presents a certificate as well. -/
  | bothSides
  deriving DecidableEq, Repr

/-- The name of the mode. -/
def TlsMode.name : TlsMode → String
  | .serverAuthOnly => "ServerAuthOnly"
  | .bothSides => "Mutual"

/-! ### Entries -/

/-- An event worth reporting. -/
inductive Entry where
  /-- Key and signature of a certificate endpoint are dropped. -/
  | sharedAccessIgnored
  /-- A key is decoded that is not canonical base64. -/
  | keyNotCanonical
  /-- An expired token is replaced by a new one. -/
  | renewed (resourceUri : String) (expiry : Instant)
  /-- A token from outside takes the place of the current one. -/
  | installed (resourceUri : String) (expiry : Instant)
  /-- The token has expired and cannot be renewed. -/
  | stuck (resourceUri : String)
  /-- A file of certificate material is read. -/
  | reading (half : Half) (path : String)
  /-- A TLS context is built. -/
  | buildingTls (mode : TlsMode)
  /-- Token credentials are ready. -/
  | createdToken (hostName deviceId : String)
  /-- Certificate credentials are ready. -/
  | createdCertificate (hostName deviceId : String)
  /-- A new certificate is in use. -/
  | replacedCertificate (deviceId : String)
  /-- A new token is in use. -/
  | replacedToken (deviceId : String)
  /-- A connection is about to be made. -/
  | connecting (hostName : String) (port : Nat) (deviceId : String)
  deriving DecidableEq, Repr

namespace Entry

/-- The level of an entry. -/
def level : Entry → Level
  | .sharedAccessIgnored | .renewed .. | .installed .. => .debug
  | .keyNotCanonical | .stuck .. => .warn
  | .reading .. | .buildingTls .. | .connecting .. => .trace
  | .createdToken .. | .createdCertificate .. | .replacedCertificate .. | .replacedToken .. => .info

/-- A point of time as it stands in an entry. -/
def timeText (t : Instant) : String :=
  String.ofList t.toText

/-- The wording of an entry. -/
def message : Entry → String
  | .sharedAccessIgnored => "Ignoring shared access credentials of an x509 endpoint"
  | .keyNotCanonical => "Device key is not canonical base64, decoded leniently"
  | .renewed uri expiry =>
    "Renewed SAS token for " ++ uri ++ ", expires at " ++ timeText expiry
  | .installed uri expiry =>
    "Installed SAS token for " ++ uri ++ ", expires at " ++ timeText expiry
  | .stuck uri =>
    "SAS token for " ++ uri ++ " has expired and no device key is available to renew it"
  | .reading half path => "Reading " ++ half.label ++ " from " ++ path
  | .buildingTls .serverAuthOnly => "Building server-auth-only TLS context"
  | .buildingTls .bothSides => "Building mutual TLS context"
  | .createdToken host device =>
    "Created SAS token credentials for IoT hub " ++ host ++ ", device " ++ device
  | .createdCertificate host device =>
    "Created x509 certificate credentials for IoT hub " ++ host ++ ", device " ++ device
  | .replacedCertificate device => "Replaced x509 certificate for device " ++ device
  | .replacedToken device => "Replaced SAS token for device " ++ device
  | .connecting host port device =>
    "Preparing MQTT connection to " ++ host ++ ":" ++ String.ofList (Text.decimal port)
      ++ " for " ++ device

/-- An entry as one line: its level and its wording. -/
def line (e : Entry) : String :=
  e.level.name ++ " " ++ e.message

end Entry

end HubAuth
