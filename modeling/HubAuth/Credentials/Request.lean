import HubAuth.Mqtt.Options

/-! # Requests to credentials

  Whatever a caller may ask credentials for, as a value, so that a history of
  their use is a list. Clock and files are not part of the credentials: every
  request comes with the clock and the files that it finds, and these may
  change in any way from one request to the next.
-/

namespace HubAuth

/-- What a request finds outside of the credentials. -/
structure World where
  /-- The clock. -/
  now : Instant
  /-- The files. -/
  files : Files.Tree := {}
  deriving DecidableEq, Repr

namespace Credentials

/-- An operation that a caller may ask credentials for. -/
inductive Request where
  /-- The text of the current token, renewed if need be. -/
  | token
  /-- Whether the token has expired and cannot be renewed. -/
  | needsRenewal
  /-- Another certificate. -/
  | replaceCertificate (publicSource privateSource : PemSource)
  /-- Another token. -/
  | replaceToken (text : String)
  /-- Another lifetime of tokens. -/
  | setTokenValidity (validity : Duration)
  /-- Another choice of transport. -/
  | setUseWebsocket (useWebsocket : Bool)
  /-- What a transport needs to connect. -/
  | connect
  deriving DecidableEq, Repr

/-- What a caller gets. -/
inductive Answer where
  /-- The text of a token, if there is one. -/
  | token (text : Option String)
  /-- A yes or no. -/
  | flag (value : Bool)
  /-- What a transport needs. -/
  | options (options : Mqtt.Options)
  /-- Nothing but the effect. -/
  | done
  deriving DecidableEq, Repr

/-- Serves one request. -/
def serve (c : Credentials) (w : World) : Request → Step Credentials (Except Failure Answer)
  | .token => (c.token w.now).map fun text => .ok (.token text)
  | .needsRenewal => (c.needsRenewal w.now).map fun value => .ok (.flag value)
  | .replaceCertificate publicSource privateSource =>
    (c.replaceCertificate w.files publicSource privateSource).map fun r => r.map fun _ => .done
  | .replaceToken text => (c.replaceToken text).map fun r => r.map fun _ => .done
  | .setTokenValidity validity => .keep (c.setTokenValidity validity) (.ok .done)
  | .setUseWebsocket useWebsocket => .keep (c.setUseWebsocket useWebsocket) (.ok .done)
  | .connect => (Mqtt.Options.ofCredentials c w.now).map fun r => r.map .options

end Credentials

end HubAuth
