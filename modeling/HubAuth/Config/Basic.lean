import HubAuth.Text.Decimal
import HubAuth.Text.Quoted
import HubAuth.Time.Duration

/-! # Configuration

  What can be tuned: the lifetime of tokens, how far a renewed token outlives
  it, two timeouts for the transport, and which transport is used. The library
  itself has a version.
-/

namespace HubAuth

/-- The version of this library. -/
def version : String :=
  "0.1.0"

/-- The tunables of a device. -/
structure Config where
  /-- How long a token is good, in seconds. -/
  tokenValiditySecs : Nat := 3600
  /-- How much longer a renewed token is good, in seconds. -/
  renewalSkewSecs : Nat := 1
  /-- How long a read may take, in milliseconds. -/
  readTimeoutMillis : Nat := 240000
  /-- How long a received message stays locked, in seconds. -/
  messageLockSecs : Nat := 180
  /-- The transport tunnels through a web socket. -/
  useWebsocket : Bool := false
  deriving DecidableEq, Repr

namespace Config

/-! ### Changes -/

/-- Another lifetime of tokens. Only its whole seconds are kept. -/
def withTokenValidity (c : Config) (validity : Duration) : Config :=
  { c with tokenValiditySecs := validity.secs }

/-- Another renewal skew. Only its whole seconds are kept. -/
def withRenewalSkew (c : Config) (skew : Duration) : Config :=
  { c with renewalSkewSecs := skew.secs }

/-- Another choice of transport. -/
def withWebsocket (c : Config) (useWebsocket : Bool) : Config :=
  { c with useWebsocket }

/-! ### As durations -/

/-- How long a token is good. -/
def tokenValidity (c : Config) : Duration :=
  .ofSecs c.tokenValiditySecs

/-- How much longer a renewed token is good: never less than a second. -/
def renewalSkew (c : Config) : Duration :=
  .ofSecs (max c.renewalSkewSecs 1)

/-- How long a read may take. -/
def readTimeout (c : Config) : Duration :=
  .ofMillis c.readTimeoutMillis

/-- How long a received message stays locked. -/
def messageLock (c : Config) : Duration :=
  .ofSecs c.messageLockSecs

/-! ### Description -/

/-- A configuration in words. -/
def describe (c : Config) : String :=
  let number (n : Nat) := String.ofList (Text.decimal n)
  Text.record "AuthConfig"
    [("token_validity_secs", number c.tokenValiditySecs),
     ("token_renewal_skew_secs", number c.renewalSkewSecs),
     ("read_timeout_ms", number c.readTimeoutMillis),
     ("message_lock_timeout_secs", number c.messageLockSecs),
     ("use_websocket", Text.truth c.useWebsocket)]

end Config

end HubAuth
