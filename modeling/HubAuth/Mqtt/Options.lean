import HubAuth.Credentials.Basic
import HubAuth.Mqtt.Packet

/-! # Connecting

  What a transport needs to open a session for a device. It is put together
  anew for every attempt, so that an expired token is renewed before it is
  sent; a token that has expired and cannot be renewed is refused here and not
  by the hub.
-/

namespace HubAuth.Mqtt

/-- What a transport needs to open a session. -/
structure Options where
  /-- The name of the hub. -/
  hostName : String
  /-- The port at the hub. -/
  port : Nat
  /-- The client id, which is the id of the device. -/
  clientId : String
  /-- The user name. -/
  userName : String
  /-- The token, unless the device presents a certificate. -/
  password : Option String
  /-- The keep-alive interval in seconds. -/
  keepAlive : UInt16
  /-- The TLS context of the connection. -/
  tls : TlsContext
  deriving DecidableEq, Repr

namespace Options

/-! ### Parts -/

/-- The port of a transport. -/
def portFor (useWebsocket : Bool) : Nat :=
  if useWebsocket then 443 else 8883

/-- The user name of a device at a hub. -/
def userNameFor (hostName deviceId : String) : String :=
  hostName ++ "/" ++ deviceId ++ "/?api-version=2018-06-30"

/-- The keep-alive interval in seconds. -/
def keepAliveSecs : UInt16 := 10

/-- The options for credentials whose token is the given one. -/
def make (c : Credentials) (password : Option String) : Options :=
  { hostName := c.endpoint.hostName
    port := portFor c.config.useWebsocket
    clientId := c.endpoint.deviceId
    userName := userNameFor c.endpoint.hostName c.endpoint.deviceId
    password
    keepAlive := keepAliveSecs
    tls := c.tls }

/-! ### From credentials -/

/-- Puts the options together, renewing the token if need be. -/
def ofCredentials (c : Credentials) (now : Instant) : Step Credentials (Except Failure Options) :=
  let check := c.needsRenewal now
  if check.value then { state := check.state, value := .error .expired, log := check.log }
  else
    let c := check.state
    -- The connection is announced before the token is renewed for it.
    let token := c.token now
    let entry : Entry :=
      .connecting c.endpoint.hostName (portFor c.config.useWebsocket) c.endpoint.deviceId
    { state := token.state
      value := .ok (make c token.value)
      log := check.log ++ entry :: token.log }

/-- The packet that opens the session. -/
def packet (o : Options) : Connect :=
  { clientId := o.clientId
    userName := o.userName
    password := o.password
    keepAlive := o.keepAlive }

/-- The options in words. The password is shown. -/
def describe (o : Options) : String :=
  let number (n : Nat) := String.ofList (Text.decimal n)
  Text.record "MqttConnectOptions"
    [("host_name", Text.quoted o.hostName),
     ("port", number o.port),
     ("client_id", Text.quoted o.clientId),
     ("user_name", Text.quoted o.userName),
     ("password", Text.optional (o.password.map Text.quoted)),
     ("keep_alive", number o.keepAlive.toNat),
     ("tls", o.tls.describe)]

end Options

end HubAuth.Mqtt
