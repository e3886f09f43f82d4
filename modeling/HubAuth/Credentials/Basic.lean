import HubAuth.Config.Basic
import HubAuth.Endpoint.Basic
import HubAuth.Tls.Context
import HubAuth.Token.Issuer

/-! # Credentials

  Everything a transport needs to log one device in: a TLS context and, unless
  the device presents a certificate, a token. A device logs in one way for as
  long as its credentials live; which way is fixed by its endpoint when they
  are built.

  Replacing a certificate or a token builds the new one first. If that fails,
  the credentials stay as they were.
-/

namespace HubAuth

/-! ### Ways of login -/

/-- The way in which a device logs in. -/
inductive AuthType where
  /-- With a token, over a connection in which only the hub is known. -/
  | token
  /-- With a certificate. -/
  | certificate
  deriving DecidableEq, Repr

/-- The name of a way of login. -/
def AuthType.name : AuthType → String
  | .token => "SasToken"
  | .certificate => "X509Certificate"

/-- What a device logs in with at present. -/
inductive Mode where
  /-- The current token and its issuer. -/
  | token (issuer : Issuer) (tls : TlsContext)
  /-- The certificate and the context that presents it. -/
  | certificate (material : Material) (tls : TlsContext)
  deriving DecidableEq, Repr

/-- A mode in words. -/
def Mode.describe : Mode → String
  | .token issuer tls => Text.record "Sas" [("issuer", issuer.describe), ("tls", tls.describe)]
  | .certificate material tls =>
    Text.record "Certificate" [("certificate", material.describe), ("tls", tls.describe)]

/-! ### Credentials -/

/-- The credentials of a device. -/
structure Credentials where
  /-- The endpoint they were built for. -/
  endpoint : Endpoint
  /-- The configuration. -/
  config : Config
  /-- What the device logs in with. -/
  mode : Mode
  deriving DecidableEq, Repr

namespace Credentials

/-! ### Building -/

/-- The issuer for an endpoint: with the endpoint's key, or for the token the
    endpoint was given. -/
def issuerFor (now : Instant) (endpoint : Endpoint) (config : Config) : Outcome Issuer :=
  match endpoint.login with
  | .certificate => .fail (.argument .certificateEndpoint)
  | .sharedKey key => do
    let key ← DeviceKey.ofBase64 key
    return .ofKey now endpoint.resourceUri key config.tokenValidity config.renewalSkew
  | .sharedToken text => do
    let token ← .ofExcept ((Token.parse text).mapError .credential)
    return .ofToken token config.tokenValidity

/-- Credentials with a token. -/
def withToken (now : Instant) (endpoint : Endpoint) (config : Config) : Outcome Credentials := do
  let issuer ← issuerFor now endpoint config
  let tls ← TlsContext.serverAuthOnly
  Outcome.note (.createdToken endpoint.hostName endpoint.deviceId)
  return { endpoint, config, mode := .token issuer tls }

/-- Certificate material and the context that presents it. -/
def present (files : Files.Tree) (publicSource privateSource : PemSource) :
    Outcome (Material × TlsContext) := do
  let material ← Material.load files publicSource privateSource
  let tls ← TlsContext.bothSides material
  return (material, tls)

/-- Credentials with a certificate. -/
def withCertificate (files : Files.Tree) (endpoint : Endpoint)
    (publicSource privateSource : PemSource) (config : Config) : Outcome Credentials :=
  if endpoint.usesCertificate then do
    let (material, tls) ← present files publicSource privateSource
    Outcome.note (.createdCertificate endpoint.hostName endpoint.deviceId)
    return { endpoint, config, mode := .certificate material tls }
  else .fail (.argument .noCertificateEndpoint)

/-! ### Reading -/

/-- The way in which the device logs in. -/
def authType (c : Credentials) : AuthType :=
  match c.mode with
  | .token .. => .token
  | .certificate .. => .certificate

/-- The TLS context for connections. -/
def tls (c : Credentials) : TlsContext :=
  match c.mode with
  | .token _ tls => tls
  | .certificate _ tls => tls

/-- The issuer of tokens, if the device logs in with one. -/
def issuer? (c : Credentials) : Option Issuer :=
  match c.mode with
  | .token issuer _ => some issuer
  | .certificate .. => none

/-- The certificate material, if the device logs in with it. -/
def certificate? (c : Credentials) : Option Material :=
  match c.mode with
  | .token .. => none
  | .certificate material _ => some material

/-- The device key as it was written, if tokens are signed with one. -/
def sharedKey? (c : Credentials) : Option String :=
  (c.issuer?.bind fun i => i.deviceKey).map fun key => key.encoded

/-- How long a new token is good, if the device logs in with tokens. -/
def tokenValidity? (c : Credentials) : Option Duration :=
  c.issuer?.map fun i => i.validity

/-- Credentials in words, without their secrets. -/
def describe (c : Credentials) : String :=
  Text.record "CredentialSet"
    [("endpoint", c.endpoint.describe), ("config", c.config.describe), ("mode", c.mode.describe)]

/-! ### Operations -/

/-- The current token, renewed first if need be; none with a certificate. -/
def token (c : Credentials) (now : Instant) : Step Credentials (Option String) :=
  match c.mode with
  | .token issuer tls =>
    ((issuer.token now).within fun i => { c with mode := .token i tls }).map some
  | .certificate .. => .keep c none

/-- The token has expired and cannot be renewed. -/
def needsRenewal (c : Credentials) (now : Instant) : Step Credentials Bool :=
  match c.mode with
  | .token issuer tls => (issuer.needsRenewal now).within fun i => { c with mode := .token i tls }
  | .certificate .. => .keep c false

/-- A new certificate takes the place of the old one. -/
def replaceCertificate (c : Credentials) (files : Files.Tree)
    (publicSource privateSource : PemSource) : Step Credentials (Except Failure Unit) :=
  match c.mode with
  | .token .. => .keep c (.error (.state .certificateForToken))
  | .certificate .. =>
    -- Until the new context stands, the old one stays in use.
    let built := present files publicSource privateSource
    match built.result with
    | .error e => { state := c, value := .error e, log := built.log }
    | .ok (material, tls) =>
      { state := { c with mode := .certificate material tls }
        value := .ok ()
        log := built.log ++ [.replacedCertificate c.endpoint.deviceId] }

/-- A token that was issued elsewhere takes the place of the current one. -/
def replaceToken (c : Credentials) (text : String) : Step Credentials (Except Failure Unit) :=
  match c.mode with
  | .certificate .. => .keep c (.error (.state .tokenForCertificate))
  | .token issuer tls =>
    match Token.parse text with
    | .error e => .keep c (.error (.credential e))
    | .ok token =>
      let installed := issuer.install token
      { state := { c with mode := .token installed.state tls }
        value := .ok ()
        log := installed.log ++ [.replacedToken c.endpoint.deviceId] }

/-- New tokens are good for another length of time. With a certificate this
    changes nothing. -/
def setTokenValidity (c : Credentials) (validity : Duration) : Credentials :=
  match c.mode with
  | .token issuer tls =>
    { c with
      config := c.config.withTokenValidity validity
      mode := .token (issuer.setValidity validity) tls }
  | .certificate .. => c

/-- Another choice of transport. -/
def setUseWebsocket (c : Credentials) (useWebsocket : Bool) : Credentials :=
  { c with config := c.config.withWebsocket useWebsocket }

end Credentials

end HubAuth
