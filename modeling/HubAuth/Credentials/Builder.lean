import HubAuth.Credentials.Basic
import HubAuth.Endpoint.ConnectionString

/-! # Building credentials step by step

  A builder collects a configuration, an endpoint and perhaps the sources of a
  certificate; what is given last counts. It is of another type before the
  endpoint is given, so that only a builder with an endpoint can be finished.
-/

namespace HubAuth

/-- Credentials in the making. `ε` says whether there is an endpoint yet: it is
    `Unit` or `Endpoint`. -/
structure Builder (ε : Type) where
  /-- The endpoint. -/
  endpoint : ε
  /-- The configuration. -/
  config : Config := {}
  /-- The sources of the certificate and of its key. -/
  sources : Option (PemSource × PemSource) := none
  deriving DecidableEq, Repr

namespace Builder

variable {ε : Type}

/-- A builder to which nothing has been given. -/
def start : Builder Unit :=
  { endpoint := () }

/-- Gives the whole configuration. -/
def setConfig (b : Builder ε) (config : Config) : Builder ε :=
  { b with config }

/-- Gives the lifetime of tokens. -/
def setTokenValidity (b : Builder ε) (validity : Duration) : Builder ε :=
  { b with config := b.config.withTokenValidity validity }

/-- Gives the endpoint. -/
def setEndpoint (b : Builder Unit) (endpoint : Endpoint) : Builder Endpoint :=
  { b with endpoint }

/-- Gives the endpoint as a connection string. -/
def setConnectionString (b : Builder Unit) (s : String) : Outcome (Builder Endpoint) := do
  return b.setEndpoint (← ConnectionString.parse s)

/-- Gives the sources of the certificate and of its key. -/
def setCertificate (b : Builder Endpoint) (publicSource privateSource : PemSource) :
    Builder Endpoint :=
  { b with sources := some (publicSource, privateSource) }

/-- Builds the credentials: with a certificate if one is given, otherwise with
    a token. -/
def build (b : Builder Endpoint) (now : Instant) (files : Files.Tree) : Outcome Credentials :=
  match b.sources with
  | some (publicSource, privateSource) =>
    Credentials.withCertificate files b.endpoint publicSource privateSource b.config
  | none => Credentials.withToken now b.endpoint b.config

end Builder

end HubAuth
