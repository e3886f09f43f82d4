import HubAuth.Certificate.Anchor
import HubAuth.Certificate.Material

/-! # TLS contexts

  What a connection to a hub is made with: the roots that the hub's
  certificate must lead to and, if the device logs in with a certificate, the
  identity it presents. An identity is a certificate with the private key that
  belongs to it.
-/

namespace HubAuth

/-! ### Identities -/

/-- A certificate and the private key that belongs to it. -/
structure Identity where
  /-- The certificate. -/
  certificate : Certificate
  /-- The private key. -/
  key : PrivateKey
  /-- The certificate is for the public half of the key. -/
  paired : certificate.publicKey = some key.publicHalf
  deriving DecidableEq, Repr

namespace Identity

/-- The identity in certificate material. The certificate is read before the
    key, and only then are they compared. -/
def ofMaterial (m : Material) : Except TlsFault Identity :=
  match Certificate.ofPem? m.publicCertificate with
  | none => .error (.unparsable .publicCertificate)
  | some certificate =>
    match PrivateKey.ofPem? m.privateKey with
    | none => .error (.unparsable .privateKey)
    | some key =>
      if paired : certificate.publicKey = some key.publicHalf then .ok { certificate, key, paired }
      else .error .pair

end Identity

/-! ### Contexts -/

/-- What a connection is made with. -/
structure TlsContext where
  /-- The roots that are trusted. -/
  roots : List Certificate
  /-- The identity that the device presents, if it does. -/
  identity : Option Identity
  deriving DecidableEq, Repr

namespace TlsContext

/-- Which peers present certificates. -/
def mode (t : TlsContext) : TlsMode :=
  if t.identity.isSome then .bothSides else .serverAuthOnly

/-- The device presents a certificate. -/
def hasClientIdentity (t : TlsContext) : Bool :=
  t.mode = .bothSides

/-- The context without an identity. -/
def withoutIdentity : Except TlsFault TlsContext :=
  TrustAnchor.certificates.map fun roots => { roots, identity := none }

/-- The context with an identity. The roots are read after it, and a weak key
    is refused last. -/
def ofIdentity (i : Identity) : Except TlsFault TlsContext :=
  TrustAnchor.certificates.bind fun roots =>
    if i.key.publicHalf.isStrong then .ok { roots, identity := some i } else .error .platform

/-- The context that certificate material gives. -/
def ofMaterial (m : Material) : Except TlsFault TlsContext :=
  match Identity.ofMaterial m with
  | .error e => .error e
  | .ok i => ofIdentity i

/-- Builds a context in which only the hub proves its identity. -/
def serverAuthOnly : Outcome TlsContext := do
  Outcome.note (.buildingTls .serverAuthOnly)
  .ofExcept (withoutIdentity.mapError .tls)

/-- Builds a context in which the device presents the given material. -/
def bothSides (m : Material) : Outcome TlsContext := do
  Outcome.note (.buildingTls .bothSides)
  .ofExcept ((ofMaterial m).mapError .tls)

/-- A context in words. -/
def describe (t : TlsContext) : String :=
  Text.record "TlsContext" [("mode", t.mode.name)]

end TlsContext

end HubAuth
