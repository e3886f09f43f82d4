import HubAuth.Step
import HubAuth.Token.Basic

/-! # Token issuers

  An issuer holds the current token of one device. With a device key it
  replaces an expired token when the token is asked for; without one it can
  only report that it is stuck, once for every token, and wait for a new token
  from outside.

  A renewed token is good for the validity and, beyond it, the renewal skew,
  which is at least one second. So it is good at the time of renewal even when
  the validity is zero.
-/

namespace HubAuth

/-- The current token of a device and what is needed to renew it. -/
structure Issuer where
  /-- The resource that tokens are signed for. -/
  resourceUri : String
  /-- The key that signs tokens, if there is one. -/
  deviceKey : Option DeviceKey
  /-- How long a new token is good. -/
  validity : Duration
  /-- How much longer a renewed token is good. -/
  renewalSkew : Duration
  /-- The current token. -/
  current : Token
  /-- It has been reported that the current token cannot be renewed. -/
  stuckReported : Bool
  deriving DecidableEq, Repr

namespace Issuer

/-- The least renewal skew. -/
def minRenewalSkew : Duration :=
  .ofSecs 1

/-! ### Building -/

/-- An issuer with a key. Its first token is signed at once. -/
def ofKey (now : Instant) (resourceUri : String) (key : DeviceKey)
    (validity renewalSkew : Duration) : Issuer :=
  { resourceUri
    deviceKey := some key
    validity
    renewalSkew := renewalSkew.max minRenewalSkew
    current := .issue now resourceUri key validity
    stuckReported := false }

/-- An issuer of a token from outside. It cannot renew. -/
def ofToken (token : Token) (validity : Duration) : Issuer :=
  { resourceUri := token.resourceUri
    deviceKey := none
    validity
    renewalSkew := minRenewalSkew
    current := token
    stuckReported := false }

/-! ### Reading -/

/-- The expiry of a token that is renewed now. Each of the two sums may stop at
    the last point of time. -/
def renewedExpiry (i : Issuer) (now : Instant) : Instant :=
  (now.add i.validity).add i.renewalSkew

/-- A new token, which does not become the current one; none without a key. -/
def issue (i : Issuer) (now : Instant) : Option Token :=
  i.deviceKey.map fun key => .issue now i.resourceUri key i.validity

/-- The current token has expired and there is no key to sign another. -/
def isStuck (i : Issuer) (now : Instant) : Bool :=
  i.deviceKey.isNone && i.current.isExpiredAt now

/-! ### Operations -/

/-- The current token, renewed first if it has expired and there is a key. -/
def token (i : Issuer) (now : Instant) : Step Issuer String :=
  match i.deviceKey with
  | some key =>
    if i.current.isExpiredAt now then
      let expiry := i.renewedExpiry now
      let renewed := Token.sign i.resourceUri key expiry
      { state := { i with current := renewed }
        value := renewed.text
        log := [.renewed i.resourceUri expiry] }
    else .keep i i.current.text
  | none => .keep i i.current.text

/-- A token from outside becomes the current one. -/
def install (i : Issuer) (token : Token) : Step Issuer Unit :=
  { state := { i with current := token, stuckReported := false }
    value := ()
    log := [.installed i.resourceUri token.expiry] }

/-- New tokens are good for another length of time. -/
def setValidity (i : Issuer) (validity : Duration) : Issuer :=
  { i with validity }

/-- Says whether the issuer is stuck. The first time it is, that is logged. -/
def needsRenewal (i : Issuer) (now : Instant) : Step Issuer Bool :=
  if i.isStuck now then
    { state := { i with stuckReported := true }
      value := true
      log := if i.stuckReported then [] else [.stuck i.resourceUri] }
  else .keep i false

/-! ### Description -/

/-- An issuer in words, without its key and its token. -/
def describe (i : Issuer) : String :=
  Text.record "SasTokenIssuer"
    [("resource_uri", Text.quoted i.resourceUri),
     ("can_renew", Text.truth i.deviceKey.isSome),
     ("validity", i.validity.describe),
     ("renewal_skew", i.renewalSkew.describe)]

/-! ### Requests -/

/-- An operation that a caller may ask an issuer for. -/
inductive Request where
  /-- The text of the current token, renewed if need be. -/
  | token
  /-- The current token as it is. -/
  | current
  /-- A new token beside the current one. -/
  | issue
  /-- Another current token. -/
  | install (token : Token)
  /-- Another validity. -/
  | setValidity (validity : Duration)
  /-- Whether the issuer is stuck. -/
  | needsRenewal
  deriving DecidableEq, Repr

/-- What a caller gets. -/
inductive Answer where
  /-- The text of a token. -/
  | text (text : String)
  /-- A token, if there is one. -/
  | token (token : Option Token)
  /-- A yes or no. -/
  | flag (value : Bool)
  /-- Nothing but the effect. -/
  | done
  deriving DecidableEq, Repr

/-- Serves one request. -/
def serve (i : Issuer) (now : Instant) : Request → Step Issuer Answer
  | .token => (i.token now).map .text
  | .current => .keep i (.token (some i.current))
  | .issue => .keep i (.token (i.issue now))
  | .install token => (i.install token).map fun _ => .done
  | .setValidity validity => .keep (i.setValidity validity) .done
  | .needsRenewal => (i.needsRenewal now).map .flag

end Issuer

end HubAuth
