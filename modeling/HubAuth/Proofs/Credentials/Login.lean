import HubAuth.Proofs.Credentials.History
import HubAuth.Proofs.Endpoint.Parts

/-! # What endpoints log in with

  Credentials with a token are built from the parts of an endpoint: first it is
  seen whether it has a certificate, then whether it has a key, and then whether
  it has a token. An endpoint that had nothing of all this would need a failure
  of its own, which cannot come up.

  * `exists_issuerOf?`: parts with one login never come to the end of the cases.
  * `one_credential`: every endpoint a caller can have has one login, and
    credentials with a token are built exactly if that is a key or a token that
    can be read.
-/

namespace HubAuth.Credentials

variable {e : Endpoint}

/-! ### The cases of the parts -/

/-- The issuer for an endpoint with the given parts. There is nothing to issue
    with where the last case is `none`. -/
def issuerOf? (now : Instant) (p : Endpoint.Parts) (cfg : Config) : Option (Outcome Issuer) :=
  if p.certificate then some (.fail (.argument .certificateEndpoint))
  else
    match p.key, p.token with
    | some key, _ => some do
      let key ← DeviceKey.ofBase64 key
      return .ofKey now (deviceResource p.hostName p.deviceId) key cfg.tokenValidity
        cfg.renewalSkew
    | none, some text => some do
      let token ← .ofExcept ((Token.parse text).mapError .credential)
      return .ofToken token cfg.tokenValidity
    | none, none => none

/-- Only parts without any login come to the end of the cases. -/
theorem issuerOf?_eq_none_iff {now : Instant} {p : Endpoint.Parts} {cfg : Config} :
    issuerOf? now p cfg = none ↔ p.certificate = false ∧ p.key = none ∧ p.token = none := by
  unfold issuerOf?
  by_cases hcertificate : p.certificate = true
  · simp [hcertificate]
  · rw [if_neg hcertificate]
    split
    · next hkey => simp [hkey]
    · next hkey htoken => simp [htoken]
    · next hkey htoken => simpa [hkey, htoken] using hcertificate

/-- Parts with one login do not. -/
theorem exists_issuerOf? {p : Endpoint.Parts} (h : p.OneForm) (now : Instant) (cfg : Config) :
    ∃ o, issuerOf? now p cfg = some o := by
  rw [← Option.ne_none_iff_exists']
  intro hnone
  obtain ⟨hcertificate, hkey, htoken⟩ := issuerOf?_eq_none_iff.mp hnone
  have hform := h.form
  rw [hcertificate, hkey, htoken] at hform
  exact absurd hform (by decide)

/-- The case that an endpoint comes to is the one of its login. -/
theorem issuerFor_of_parts {now : Instant} {cfg : Config} {o : Outcome Issuer}
    (h : issuerOf? now e.parts cfg = some o) : issuerFor now e cfg = o := by
  obtain ⟨host, device, login, host_ne, device_ne⟩ := e
  cases login with
  | sharedKey key => exact Option.some.inj h
  | sharedToken token => exact Option.some.inj h
  | certificate => exact Option.some.inj h

/-! ### What is at fault -/

/-- The key or the token of the endpoint cannot be read. -/
inductive Rejected (e : Endpoint) : Failure → Prop
  | key {s : String} {f : Failure} (given : e.sharedKey? = some s)
      (refused : (DeviceKey.ofBase64 s).result = .error f) : Rejected e f
  | token {s : String} {cause : CredentialFault} (given : e.sharedToken? = some s)
      (refused : Token.parse s = .error cause) : Rejected e (.credential cause)

/-- What comes of building credentials with a token for the endpoint. -/
structure TokenLogin (now : Instant) (e : Endpoint) (cfg : Config) : Prop where
  /-- One of the cases of the parts gives the issuer. -/
  reached : issuerOf? now e.parts cfg = some (issuerFor now e cfg)
  /-- An argument is at fault exactly if the endpoint has a certificate. -/
  argument : (∃ cause, (withToken now e cfg).result = .error (.argument cause)) ↔
    e.usesCertificate = true
  /-- Then that is what is at fault. -/
  certificate : e.usesCertificate = true →
    (withToken now e cfg).result = .error (.argument .certificateEndpoint)
  /-- A credential is at fault exactly if the key or the token cannot be read. -/
  credential : (∃ cause, (withToken now e cfg).result = .error (.credential cause)) ↔
    ∃ f, Rejected e f
  /-- Then it is known why. -/
  reported : ∀ f, Rejected e f → (withToken now e cfg).result = .error f
  /-- In all other cases there are credentials. -/
  built : (∃ c, (withToken now e cfg).result = .ok c) ↔
    e.usesCertificate = false ∧ ¬∃ f, Rejected e f

/-- Only credentials are rejected. -/
theorem Rejected.credential {f : Failure} (h : Rejected e f) : ∃ cause, f = .credential cause := by
  cases h with
  | @key s f given refused =>
    have hnot : ∀ key, (DeviceKey.ofBase64 s).result ≠ .ok key := by
      intro key hok
      rw [refused] at hok
      cases hok
    obtain ⟨cause, hcause⟩ := DeviceKey.refused_of_not_ok hnot
    rw [hcause] at refused
    exact ⟨cause, (Except.error.inj refused).symm⟩
  | @token s cause given refused => exact ⟨cause, rfl⟩

/-- Building fails because of a certificate or because something is rejected. -/
theorem withToken_error_iff {now : Instant} {cfg : Config} {f : Failure} :
    (withToken now e cfg).result = .error f ↔
      (e.usesCertificate = true ∧ f = .argument .certificateEndpoint) ∨ Rejected e f := by
  rw [withToken_error, issuerFor_error, Endpoint.usesCertificate_iff]
  apply or_congr_right
  constructor
  · intro h
    rcases h with ⟨s, hlogin, refused⟩ | ⟨s, cause, hlogin, refused, rfl⟩
    · exact .key (Endpoint.sharedKey?_eq_some_iff.mpr hlogin) refused
    · exact .token (Endpoint.sharedToken?_eq_some_iff.mpr hlogin) refused
  · intro h
    rcases h with ⟨given, refused⟩ | ⟨given, refused⟩
    · exact .inl ⟨_, Endpoint.sharedKey?_eq_some_iff.mp given, refused⟩
    · exact .inr ⟨_, _, Endpoint.sharedToken?_eq_some_iff.mp given, refused, rfl⟩

/-- So it fails in two ways only, which differ in what is at fault. -/
theorem tokenLogin_of_oneForm (h : e.parts.OneForm) (now : Instant) (cfg : Config) :
    TokenLogin now e cfg := by
  have hcertificate : e.usesCertificate = true →
      (withToken now e cfg).result = .error (.argument .certificateEndpoint) := by
    intro huses
    exact withToken_error_iff.mpr (.inl ⟨huses, rfl⟩)
  have hrejected : ∀ f, Rejected e f → (withToken now e cfg).result = .error f := by
    intro f hf
    exact withToken_error_iff.mpr (.inr hf)
  constructor
  case reached =>
    obtain ⟨o, ho⟩ := exists_issuerOf? h now cfg
    rw [ho, issuerFor_of_parts ho]
  case argument =>
    constructor
    · intro h
      obtain ⟨cause, herror⟩ := h
      rcases withToken_error_iff.mp herror with ⟨huses, -⟩ | hf
      · exact huses
      · obtain ⟨_, hcause⟩ := hf.credential
        cases hcause
    · intro huses
      exact ⟨_, hcertificate huses⟩
  case certificate => exact hcertificate
  case credential =>
    constructor
    · intro h
      obtain ⟨cause, herror⟩ := h
      rcases withToken_error_iff.mp herror with ⟨-, hcause⟩ | hf
      · cases hcause
      · exact ⟨_, hf⟩
    · intro h
      obtain ⟨f, hf⟩ := h
      obtain ⟨cause, rfl⟩ := hf.credential
      exact ⟨cause, hrejected _ hf⟩
  case reported => exact hrejected
  case built =>
    constructor
    · intro h
      obtain ⟨c, hc⟩ := h
      constructor
      · by_contra huses
        rw [hcertificate (by simpa using huses)] at hc
        cases hc
      · intro h
        obtain ⟨f, hf⟩ := h
        rw [hrejected f hf] at hc
        cases hc
    · intro h
      obtain ⟨hplain, haccepted⟩ := h
      cases hbuilt : (withToken now e cfg).result with
      | ok c => exact ⟨c, rfl⟩
      | error f =>
        rcases withToken_error_iff.mp hbuilt with ⟨huses, -⟩ | hf
        · rw [hplain] at huses
          cases huses
        · exact absurd ⟨f, hf⟩ haccepted

/-- **One login**: an endpoint, be it made for a key, a token or a certificate or
    read from a connection string, names one device at one hub and has one of
    the three. Credentials with a token are refused for an argument if that is a
    certificate, for a credential if it is a key or a token that cannot be read,
    and otherwise they are built. -/
theorem one_credential (h : e.Obtainable) :
    e.parts.OneForm ∧ ∀ now cfg, TokenLogin now e cfg := by
  obtain ⟨host, device, key, token, certificate, hmade⟩ := Endpoint.exists_make h
  have hform := Endpoint.Parts.oneForm_of_make hmade
  exact ⟨hform, tokenLogin_of_oneForm hform⟩

/-- A connection string with two hubs, a key and a token, and two words on
    certificates, of which the last one counts. -/
theorem one_credential_overridden :
    ∃ e : Endpoint, (ConnectionString.parse
        "HostName=a.b;x509=no;SharedAccessKey=!;HostName=h.c;SharedAccessSignature=s;DeviceId=d;x509=TRUE"
      ).result = .ok e ∧ e.parts = ⟨"h.c", "d", "h", none, none, true⟩ ∧ e.parts.OneForm ∧
      ∀ now cfg, (withToken now e cfg).result = .error (.argument .certificateEndpoint) := by
  let e : Endpoint := ⟨"h.c", "d", .certificate, by decide, by decide⟩
  have hread : (ConnectionString.parse
      "HostName=a.b;x509=no;SharedAccessKey=!;HostName=h.c;SharedAccessSignature=s;DeviceId=d;x509=TRUE"
    ).result = .ok e := by rfl
  obtain ⟨hform, hlogin⟩ := one_credential (.parsed hread)
  exact ⟨e, hread, by decide, hform, fun now cfg => (hlogin now cfg).certificate rfl⟩

end HubAuth.Credentials
