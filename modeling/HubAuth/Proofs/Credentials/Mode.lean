import HubAuth.Proofs.Credentials.History

/-! # One way of login

  Credentials consist of an endpoint, a configuration, an issuer or material,
  and a context, and different requests change different ones of these. They
  fit together all the same: the way of login is that of the endpoint, an
  issuer has the endpoint's key and the validity that the configuration says,
  and a context has an identity only with a certificate.

  * `consistent_built`: credentials fit together when they are built.
  * `consistent_kept`: the ways of changing them keep that.
  * `one_mode`: so all questions about the way of login have one answer.
-/

namespace HubAuth.Credentials

/-! ### The invariant -/

/-- What a mode must be for an endpoint, if `secs` is the validity of tokens in
    the configuration and `cfg` is the configuration from the beginning. -/
inductive Fits (e : Endpoint) (cfg : Config) (secs : Nat) : Mode → Prop
  /-- The issuer has the key of the endpoint and the validity of the
      configuration, and the device is not known by a certificate. -/
  | token {i : Issuer} {tls : TlsContext} (sound : i.Sound) (login : e.usesCertificate = false)
      (key : (i.deviceKey.map fun key => key.encoded) = e.sharedKey?)
      (validity : i.validity.secs = secs) (unknown : tls.identity = none) :
      Fits e cfg secs (.token i tls)
  /-- The context presents the material, and the validity was never changed. -/
  | certificate {m : Material} {tls : TlsContext} (login : e.usesCertificate = true)
      (presented : TlsContext.ofMaterial m = .ok tls) (validity : secs = cfg.tokenValiditySecs) :
      Fits e cfg secs (.certificate m tls)

/-- The parts of credentials fit together. -/
structure Consistent (e : Endpoint) (cfg : Config) (c : Credentials) : Prop where
  /-- The endpoint is the one from the beginning. -/
  endpoint : c.endpoint = e
  /-- Only the validity and the transport may differ from the beginning. -/
  config : c.config = { cfg with
    tokenValiditySecs := c.config.tokenValiditySecs
    useWebsocket := c.config.useWebsocket }
  /-- The mode is one for the endpoint and the configuration. -/
  mode : Fits e cfg c.config.tokenValiditySecs c.mode

variable {e : Endpoint} {cfg : Config} {c : Credentials}

theorem fits_issuerFor {now : Instant} {i : Issuer} {tls : TlsContext}
    (hi : (issuerFor now e cfg).result = .ok i) (htls : tls.identity = none) :
    Fits e cfg cfg.tokenValiditySecs (.token i tls) := by
  rcases issuerFor_ok.mp hi with ⟨s, key, hlogin, hkey, rfl⟩ | ⟨s, t, hlogin, ht, rfl⟩
  · have hencoded : key.encoded = s := DeviceKey.encoded_of_ofBase64 hkey
    refine .token (Issuer.sound_built (.ofKey _ _ _ _ _)) ?_ ?_ rfl htls
    · simp [Endpoint.usesCertificate, hlogin]
    · simp [Issuer.ofKey, Endpoint.sharedKey?, hlogin, hencoded]
  · refine .token (Issuer.sound_built (.ofToken (.parse ht) _)) ?_ ?_ rfl htls
    · simp [Endpoint.usesCertificate, hlogin]
    · simp [Issuer.ofToken, Endpoint.sharedKey?, hlogin]

/-- Credentials fit together when they are built. -/
theorem consistent_built (built : Built e cfg c) : Consistent e cfg c := by
  rcases built_cases built with ⟨now, h⟩ | ⟨files, p, k, h⟩
  · obtain ⟨i, tls, hi, htls, rfl⟩ := withToken_ok.mp h
    exact ⟨rfl, rfl, fits_issuerFor hi (TlsContext.identity_serverAuthOnly htls)⟩
  · obtain ⟨hlogin, m, tls, hpresent, rfl⟩ := withCertificate_ok.mp h
    obtain ⟨-, htls⟩ := present_ok.mp hpresent
    exact ⟨rfl, rfl, .certificate hlogin htls rfl⟩

/-- Each way of changing credentials changes all parts that must fit. -/
theorem consistent_kept : Kept (Consistent e cfg) where
  issuer := by
    intro c i tls hmode h now r hr hvalidity
    have hfits := h.mode
    rw [hmode] at hfits
    cases hfits with
    | token sound login key validity unknown =>
      have hsound := Issuer.sound_serve sound now hr
      obtain ⟨-, hkey, -⟩ := Issuer.serve_frame i now r
      refine ⟨h.endpoint, h.config, .token hsound login ?_ ?_ unknown⟩
      · rw [hkey]
        exact key
      · rw [hvalidity]
        exact validity
  validity := by
    intro c i tls hmode h v
    have hfits := h.mode
    rw [hmode] at hfits
    cases hfits with
    | token sound login key validity unknown =>
      refine ⟨h.endpoint, ?_, .token ⟨sound.current, sound.skew⟩ login key rfl unknown⟩
      -- The configuration takes over the whole seconds of the new validity.
      show c.config.withTokenValidity v = _
      rw [h.config]
      rfl
  websocket := by
    intro c h useWebsocket
    refine ⟨h.endpoint, ?_, h.mode⟩
    show c.config.withWebsocket useWebsocket = _
    rw [h.config]
    rfl
  certificate := by
    intro c m tls hmode h files p k m' tls' hpresent
    have hfits := h.mode
    rw [hmode] at hfits
    cases hfits with
    | certificate login presented validity =>
      obtain ⟨-, htls⟩ := present_ok.mp hpresent
      exact ⟨h.endpoint, h.config, .certificate login htls validity⟩

/-- Credentials fit together at all times. -/
theorem consistent_after (built : Built e cfg c) (history : List (World × Request)) :
    Consistent e cfg (c.after history) :=
  consistent_kept.after (consistent_built built) history

/-! ### What can be asked -/

/-- The way of login, from all sides from which a caller can see it. -/
structure OneMode (e : Endpoint) (cfg : Config) (c : Credentials) : Prop where
  /-- The endpoint is the one from the beginning. -/
  endpoint : c.endpoint = e
  /-- The way of login is that of the endpoint. -/
  login : c.authType = .certificate ↔ e.usesCertificate = true
  /-- There is a certificate exactly if the device logs in with one. -/
  certificate : c.authType = .certificate ↔ c.certificate?.isSome = true
  /-- There is no token then, whatever the time. -/
  token : ∀ now, c.authType = .certificate ↔ (c.token now).value = none
  /-- There is no validity of tokens then. -/
  validity : c.authType = .certificate ↔ c.tokenValidity? = none
  /-- Both sides prove their identity then. -/
  tls : c.authType = .certificate ↔ c.tls.mode = .bothSides
  /-- The key that signs tokens is the endpoint's. -/
  key : c.sharedKey? = c.endpoint.sharedKey?
  /-- With a token the validity is that of the configuration, in whole seconds. -/
  tokenMode : c.authType = .token →
    ∃ v, c.tokenValidity? = some v ∧ v.secs = c.config.tokenValiditySecs
  /-- With a certificate the validity in the configuration is as it was, and
      nothing needs to be renewed. -/
  certificateMode : c.authType = .certificate →
    c.config.tokenValiditySecs = cfg.tokenValiditySecs ∧ ∀ now, (c.needsRenewal now).value = false
  /-- The rest of the configuration is as it was, but for the transport. -/
  config : c.config.renewalSkewSecs = cfg.renewalSkewSecs ∧
    c.config.readTimeoutMillis = cfg.readTimeoutMillis ∧
    c.config.messageLockSecs = cfg.messageLockSecs
  /-- The endpoint shows the token it was given, whatever token replaced it. -/
  given : c.endpoint.sharedToken? = e.sharedToken?

/-- The parts of the answer that do not depend on the way of login. -/
theorem config_of_consistent (h : Consistent e cfg c) :
    c.config.renewalSkewSecs = cfg.renewalSkewSecs ∧
      c.config.readTimeoutMillis = cfg.readTimeoutMillis ∧
      c.config.messageLockSecs = cfg.messageLockSecs := by
  rw [h.config]
  exact ⟨rfl, rfl, rfl⟩

theorem oneMode_token {i : Issuer} {tls : TlsContext} (h : Consistent e cfg c)
    (hmode : c.mode = .token i tls) : OneMode e cfg c := by
  have hfits := h.mode
  rw [hmode] at hfits
  cases hfits with
  | token sound login key validity unknown =>
    have htype : c.authType = .token := by simp only [authType, hmode]
    have hissuer : c.issuer? = some i := by simp only [issuer?, hmode]
    have htls : c.tls.mode = .serverAuthOnly := by
      simp [Credentials.tls, hmode, TlsContext.mode, unknown]
    refine ⟨h.endpoint, ?_, ?_, ?_, ?_, ?_, ?_, ?_, ?_, config_of_consistent h, ?_⟩
    · simp [htype, login]
    · simp [htype, certificate?, hmode]
    · intro now
      rw [token_of_issuer hmode]
      simp [htype]
    · simp [htype, tokenValidity?, hissuer]
    · simp [htype, htls]
    · rw [h.endpoint, ← key, sharedKey?, hissuer]
      rfl
    · intro _
      refine ⟨i.validity, ?_, validity⟩
      rw [tokenValidity?, hissuer]
      rfl
    · intro hcertificate
      rw [htype] at hcertificate
      cases hcertificate
    · rw [h.endpoint]

theorem sharedKey?_of_usesCertificate {e : Endpoint} (h : e.usesCertificate = true) :
    e.sharedKey? = none := by
  unfold Endpoint.usesCertificate at h
  unfold Endpoint.sharedKey?
  split at h
  · next hlogin => rw [hlogin]
  · cases h

theorem oneMode_certificate {m : Material} {tls : TlsContext} (h : Consistent e cfg c)
    (hmode : c.mode = .certificate m tls) : OneMode e cfg c := by
  have hfits := h.mode
  rw [hmode] at hfits
  cases hfits with
  | certificate login presented validity =>
    have htype : c.authType = .certificate := by simp only [authType, hmode]
    have hissuer : c.issuer? = none := by simp only [issuer?, hmode]
    have htls : c.tls.mode = .bothSides := by
      simp only [Credentials.tls, hmode]
      exact TlsContext.mode_ofMaterial presented
    refine ⟨h.endpoint, ?_, ?_, ?_, ?_, ?_, ?_, ?_, ?_, config_of_consistent h, ?_⟩
    · simp [htype, login]
    · simp [htype, certificate?, hmode]
    · intro now
      rw [token_of_certificate hmode]
      simp [htype, Step.keep]
    · simp [htype, tokenValidity?, hissuer]
    · simp [htype, htls]
    · rw [h.endpoint, sharedKey?_of_usesCertificate login, sharedKey?, hissuer]
      rfl
    · intro htoken
      rw [htype] at htoken
      cases htoken
    · intro _
      refine ⟨validity, ?_⟩
      intro now
      rw [needsRenewal_of_certificate hmode]
      rfl
    · rw [h.endpoint]

/-- The way of login is that of the endpoint. -/
theorem authType_iff (h : Consistent e cfg c) :
    c.authType = .certificate ↔ e.usesCertificate = true := by
  cases hmode : c.mode with
  | token i tls => exact (oneMode_token h hmode).login
  | certificate m tls => exact (oneMode_certificate h hmode).login

/-- **One way of login**: however credentials were built and whatever was asked
    of them since, met or refused, with whatever clock and files, everything
    that can be asked about their way of login agrees with the endpoint. -/
theorem one_mode (built : Built e cfg c) (history : List (World × Request)) :
    OneMode e cfg (c.after history) := by
  have h : Consistent e cfg (c.after history) := consistent_after built history
  cases hmode : (c.after history).mode with
  | token i tls => exact oneMode_token h hmode
  | certificate m tls => exact oneMode_certificate h hmode

/-- Credentials with a token from elsewhere. The validity gets a part of a
    second, a certificate and a text that is no token are refused, and so is
    connecting after the token has expired; then another token takes its place. -/
theorem one_mode_foreign :
    let e : Endpoint := ⟨"h", "d", .sharedToken Token.foreign.text, by decide, by decide⟩
    let w : World := { now := ⟨10, by decide, by decide⟩ }
    let history : List (World × Request) :=
      [(w, .setTokenValidity ⟨90, 500000000⟩), (w, .replaceCertificate (.literal "c") (.literal "k")),
        (w, .replaceToken "t"), (w, .connect), (w, .setUseWebsocket true),
        (w, .replaceToken "SharedAccessSignature sr=h&sig=x&se=11"), (w, .connect)]
    ∃ c, Built e {} c ∧ OneMode e {} (c.after history) := by
  intro e w history
  have hi : (issuerFor w.now e {}).result = .ok (.ofToken .foreign (.ofSecs 3600)) :=
    issuerFor_ok.mpr (.inr ⟨_, _, rfl, Token.parse_foreign, rfl⟩)
  obtain ⟨tls, hbuilt⟩ := exists_built hi
  exact ⟨_, hbuilt, one_mode hbuilt history⟩

end HubAuth.Credentials
