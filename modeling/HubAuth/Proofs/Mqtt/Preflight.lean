import HubAuth.Proofs.Credentials.Mode

/-! # The check before connecting

  Connecting looks at the token twice: first whether it is dead, then for its
  text, which may renew it. Both looks agree on when a token has expired, and a
  renewed token is good at the time of its renewal. So no dead token is sent,
  and no credentials are refused that could log in.

  * `connect_refused`, `connect_token`, `connect_certificate`: what connecting
    does, in three cases.
  * `preflight_checked`: after every history, which of them it is, and what is
    sent.
-/

namespace HubAuth.Mqtt.Options

open Credentials (Built Consistent)

variable {c : Credentials} {i : Issuer} {m : Material} {tls : TlsContext} {now : Instant}

/-! ### What connecting does -/

/-- A dead token is refused, and it has been reported that it is dead. -/
theorem connect_refused (hmode : c.mode = .token i tls) (hdead : i.isStuck now = true) :
    (ofCredentials c now).value = .error .expired ∧
      (ofCredentials c now).state =
        { c with mode := .token { i with stuckReported := true } tls } := by
  rw [Credentials.connect_of_stuck hmode hdead]
  exact ⟨rfl, rfl⟩

/-- Any other token is sent, renewed if need be. -/
theorem connect_token (hmode : c.mode = .token i tls) (halive : i.isStuck now = false) :
    (ofCredentials c now).value = .ok (make c (some (i.token now).value)) ∧
      (ofCredentials c now).state = { c with mode := .token (i.token now).state tls } := by
  rw [Credentials.connect_of_issuer hmode halive]
  exact ⟨rfl, rfl⟩

/-- With a certificate there is nothing to check and no token to send. -/
theorem connect_certificate (hmode : c.mode = .certificate m tls) (now : Instant) :
    (ofCredentials c now).value = .ok (make c none) ∧ (ofCredentials c now).state = c := by
  rw [Credentials.connect_of_certificate hmode]
  exact ⟨rfl, rfl⟩

/-! ### What is sent -/

/-- What connecting does for credentials of an endpoint at a time. -/
structure Preflight (e : Endpoint) (c : Credentials) (now : Instant) : Prop where
  /-- Exactly a dead token without a key is refused. -/
  refused_iff : (∃ f, (ofCredentials c now).value = .error f) ↔
    ∃ i tls, c.mode = .token i tls ∧ i.deviceKey = none ∧ i.current.expiry ≤ now
  /-- The refusal says that the credentials have expired, and leaves all but
      the note that this was reported. -/
  refused : ∀ f, (ofCredentials c now).value = .error f → f = .expired ∧
    ∃ i tls, c.mode = .token i tls ∧
      (ofCredentials c now).state = { c with mode := .token { i with stuckReported := true } tls }
  /-- The client is the device, the user name is made of host and device, and
      the transport decides on the port. -/
  names : ∀ o, (ofCredentials c now).value = .ok o →
    o.hostName = e.hostName ∧ o.clientId = e.deviceId ∧
      o.userName = e.hostName ++ "/" ++ e.deviceId ++ "/?api-version=2018-06-30" ∧
      o.port = if c.config.useWebsocket then 443 else 8883
  /-- The password is the text of a token that is good, and the one that is
      current from then on. -/
  password : ∀ o i tls, (ofCredentials c now).value = .ok o → c.mode = .token i tls →
    ∃ text t, o.password = some text ∧ Token.parse text = .ok t ∧ now < t.expiry ∧
      ((ofCredentials c now).state.token now).value = some text
  /-- With a certificate there is no password, and the certificate is presented. -/
  certificate : ∀ o m tls, (ofCredentials c now).value = .ok o → c.mode = .certificate m tls →
    o.password = none ∧ o.tls.hasClientIdentity = true

variable {e : Endpoint} {cfg : Config}

/-- What is sent is not refused. -/
theorem not_refused {o : Options} (h : (ofCredentials c now).value = .ok o) :
    ∀ f, (ofCredentials c now).value ≠ .error f := by
  intro f hf
  rw [h] at hf
  cases hf

theorem names_make (hendpoint : c.endpoint = e) (password : Option String) :
    (make c password).hostName = e.hostName ∧ (make c password).clientId = e.deviceId ∧
      (make c password).userName
        = e.hostName ++ "/" ++ e.deviceId ++ "/?api-version=2018-06-30" ∧
      (make c password).port = if c.config.useWebsocket then 443 else 8883 := by
  subst hendpoint
  exact ⟨rfl, rfl, rfl, rfl⟩

/-- The password is a good token, and asking for the token gives it again. -/
theorem password_sent (sound : i.Sound) (hnow : now < .last) (halive : i.isStuck now = false) :
    ∃ t, Token.parse (i.token now).value = .ok t ∧ now < t.expiry ∧
      ((i.token now).state.token now).value = (i.token now).value := by
  refine ⟨(i.token now).state.current, ?_, Issuer.token_live sound hnow halive, ?_⟩
  · rw [Issuer.token_value]
    exact Token.parse_text (Issuer.sound_token sound now).current
  · rw [Issuer.token_again sound hnow]
    rfl

/-- A dead token is refused. -/
theorem preflight_refused (hmode : c.mode = .token i tls) (hdead : i.isStuck now = true) :
    Preflight e c now := by
  obtain ⟨hvalue, hstate⟩ := connect_refused hmode hdead
  obtain ⟨hkey, hexpired⟩ := Issuer.isStuck_iff.mp hdead
  have hnone : ∀ o, (ofCredentials c now).value ≠ .ok o := by
    intro o ho
    exact not_refused ho _ hvalue
  constructor
  · constructor
    · intro _
      exact ⟨i, tls, hmode, hkey, hexpired⟩
    · intro _
      exact ⟨.expired, hvalue⟩
  · intro f hf
    rw [hvalue] at hf
    exact ⟨(Except.error.inj hf).symm, i, tls, hmode, hstate⟩
  · intro o ho
    exact absurd ho (hnone o)
  · intro o _ _ ho
    exact absurd ho (hnone o)
  · intro o _ _ ho
    exact absurd ho (hnone o)

/-- Any other token is renewed if need be, and then it is good. -/
theorem preflight_token (hendpoint : c.endpoint = e) (hmode : c.mode = .token i tls)
    (sound : i.Sound) (halive : i.isStuck now = false) (hnow : now < .last) :
    Preflight e c now := by
  obtain ⟨hvalue, hstate⟩ := connect_token hmode halive
  constructor
  · constructor
    · rintro ⟨f, hf⟩
      exact absurd hf (not_refused hvalue f)
    · -- A dead token is what the first look would have found.
      rintro ⟨i', tls', hmode', hdead⟩
      rw [hmode] at hmode'
      obtain ⟨rfl, rfl⟩ := Mode.token.inj hmode'
      rw [Issuer.isStuck_iff.mpr hdead] at halive
      cases halive
  · intro f hf
    exact absurd hf (not_refused hvalue f)
  · intro o ho
    rw [hvalue] at ho
    obtain rfl := Except.ok.inj ho
    exact names_make hendpoint _
  · intro o i' tls' ho _
    rw [hvalue] at ho
    obtain rfl := Except.ok.inj ho
    obtain ⟨t, hparse, hlive, hagain⟩ := password_sent sound hnow halive
    refine ⟨(i.token now).value, t, rfl, hparse, hlive, ?_⟩
    rw [hstate, Credentials.token_of_issuer rfl]
    show some ((i.token now).state.token now).value = _
    rw [hagain]
  · intro o m tls' _ hmode'
    rw [hmode] at hmode'
    cases hmode'

/-- A certificate is always presented. -/
theorem preflight_certificate (hendpoint : c.endpoint = e) (hmode : c.mode = .certificate m tls)
    (hpresented : tls.mode = .bothSides) : Preflight e c now := by
  obtain ⟨hvalue, hstate⟩ := connect_certificate hmode now
  constructor
  · constructor
    · rintro ⟨f, hf⟩
      exact absurd hf (not_refused hvalue f)
    · rintro ⟨i, tls', hmode', -⟩
      rw [hmode] at hmode'
      cases hmode'
  · intro f hf
    exact absurd hf (not_refused hvalue f)
  · intro o ho
    rw [hvalue] at ho
    obtain rfl := Except.ok.inj ho
    exact names_make hendpoint _
  · intro o i tls' _ hmode'
    rw [hmode] at hmode'
    cases hmode'
  · intro o m' tls' ho _
    rw [hvalue] at ho
    obtain rfl := Except.ok.inj ho
    refine ⟨rfl, ?_⟩
    show TlsContext.hasClientIdentity c.tls = true
    simp [Credentials.tls, hmode, TlsContext.hasClientIdentity, hpresented]

/-- **The check before connecting**: however credentials were built and
    whatever was asked of them since, connecting is refused exactly if they
    have a dead token, and otherwise sends what the hub accepts at that time. -/
theorem preflight_checked (built : Built e cfg c) (history : List (World × Credentials.Request))
    (hnow : now < .last) : Preflight e (c.after history) now := by
  have h : Consistent e cfg (c.after history) := Credentials.consistent_after built history
  have hfits := h.mode
  cases hmode : (c.after history).mode with
  | token i tls =>
    rw [hmode] at hfits
    cases hfits with
    | token sound =>
      cases hstuck : i.isStuck now with
      | true => exact preflight_refused hmode hstuck
      | false => exact preflight_token h.endpoint hmode sound hstuck hnow
  | certificate m tls =>
    rw [hmode] at hfits
    cases hfits with
    | certificate login presented =>
      exact preflight_certificate h.endpoint hmode (TlsContext.mode_ofMaterial presented)

/-- A token from elsewhere is sent before its expiry. At its expiry connecting
    is refused. -/
theorem preflight_checked_foreign :
    let e : Endpoint := ⟨"h", "d", .sharedToken Token.foreign.text, by decide, by decide⟩
    let history : List (World × Credentials.Request) :=
      [({ now := ⟨4, by decide, by decide⟩ }, .connect),
        ({ now := ⟨9, by decide, by decide⟩ }, .setUseWebsocket true)]
    let now : Instant := ⟨5, by decide, by decide⟩
    ∃ c, Built e {} c ∧ now < .last ∧ Preflight e (c.after history) now ∧
      ∃ f, (ofCredentials (c.after history) now).value = .error f := by
  intro e history now
  have hi : (Credentials.issuerFor now e {}).result = .ok (.ofToken .foreign (.ofSecs 3600)) :=
    Credentials.issuerFor_ok.mpr (.inr ⟨_, _, rfl, Token.parse_foreign, rfl⟩)
  obtain ⟨tls, hbuilt⟩ := Credentials.exists_built hi
  have hnow : now < .last := by decide
  have hchecked := preflight_checked hbuilt history hnow
  refine ⟨_, hbuilt, hnow, hchecked, ?_⟩
  apply hchecked.refused_iff.mpr
  exact ⟨.ofToken .foreign (.ofSecs 3600), tls, rfl, rfl, by decide⟩

end HubAuth.Mqtt.Options
