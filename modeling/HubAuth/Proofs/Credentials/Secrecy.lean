import HubAuth.Proofs.Credentials.History
import HubAuth.Proofs.Token.Secrecy
import Mathlib.Data.List.Forall2

/-! # Secrets do not show

  Two devices with the same name at the same hub have keys, or tokens from
  elsewhere, that differ in nothing but their bytes and signatures. Both are
  asked for the same. Then both log the same, describe themselves by the same
  words, fail at the same requests for the same reasons and renew at the same
  times until the same expiry; only the texts of tokens, and the key itself,
  tell them apart.

  * `alike_serve`: one request, served by both.
  * `alike_serveAll`: a whole history.
  * `secrets_do_not_show`: from the endpoints on, what can be seen outside.
-/

namespace HubAuth

/-! ### Endpoints -/

/-- Two ways of login that differ in a secret only. -/
inductive Login.Alike : Login → Login → Prop
  /-- Both keys are accepted, and both are canonical or neither is. -/
  | sharedKey {s t : String} {k l : DeviceKey} (hs : (DeviceKey.ofBase64 s).result = .ok k)
      (ht : (DeviceKey.ofBase64 t).result = .ok l)
      (canonical : (Base64.decodeStrict? s.toList).isSome = (Base64.decodeStrict? t.toList).isSome) :
      Alike (.sharedKey s) (.sharedKey t)
  /-- Both tokens are for the same resource and expire at the same time. -/
  | sharedToken {s t : String} (h : Token.SameClaims s t) : Alike (.sharedToken s) (.sharedToken t)

/-- Two endpoints of the same device that differ in a secret only. -/
structure Endpoint.Alike (e f : Endpoint) : Prop where
  /-- The hub is the same. -/
  hostName : e.hostName = f.hostName
  /-- The device is the same. -/
  deviceId : e.deviceId = f.deviceId
  /-- The ways of login differ in a secret only. -/
  login : Login.Alike e.login f.login

theorem Endpoint.Alike.describe {e f : Endpoint} (h : Endpoint.Alike e f) :
    e.describe = f.describe := by
  obtain ⟨host, device, login, _, _⟩ := e
  obtain ⟨host', device', login', _, _⟩ := f
  obtain ⟨hhost, hdevice, hlogin⟩ := h
  simp only at hhost hdevice hlogin
  subst hhost hdevice
  cases hlogin with
  | sharedKey => rfl
  | sharedToken => rfl

namespace Credentials

/-! ### Credentials -/

/-- Two sets of credentials with a token that differ in secrets only. -/
structure Alike (c d : Credentials) : Prop where
  /-- The endpoints are alike. -/
  endpoint : Endpoint.Alike c.endpoint d.endpoint
  /-- The configuration is the same. -/
  config : c.config = d.config
  /-- The issuers are alike, and the context is the same. -/
  mode : ∃ i j tls, c.mode = .token i tls ∧ d.mode = .token j tls ∧ Issuer.Alike i j

/-- The same request; a text that is to replace the token may differ in its
    signature. -/
inductive Request.Alike : Request → Request → Prop
  | same (r : Request) : Alike r r
  | replaceToken {s t : String} (h : Token.SameClaims s t) :
      Alike (.replaceToken s) (.replaceToken t)

/-- The same answer; the text of a token may differ in its signature, also where
    it is a password. -/
inductive Answer.Alike : Answer → Answer → Prop
  | token {s t : String} (h : Token.SameClaims s t) : Alike (.token (some s)) (.token (some t))
  | flag (value : Bool) : Alike (.flag value) (.flag value)
  | options {o p : Mqtt.Options} {s t : String} (ho : o.password = some s)
      (hp : p.password = some t) (h : Token.SameClaims s t)
      (rest : { o with password := none } = { p with password := none }) :
      Alike (.options o) (.options p)
  | done : Alike .done .done

/-- The same failure, or answers that are alike. -/
inductive AlikeResult : Except Failure Answer → Except Failure Answer → Prop
  | error (f : Failure) : AlikeResult (.error f) (.error f)
  | ok {a b : Answer} (h : Answer.Alike a b) : AlikeResult (.ok a) (.ok b)

variable {c d : Credentials} {i j : Issuer} {tls : TlsContext}

theorem Alike.withMode (h : Alike c d) (hissuer : Issuer.Alike i j) (tls : TlsContext) :
    Alike { c with mode := .token i tls } { d with mode := .token j tls } :=
  ⟨h.endpoint, h.config, i, j, tls, rfl, rfl, hissuer⟩

/-! ### One request -/

theorem alike_token (h : Alike c d) (now : Instant) :
    Step.Alike Alike (fun a b => ∃ s t, a = some s ∧ b = some t ∧ Token.SameClaims s t)
      (c.token now) (d.token now) := by
  obtain ⟨i, j, tls, hc, hd, hissuer⟩ := h.mode
  have htoken := Issuer.alike_token hissuer now
  rw [token_of_issuer hc, token_of_issuer hd]
  exact ⟨h.withMode htoken.state tls, ⟨_, _, rfl, rfl, htoken.value⟩, htoken.log⟩

theorem alike_needsRenewal (h : Alike c d) (now : Instant) :
    Step.Alike Alike (· = ·) (c.needsRenewal now) (d.needsRenewal now) := by
  obtain ⟨i, j, tls, hc, hd, hissuer⟩ := h.mode
  have hneeds := Issuer.alike_needsRenewal hissuer now
  rw [needsRenewal_of_issuer hc, needsRenewal_of_issuer hd]
  exact ⟨h.withMode hneeds.state tls, hneeds.value, hneeds.log⟩

theorem alike_replaceCertificate (h : Alike c d) (files : Files.Tree) (p k : PemSource) :
    Step.Alike Alike (· = ·) (c.replaceCertificate files p k) (d.replaceCertificate files p k) := by
  obtain ⟨i, j, tls, hc, hd, -⟩ := h.mode
  rw [replaceCertificate_of_issuer hc, replaceCertificate_of_issuer hd]
  exact ⟨h, rfl, rfl⟩

theorem alike_replaceToken (h : Alike c d) {s t : String} (htext : Token.SameClaims s t) :
    Step.Alike Alike (· = ·) (c.replaceToken s) (d.replaceToken t) := by
  obtain ⟨i, j, tls, hc, hd, hissuer⟩ := h.mode
  obtain ⟨t', u', ht, hu, htoken⟩ := Token.exists_alike htext
  -- Both texts are tokens, so both are accepted; what is logged is in their claims.
  rw [replaceToken_of_parse hc ht, replaceToken_of_parse hd hu]
  refine ⟨h.withMode (hissuer.install htoken) tls, rfl, ?_⟩
  simp only [hissuer.resourceUri, htoken.expiry, h.endpoint.deviceId]

/-- A text that is no token is refused by both. -/
theorem alike_replaceToken_same (h : Alike c d) (text : String) :
    Step.Alike Alike (· = ·) (c.replaceToken text) (d.replaceToken text) := by
  cases hparse : Token.parse text with
  | ok t => exact alike_replaceToken h ⟨t, t, hparse, hparse, rfl, rfl⟩
  | error e =>
    obtain ⟨i, j, tls, hc, hd, -⟩ := h.mode
    rw [replaceToken_of_error hc hparse, replaceToken_of_error hd hparse]
    exact ⟨h, rfl, rfl⟩

theorem alike_setTokenValidity (h : Alike c d) (v : Duration) :
    Alike (c.setTokenValidity v) (d.setTokenValidity v) := by
  obtain ⟨i, j, tls, hc, hd, hissuer⟩ := h.mode
  rw [setTokenValidity_of_issuer hc, setTokenValidity_of_issuer hd]
  refine ⟨h.endpoint, ?_, _, _, tls, rfl, rfl, hissuer.setValidity v⟩
  show c.config.withTokenValidity v = d.config.withTokenValidity v
  rw [h.config]

theorem alike_setUseWebsocket (h : Alike c d) (useWebsocket : Bool) :
    Alike (c.setUseWebsocket useWebsocket) (d.setUseWebsocket useWebsocket) := by
  refine ⟨h.endpoint, ?_, h.mode⟩
  show c.config.withWebsocket useWebsocket = d.config.withWebsocket useWebsocket
  rw [h.config]

/-- But for the password both connect with the same options. -/
theorem alike_make (h : Alike c d) {s t : String} (htext : Token.SameClaims s t) :
    Answer.Alike (.options (.make c (some s))) (.options (.make d (some t))) := by
  obtain ⟨i, j, tls, hc, hd, -⟩ := h.mode
  have htls : c.tls = d.tls := by simp only [Credentials.tls, hc, hd]
  refine .options rfl rfl htext ?_
  simp only [Mqtt.Options.make, h.endpoint.hostName, h.endpoint.deviceId, h.config, htls]

theorem alike_connect (h : Alike c d) (now : Instant) :
    Step.Alike Alike (fun a b => AlikeResult (a.map .options) (b.map .options))
      (Mqtt.Options.ofCredentials c now) (Mqtt.Options.ofCredentials d now) := by
  obtain ⟨i, j, tls, hc, hd, hissuer⟩ := h.mode
  have hstuck := hissuer.isStuck now
  -- Both tokens are dead, or both are sent.
  cases hi : i.isStuck now with
  | true =>
    have hj : j.isStuck now = true := hstuck.symm.trans hi
    rw [connect_of_stuck hc hi, connect_of_stuck hd hj]
    refine ⟨h.withMode hissuer.reported tls, .error .expired, ?_⟩
    simp only [hissuer.resourceUri, hissuer.stuckReported]
  | false =>
    have hj : j.isStuck now = false := hstuck.symm.trans hi
    have htoken := Issuer.alike_token hissuer now
    rw [connect_of_issuer hc hi, connect_of_issuer hd hj]
    refine ⟨h.withMode htoken.state tls, .ok (alike_make h htoken.value), ?_⟩
    simp only [h.endpoint.hostName, h.endpoint.deviceId, h.config, htoken.log]

/-- A replacement that succeeds answers nothing, so equal results are alike. -/
theorem alikeResult_done {r s : Except Failure Unit} (h : r = s) :
    AlikeResult (r.map fun _ => .done) (s.map fun _ => .done) := by
  subst h
  cases r with
  | error f => exact .error f
  | ok => exact .ok .done

/-- One request, served by both. -/
theorem alike_serve (h : Alike c d) {r s : Request} (hr : Request.Alike r s) (w : World) :
    Step.Alike Alike AlikeResult (c.serve w r) (d.serve w s) := by
  cases hr with
  | replaceToken htext =>
    have hstep := alike_replaceToken h htext
    exact ⟨hstep.state, alikeResult_done hstep.value, hstep.log⟩
  | same =>
    cases r with
    | token =>
      have hstep := alike_token h w.now
      obtain ⟨s, t, hs, ht, htext⟩ := hstep.value
      refine ⟨hstep.state, ?_, hstep.log⟩
      show AlikeResult (.ok (.token (c.token w.now).value)) (.ok (.token (d.token w.now).value))
      rw [hs, ht]
      exact .ok (.token htext)
    | needsRenewal =>
      have hstep := alike_needsRenewal h w.now
      refine ⟨hstep.state, ?_, hstep.log⟩
      show AlikeResult (.ok (.flag (c.needsRenewal w.now).value))
        (.ok (.flag (d.needsRenewal w.now).value))
      rw [hstep.value]
      exact .ok (.flag _)
    | replaceCertificate p k =>
      have hstep := alike_replaceCertificate h w.files p k
      exact ⟨hstep.state, alikeResult_done hstep.value, hstep.log⟩
    | replaceToken text =>
      have hstep := alike_replaceToken_same h text
      exact ⟨hstep.state, alikeResult_done hstep.value, hstep.log⟩
    | setTokenValidity v => exact ⟨alike_setTokenValidity h v, .ok .done, rfl⟩
    | setUseWebsocket b => exact ⟨alike_setUseWebsocket h b, .ok .done, rfl⟩
    | connect =>
      have hstep := alike_connect h w.now
      exact ⟨hstep.state, hstep.value, hstep.log⟩

/-! ### Whole histories -/

/-- Two histories that ask for the same in the same world. -/
def AlikeHistories : List (World × Request) → List (World × Request) → Prop :=
  List.Forall₂ fun p q => p.1 = q.1 ∧ Request.Alike p.2 q.2

/-- A whole history, served by both. -/
theorem alike_serveAll (h : Alike c d) {history history' : List (World × Request)}
    (hsame : AlikeHistories history history') :
    Alike (c.after history) (d.after history') ∧
      List.Forall₂ (Step.Alike Alike AlikeResult) (c.serveAll history) (d.serveAll history') := by
  refine Step.steps_side_by_side ?_ Step.Alike.state h hsame
  rintro c d ⟨w, r⟩ ⟨w', s⟩ hcd ⟨rfl, hr⟩
  exact alike_serve hcd hr w

/-! ### What can be seen outside -/

/-- What a caller can ask of both, other than for their tokens and their keys,
    is the same. -/
structure Indistinguishable (c d : Credentials) : Prop where
  /-- They are described by the same words. -/
  describe : c.describe = d.describe
  /-- So are their endpoints. -/
  endpoint : c.endpoint.describe = d.endpoint.describe
  /-- They have the same configuration. -/
  config : c.config = d.config
  /-- The validity of their tokens is the same. -/
  validity : c.tokenValidity? = d.tokenValidity?
  /-- At every time both need to be renewed, or neither does. -/
  needsRenewal : ∀ now, (c.needsRenewal now).value = (d.needsRenewal now).value
  /-- At every time the tokens that they would hand out have the same claims. -/
  token : ∀ now, ∃ s t, (c.token now).value = some s ∧ (d.token now).value = some t ∧
    Token.SameClaims s t
  /-- They connect in the same context. -/
  tls : c.tls = d.tls

theorem Alike.indistinguishable (h : Alike c d) : Indistinguishable c d where
  describe := by
    obtain ⟨i, j, tls, hc, hd, hissuer⟩ := h.mode
    simp only [Credentials.describe, h.endpoint.describe, h.config, hc, hd, Mode.describe,
      hissuer.describe]
  endpoint := h.endpoint.describe
  config := h.config
  validity := by
    obtain ⟨i, j, tls, hc, hd, hissuer⟩ := h.mode
    simp only [tokenValidity?, issuer?, hc, hd, Option.map_some, hissuer.validity]
  needsRenewal := by
    intro now
    exact (alike_needsRenewal h now).value
  token := by
    intro now
    exact (alike_token h now).value
  tls := by
    obtain ⟨i, j, tls, hc, hd, -⟩ := h.mode
    simp only [Credentials.tls, hc, hd]

/-! ### From the endpoints on -/

/-- Endpoints that are alike have issuers that are, and equal reports. -/
theorem alike_issuerFor {e f : Endpoint} (h : Endpoint.Alike e f) (now : Instant) (cfg : Config) :
    ∃ i j, (issuerFor now e cfg).result = .ok i ∧ (issuerFor now f cfg).result = .ok j ∧
      Issuer.Alike i j ∧ (issuerFor now e cfg).log = (issuerFor now f cfg).log := by
  have hresource : e.resourceUri = f.resourceUri := by
    rw [Endpoint.resourceUri, Endpoint.resourceUri, h.hostName, h.deviceId]
  have hlogin := h.login
  generalize he : e.login = login at hlogin
  generalize hf : f.login = login' at hlogin
  cases hlogin with
  | sharedKey hs ht canonical =>
    refine ⟨_, _, issuerFor_ok.mpr (.inl ⟨_, _, he, hs, rfl⟩),
      issuerFor_ok.mpr (.inl ⟨_, _, hf, ht, rfl⟩), ?_, ?_⟩
    · rw [hresource]
      exact Issuer.alike_ofKey _ _ _ _ _ _
    · have hnone := congrArg Bool.not canonical
      rw [Option.not_isSome, Option.not_isSome] at hnone
      rw [log_issuerFor_key he hs, log_issuerFor_key hf ht, DeviceKey.log_ofBase64 hs,
        DeviceKey.log_ofBase64 ht, hnone]
  | sharedToken htext =>
    obtain ⟨t, u, ht, hu, htoken⟩ := Token.exists_alike htext
    refine ⟨_, _, issuerFor_ok.mpr (.inr ⟨_, _, he, ht, rfl⟩),
      issuerFor_ok.mpr (.inr ⟨_, _, hf, hu, rfl⟩), ?_, ?_⟩
    · exact Issuer.alike_ofToken htoken _
    · rw [log_issuerFor_token he ht, log_issuerFor_token hf hu]

/-- **Secrets do not show**: take two endpoints of a device whose keys, or whose
    tokens, differ in a secret only, build credentials for both with the same
    configuration at the same time, and ask both for the same, in any order and
    number, with any clock and files; where a token is replaced, the two texts
    may differ in their signature. Then both are built, and at every step both
    log the same, give the same answer or fail for the same reason, and cannot
    be told apart afterwards. -/
theorem secrets_do_not_show {e f : Endpoint} (he : Endpoint.Alike e f) (now : Instant)
    (cfg : Config) {history history' : List (World × Request)}
    (hsame : AlikeHistories history history') :
    ∃ c d, (withToken now e cfg).result = .ok c ∧ (withToken now f cfg).result = .ok d ∧
      (withToken now e cfg).log = (withToken now f cfg).log ∧ Indistinguishable c d ∧
      List.Forall₂ (Step.Alike Indistinguishable AlikeResult) (c.serveAll history)
        (d.serveAll history') := by
  obtain ⟨i, j, hi, hj, hissuer, hlog⟩ := alike_issuerFor he now cfg
  obtain ⟨tls, htls, hc⟩ := exists_withToken hi
  have hd : (withToken now f cfg).result = .ok ⟨f, cfg, .token j tls⟩ :=
    withToken_ok.mpr ⟨j, tls, hj, htls, rfl⟩
  have hcd : Alike ⟨e, cfg, .token i tls⟩ ⟨f, cfg, .token j tls⟩ :=
    ⟨he, rfl, i, j, tls, rfl, rfl, hissuer⟩
  refine ⟨_, _, hc, hd, ?_, hcd.indistinguishable, ?_⟩
  · rw [log_withToken hi, log_withToken hj, hlog, he.hostName, he.deviceId]
  · refine (alike_serveAll hcd hsame).2.imp ?_
    intro x y hstep
    exact hstep.imp (fun _ _ h => h.indistinguishable) fun _ _ h => h

/-- Two keys. A token for another device, signed with either, takes the place of
    the first token; it has expired when it is to be sent, and is renewed. -/
theorem secrets_do_not_show_keys :
    let e : Endpoint := ⟨"h", "d", .sharedKey "QUJD", by decide, by decide⟩
    let f : Endpoint := ⟨"h", "d", .sharedKey "REVG", by decide, by decide⟩
    let now : Instant := ⟨7, by decide, by decide⟩
    let given (key : DeviceKey) := (Token.sign "h/devices/x" key ⟨5, by decide, by decide⟩).text
    let history (key : DeviceKey) : List (World × Request) :=
      [({ now }, .replaceToken (given key)), ({ now }, .connect)]
    Endpoint.Alike e f ∧
      AlikeHistories (history ⟨"QUJD", [65, 66, 67]⟩) (history ⟨"REVG", [68, 69, 70]⟩) ∧
      ∃ c d, (withToken now e {}).result = .ok c ∧ (withToken now f {}).result = .ok d ∧
        (withToken now e {}).log = (withToken now f {}).log ∧ Indistinguishable c d ∧
        List.Forall₂ (Step.Alike Indistinguishable AlikeResult)
          (c.serveAll (history ⟨"QUJD", [65, 66, 67]⟩)) (d.serveAll (history ⟨"REVG", [68, 69, 70]⟩)) := by
  intro e f now given history
  have hs : (DeviceKey.ofBase64 "QUJD").result = .ok ⟨"QUJD", [65, 66, 67]⟩ := by rfl
  have ht : (DeviceKey.ofBase64 "REVG").result = .ok ⟨"REVG", [68, 69, 70]⟩ := by rfl
  have he : Endpoint.Alike e f := ⟨rfl, rfl, .sharedKey hs ht (by decide)⟩
  have hgiven : Token.SameClaims (given ⟨"QUJD", [65, 66, 67]⟩) (given ⟨"REVG", [68, 69, 70]⟩) :=
    (Token.alike_sign _ _ _ _).sameClaims
  have hsame : AlikeHistories (history ⟨"QUJD", [65, 66, 67]⟩) (history ⟨"REVG", [68, 69, 70]⟩) :=
    .cons ⟨rfl, .replaceToken hgiven⟩ (.cons ⟨rfl, .same _⟩ .nil)
  exact ⟨he, hsame, secrets_do_not_show he now {} hsame⟩

end Credentials

end HubAuth
