import HubAuth.Proofs.Credentials.Mode
import HubAuth.Proofs.Credentials.Run
import Mathlib.Data.List.Forall2

/-! # Recovering by another token

  Credentials without a key live on by tokens from elsewhere. When one of these
  takes the place of the current token, nothing of the past is left that could
  be noticed: neither the token before it nor whether that one was reported to
  be dead. So the credentials go on as others do that have just been built for
  the new token, except that the log goes on naming the resource of the first.

  * `matched_serve`, `matched_serveAll`: one request and a whole history,
    served by both.
  * `recovers_of_keyless`: a text is refused as it would be when credentials
    are built with it, and otherwise all goes on as with these.
  * `replacement_recovers`: so a replacement recovers credentials entirely.
-/

namespace HubAuth

/-- The entry without the resource that it names. -/
def Entry.unnamed : Entry → Entry
  | .renewed _ expiry => .renewed "" expiry
  | .installed _ expiry => .installed "" expiry
  | .stuck _ => .stuck ""
  | entry => entry

/-! ### Issuers -/

/-- Two issuers without a key that hold the same token, and have both reported
    that it is dead or have both not done so. -/
structure Issuer.Peers (i j : Issuer) : Prop where
  /-- The first one has no key. -/
  keyless : i.deviceKey = none
  /-- Nor has the second one. -/
  keyless' : j.deviceKey = none
  /-- The token is the same. -/
  current : i.current = j.current
  /-- So is what was reported. -/
  stuckReported : i.stuckReported = j.stuckReported

namespace Issuer.Peers

variable {i j : Issuer}

theorem isStuck (h : Peers i j) (now : Instant) : i.isStuck now = j.isStuck now := by
  unfold Issuer.isStuck
  rw [h.keyless, h.keyless', h.current]

theorem install (h : Peers i j) (t : Token) :
    Peers { i with current := t, stuckReported := false }
      { j with current := t, stuckReported := false } :=
  ⟨h.keyless, h.keyless', rfl, rfl⟩

theorem reported (h : Peers i j) :
    Peers { i with stuckReported := true } { j with stuckReported := true } :=
  ⟨h.keyless, h.keyless', h.current, rfl⟩

theorem setValidity (h : Peers i j) (v : Duration) : Peers (i.setValidity v) (j.setValidity v) :=
  ⟨h.keyless, h.keyless', h.current, h.stuckReported⟩

/-- What is logged about a dead token differs in the resource only. -/
theorem log_stuck (h : Peers i j) :
    (if i.stuckReported then [] else [Entry.stuck i.resourceUri]).map Entry.unnamed
      = (if j.stuckReported then [] else [Entry.stuck j.resourceUri]).map Entry.unnamed := by
  rw [h.stuckReported]
  split
  · rfl
  · rfl

end Issuer.Peers

namespace Credentials

/-! ### Credentials -/

/-- Two sets of credentials for the same device, with issuers that are peers.
    The endpoints may have been given different tokens. -/
structure Peers (c d : Credentials) : Prop where
  /-- The hub is the same. -/
  hostName : c.endpoint.hostName = d.endpoint.hostName
  /-- The device is the same. -/
  deviceId : c.endpoint.deviceId = d.endpoint.deviceId
  /-- The configuration is the same. -/
  config : c.config = d.config
  /-- The issuers are peers, and the context is the same. -/
  mode : ∃ i j tls, c.mode = .token i tls ∧ d.mode = .token j tls ∧ Issuer.Peers i j

/-- Two steps with the same value. Their logs differ only in the resources that
    they name, and what they leave are peers again. -/
structure Matched {α : Type} (x y : Step Credentials α) : Prop where
  /-- The credentials after the steps. -/
  state : Peers x.state y.state
  /-- The values. -/
  value : x.value = y.value
  /-- The logs, entry by entry. -/
  log : x.log.map Entry.unnamed = y.log.map Entry.unnamed

variable {c d : Credentials} {i j : Issuer} {tls : TlsContext}

theorem Matched.map {α β : Type} {x y : Step Credentials α} (h : Matched x y) (f : α → β) :
    Matched (x.map f) (y.map f) :=
  ⟨h.state, congrArg f h.value, h.log⟩

theorem Peers.withMode (h : Peers c d) (hissuer : Issuer.Peers i j) (tls : TlsContext) :
    Peers { c with mode := .token i tls } { d with mode := .token j tls } :=
  ⟨h.hostName, h.deviceId, h.config, i, j, tls, rfl, rfl, hissuer⟩

/-! ### One request -/

theorem matched_token (h : Peers c d) (now : Instant) : Matched (c.token now) (d.token now) := by
  obtain ⟨i, j, tls, hc, hd, hissuer⟩ := h.mode
  rw [token_of_issuer hc, token_of_issuer hd, Issuer.token_of_keyless hissuer.keyless,
    Issuer.token_of_keyless hissuer.keyless']
  refine ⟨h.withMode hissuer tls, ?_, rfl⟩
  show some i.current.text = some j.current.text
  rw [hissuer.current]

theorem matched_needsRenewal (h : Peers c d) (now : Instant) :
    Matched (c.needsRenewal now) (d.needsRenewal now) := by
  obtain ⟨i, j, tls, hc, hd, hissuer⟩ := h.mode
  have hstuck := hissuer.isStuck now
  rw [needsRenewal_of_issuer hc, needsRenewal_of_issuer hd]
  -- Both tokens are dead, or neither is.
  cases hi : i.isStuck now with
  | true =>
    have hj : j.isStuck now = true := hstuck.symm.trans hi
    rw [Issuer.needsRenewal_of_stuck hi, Issuer.needsRenewal_of_stuck hj]
    exact ⟨h.withMode hissuer.reported tls, rfl, hissuer.log_stuck⟩
  | false =>
    have hj : j.isStuck now = false := hstuck.symm.trans hi
    rw [Issuer.needsRenewal_of_not_stuck hi, Issuer.needsRenewal_of_not_stuck hj]
    exact ⟨h.withMode hissuer tls, rfl, rfl⟩

theorem matched_replaceCertificate (h : Peers c d) (files : Files.Tree) (p k : PemSource) :
    Matched (c.replaceCertificate files p k) (d.replaceCertificate files p k) := by
  obtain ⟨i, j, tls, hc, hd, -⟩ := h.mode
  rw [replaceCertificate_of_issuer hc, replaceCertificate_of_issuer hd]
  exact ⟨h, rfl, rfl⟩

theorem matched_replaceToken (h : Peers c d) (text : String) :
    Matched (c.replaceToken text) (d.replaceToken text) := by
  obtain ⟨i, j, tls, hc, hd, hissuer⟩ := h.mode
  cases hparse : Token.parse text with
  | error e =>
    rw [replaceToken_of_error hc hparse, replaceToken_of_error hd hparse]
    exact ⟨h, rfl, rfl⟩
  | ok t =>
    rw [replaceToken_of_parse hc hparse, replaceToken_of_parse hd hparse]
    refine ⟨h.withMode (hissuer.install t) tls, rfl, ?_⟩
    simp only [List.map_cons, List.map_nil, Entry.unnamed, h.deviceId]

theorem peers_setTokenValidity (h : Peers c d) (v : Duration) :
    Peers (c.setTokenValidity v) (d.setTokenValidity v) := by
  obtain ⟨i, j, tls, hc, hd, hissuer⟩ := h.mode
  rw [setTokenValidity_of_issuer hc, setTokenValidity_of_issuer hd]
  refine ⟨h.hostName, h.deviceId, ?_, _, _, tls, rfl, rfl, hissuer.setValidity v⟩
  show c.config.withTokenValidity v = d.config.withTokenValidity v
  rw [h.config]

theorem peers_setUseWebsocket (h : Peers c d) (useWebsocket : Bool) :
    Peers (c.setUseWebsocket useWebsocket) (d.setUseWebsocket useWebsocket) := by
  refine ⟨h.hostName, h.deviceId, ?_, h.mode⟩
  show c.config.withWebsocket useWebsocket = d.config.withWebsocket useWebsocket
  rw [h.config]

theorem matched_connect (h : Peers c d) (now : Instant) :
    Matched (Mqtt.Options.ofCredentials c now) (Mqtt.Options.ofCredentials d now) := by
  obtain ⟨i, j, tls, hc, hd, hissuer⟩ := h.mode
  have hstuck := hissuer.isStuck now
  cases hi : i.isStuck now with
  | true =>
    have hj : j.isStuck now = true := hstuck.symm.trans hi
    rw [connect_of_stuck hc hi, connect_of_stuck hd hj]
    exact ⟨h.withMode hissuer.reported tls, rfl, hissuer.log_stuck⟩
  | false =>
    have hj : j.isStuck now = false := hstuck.symm.trans hi
    have htls : c.tls = d.tls := by simp only [Credentials.tls, hc, hd]
    rw [connect_of_issuer hc hi, connect_of_issuer hd hj,
      Issuer.token_of_keyless hissuer.keyless, Issuer.token_of_keyless hissuer.keyless']
    refine ⟨h.withMode hissuer tls, ?_, ?_⟩
    · show Except.ok (Mqtt.Options.make c (some i.current.text))
        = Except.ok (Mqtt.Options.make d (some j.current.text))
      unfold Mqtt.Options.make
      rw [hissuer.current, h.hostName, h.deviceId, h.config, htls]
    · rw [h.hostName, h.deviceId, h.config]
      rfl

/-- One request, served by both. -/
theorem matched_serve (h : Peers c d) (w : World) (r : Request) :
    Matched (c.serve w r) (d.serve w r) := by
  unfold serve
  cases r with
  | token => exact (matched_token h w.now).map _
  | needsRenewal => exact (matched_needsRenewal h w.now).map _
  | replaceCertificate p k => exact (matched_replaceCertificate h w.files p k).map _
  | replaceToken text => exact (matched_replaceToken h text).map _
  | setTokenValidity v => exact ⟨peers_setTokenValidity h v, rfl, rfl⟩
  | setUseWebsocket b => exact ⟨peers_setUseWebsocket h b, rfl, rfl⟩
  | connect => exact (matched_connect h w.now).map _

/-! ### Whole histories -/

/-- A whole history, served by both. -/
theorem matched_serveAll (h : Peers c d) (history : List (World × Request)) :
    List.Forall₂ Matched (c.serveAll history) (d.serveAll history) := by
  have hsame : List.Forall₂ (fun p q => p = q) history history := by
    rw [List.forall₂_same]
    exact fun _ _ => rfl
  refine (Step.steps_side_by_side ?_ Matched.state h hsame).2
  rintro c d ⟨w, r⟩ _ hcd rfl
  exact matched_serve hcd w r

/-! ### Building with the new token -/

/-- The endpoint of the same device with a token from elsewhere. -/
def givenToken (e : Endpoint) (text : String) : Endpoint :=
  { e with login := .sharedToken text }

theorem withSharedToken_eq (e : Endpoint) (text : String) :
    Endpoint.withSharedToken e.hostName e.deviceId text = .ok (givenToken e text) := by
  unfold Endpoint.withSharedToken Endpoint.make
  rw [dif_neg e.host_ne, dif_neg e.device_ne]
  rfl

/-- Credentials for a token are built exactly if it can be read. -/
theorem withToken_of_parse {now : Instant} {e : Endpoint} {cfg : Config} {text : String} {t : Token}
    (hparse : Token.parse text = .ok t) (htls : TlsContext.serverAuthOnly.result = .ok tls) :
    (withToken now (givenToken e text) cfg).result = .ok
      { endpoint := givenToken e text, config := cfg
        mode := .token (.ofToken t cfg.tokenValidity) tls } := by
  apply withToken_ok.mpr
  refine ⟨_, tls, ?_, htls, rfl⟩
  exact issuerFor_ok.mpr (.inr ⟨text, t, rfl, hparse, rfl⟩)

theorem withToken_of_unread {now : Instant} {e : Endpoint} {cfg : Config} {text : String}
    {cause : CredentialFault} (hparse : Token.parse text = .error cause) :
    (withToken now (givenToken e text) cfg).result = .error (.credential cause) := by
  rw [withToken_error, issuerFor_error]
  exact .inr (.inr ⟨text, cause, rfl, hparse, rfl⟩)

/-- A replacement of the token of credentials, which ends with `x`, goes as
    building credentials with that token does, which ends with `y`. -/
structure Recovers (x : Step Credentials (Except Failure Unit)) (y : Outcome Credentials) :
    Prop where
  /-- Either both are granted or none is. -/
  granted : x.value = .ok () ↔ ∃ d, y.result = .ok d
  /-- They are refused for the same reason. -/
  refused : ∀ f, x.value = .error f ↔ y.result = .error f
  /-- What is granted serves every history as the credentials do that were
      built: with the same answers and failures, and with the same entries in
      the log, but for the resources that these name. -/
  asNew : ∀ d, y.result = .ok d →
    ∀ history, List.Forall₂ Matched (x.state.serveAll history) (d.serveAll history)

/-- Without a key, the token is replaced as credentials are built. -/
theorem recovers_of_keyless (hmode : c.mode = .token i tls) (hkeyless : i.deviceKey = none)
    (htls : TlsContext.serverAuthOnly.result = .ok tls) (text : String) (now : Instant) :
    Recovers (c.replaceToken text) (withToken now (givenToken c.endpoint text) c.config) := by
  cases hparse : Token.parse text with
  | error cause =>
    have hbuilt : (withToken now (givenToken c.endpoint text) c.config).result
        = .error (.credential cause) := withToken_of_unread hparse
    rw [replaceToken_of_error hmode hparse]
    constructor
    case granted => simp [Step.keep, hbuilt]
    case refused => simp [Step.keep, hbuilt]
    case asNew =>
      intro d hd
      rw [hbuilt] at hd
      cases hd
  | ok t =>
    have hbuilt : (withToken now (givenToken c.endpoint text) c.config).result = .ok
        { endpoint := givenToken c.endpoint text, config := c.config
          mode := .token (.ofToken t c.config.tokenValidity) tls } := withToken_of_parse hparse htls
    rw [replaceToken_of_parse hmode hparse]
    constructor
    case granted => simp [hbuilt]
    case refused => simp [hbuilt]
    case asNew =>
      intro d hd history
      rw [hbuilt] at hd
      obtain rfl := Except.ok.inj hd
      apply matched_serveAll
      exact ⟨rfl, rfl, rfl, _, _, tls, rfl, rfl, hkeyless, rfl, rfl, rfl⟩

/-! ### At all times -/

variable {e : Endpoint} {cfg : Config}

/-- Credentials with a token keep the context that they were built with. -/
theorem context_after (built : Built e cfg c) (history : List (World × Request))
    (hlogin : e.usesCertificate = false) :
    ∃ i tls, (c.after history).mode = .token i tls ∧
      TlsContext.serverAuthOnly.result = .ok tls := by
  rcases built_cases built with ⟨now, h⟩ | ⟨files, p, k, h⟩
  · obtain ⟨i, tls, -, htls, rfl⟩ := withToken_ok.mp h
    obtain ⟨j, hj, -⟩ :=
      issuer_of_run (c := { endpoint := e, config := cfg, mode := .token i tls }) rfl history
    exact ⟨j, tls, hj, htls⟩
  · obtain ⟨hcertificate, -⟩ := withCertificate_ok.mp h
    rw [hlogin] at hcertificate
    cases hcertificate

/-- Credentials with a token have no key if their endpoint has none. -/
theorem keyless_of_endpoint (h : Consistent e cfg c) (hmode : c.mode = .token i tls)
    (hkeyless : c.endpoint.sharedKey? = none) :
    i.deviceKey = none ∧ e.usesCertificate = false := by
  have hfits := h.mode
  rw [hmode] at hfits
  cases hfits with
  | token sound login key validity unknown =>
    rw [h.endpoint, ← key] at hkeyless
    exact ⟨Option.map_eq_none_iff.mp hkeyless, login⟩

/-- **Another token recovers credentials**: however credentials with a token and
    without a key were built and whatever was asked of them since, another token
    takes the place of the current one exactly if credentials for the same device
    can be built with it, and fails to for the same reason; and from then on both
    answer everything alike, and log the same about dead tokens. -/
theorem replacement_recovers (built : Built e cfg c) (history : List (World × Request))
    (htoken : (c.after history).authType = .token)
    (hkeyless : (c.after history).endpoint.sharedKey? = none) (text : String) (now : Instant) :
    ∃ f, Endpoint.withSharedToken (c.after history).endpoint.hostName
        (c.after history).endpoint.deviceId text = .ok f ∧
      Recovers ((c.after history).replaceToken text) (withToken now f (c.after history).config) := by
  have h : Consistent e cfg (c.after history) := consistent_after built history
  refine ⟨givenToken (c.after history).endpoint text, withSharedToken_eq _ text, ?_⟩
  cases hmode : (c.after history).mode with
  | certificate m tls => simp [authType, hmode] at htoken
  | token i tls =>
    obtain ⟨hissuer, hlogin⟩ := keyless_of_endpoint h hmode hkeyless
    obtain ⟨j, tls', hmode', htls⟩ := context_after built history hlogin
    rw [hmode] at hmode'
    obtain ⟨rfl, rfl⟩ := Mode.token.inj hmode'
    exact recovers_of_keyless hmode hissuer htls text now

/-- A token has been reported to be dead, the validity has got a part of a second
    and a text that is no token was refused. Then a token takes its place that is
    dead as well, as others are built with it. -/
theorem replacement_recovers_stuck :
    let e : Endpoint := ⟨"h", "d", .sharedToken Token.foreign.text, by decide, by decide⟩
    let w : World := { now := ⟨10, by decide, by decide⟩ }
    let history : List (World × Request) :=
      [(w, .connect), (w, .setTokenValidity ⟨90, 500000000⟩), (w, .replaceToken "x")]
    let text := (Token.sign "other" ⟨"QUJD", [65, 66, 67]⟩ ⟨7, by decide, by decide⟩).text
    ∃ c f, Built e {} c ∧ (c.after history).authType = .token ∧
      (c.after history).endpoint.sharedKey? = none ∧
      Endpoint.withSharedToken "h" "d" text = .ok f ∧
      Recovers ((c.after history).replaceToken text) (withToken w.now f (c.after history).config) ∧
      ((c.after history).replaceToken text).value = .ok () := by
  intro e w history text
  have hi : (issuerFor w.now e {}).result = .ok (.ofToken .foreign (.ofSecs 3600)) :=
    issuerFor_ok.mpr (.inr ⟨_, _, rfl, Token.parse_foreign, rfl⟩)
  obtain ⟨tls, hbuilt⟩ := exists_built hi
  let c : Credentials :=
    { endpoint := e, config := {}, mode := .token (.ofToken .foreign (.ofSecs 3600)) tls }
  obtain ⟨j, hmode, -⟩ := issuer_of_run (c := c) rfl history
  have htoken : (c.after history).authType = .token := by simp only [authType, hmode]
  have hendpoint : (c.after history).endpoint = e := (consistent_after hbuilt history).endpoint
  have hkeyless : (c.after history).endpoint.sharedKey? = none := by
    rw [hendpoint]
    rfl
  obtain ⟨f, hf, hrecovers⟩ := replacement_recovers hbuilt history htoken hkeyless text w.now
  rw [hendpoint] at hf
  refine ⟨c, f, hbuilt, htoken, hkeyless, hf, hrecovers, ?_⟩
  rw [replaceToken_of_parse hmode (Token.parse_sign _ _ _)]

end Credentials

end HubAuth
