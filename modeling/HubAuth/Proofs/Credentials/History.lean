import HubAuth.Credentials.Builder
import HubAuth.Credentials.Request
import HubAuth.Proofs.Tls.Context
import HubAuth.Proofs.Token.Issuer
import HubAuth.Proofs.Token.Key

/-! # Credentials over time

  How credentials come about, and how requests change them. There are only
  four ways: the issuer serves a request of its own, the lifetime of tokens
  changes in the issuer and in the configuration together, the choice of
  transport changes, or a certificate and its context are replaced together.
  A property that these four keep holds after every history.

  * `built_cases`: what credentials are when they are built.
  * `Kept.after`: what the four changes keep, every history keeps.
-/

namespace HubAuth.Credentials

/-! ### Building -/

/-- An endpoint has an issuer exactly if it has a key that can be read or a
    token that can be read. -/
theorem issuerFor_ok {now : Instant} {e : Endpoint} {cfg : Config} {i : Issuer} :
    (issuerFor now e cfg).result = .ok i ↔
      (∃ s key, e.login = .sharedKey s ∧ (DeviceKey.ofBase64 s).result = .ok key ∧
        i = .ofKey now e.resourceUri key cfg.tokenValidity cfg.renewalSkew) ∨
      (∃ s token, e.login = .sharedToken s ∧ Token.parse s = .ok token ∧
        i = .ofToken token cfg.tokenValidity) := by
  unfold issuerFor
  cases hlogin : e.login with
  | certificate => simp [Outcome.fail]
  | sharedKey s =>
    rw [Outcome.bind_result_ok]
    constructor
    · rintro ⟨key, hkey, hi⟩
      exact .inl ⟨s, key, rfl, hkey, (Except.ok.inj hi).symm⟩
    · rintro (⟨_, key, hs, hkey, rfl⟩ | ⟨_, _, hs, -⟩)
      · obtain rfl := Login.sharedKey.inj hs
        exact ⟨key, hkey, rfl⟩
      · cases hs
  | sharedToken s =>
    rw [Outcome.bind_result_ok]
    constructor
    · rintro ⟨token, htoken, hi⟩
      have hparse : Token.parse s = .ok token := Outcome.ofExcept_mapError_ok.mp htoken
      exact .inr ⟨s, token, rfl, hparse, (Except.ok.inj hi).symm⟩
    · rintro (⟨_, _, hs, -⟩ | ⟨_, token, hs, htoken, rfl⟩)
      · cases hs
      · obtain rfl := Login.sharedToken.inj hs
        exact ⟨token, Outcome.ofExcept_mapError_ok.mpr htoken, rfl⟩

/-- An endpoint has none if it logs in with a certificate, or with a key or a
    token that cannot be read. -/
theorem issuerFor_error {now : Instant} {e : Endpoint} {cfg : Config} {f : Failure} :
    (issuerFor now e cfg).result = .error f ↔
      (e.login = .certificate ∧ f = .argument .certificateEndpoint) ∨
      (∃ s, e.login = .sharedKey s ∧ (DeviceKey.ofBase64 s).result = .error f) ∨
      (∃ s cause, e.login = .sharedToken s ∧ Token.parse s = .error cause ∧
        f = .credential cause) := by
  unfold issuerFor
  cases hlogin : e.login with
  | certificate => simp [Outcome.fail, eq_comm]
  | sharedKey s => simp [Outcome.bind_result_error]
  | sharedToken s => simp [Outcome.bind_result_error, Outcome.ofExcept_mapError_error]

/-- What is logged while an issuer is made is what is logged about its key. -/
theorem log_issuerFor_key {now : Instant} {e : Endpoint} {cfg : Config} {s : String}
    {key : DeviceKey} (hlogin : e.login = .sharedKey s)
    (hkey : (DeviceKey.ofBase64 s).result = .ok key) :
    (issuerFor now e cfg).log = (DeviceKey.ofBase64 s).log := by
  simp only [issuerFor, hlogin, Outcome.bind_of_ok hkey, Outcome.pure_eq, List.append_nil]

theorem log_issuerFor_token {now : Instant} {e : Endpoint} {cfg : Config} {s : String} {t : Token}
    (hlogin : e.login = .sharedToken s) (hparse : Token.parse s = .ok t) :
    (issuerFor now e cfg).log = [] := by
  simp only [issuerFor, hlogin, hparse]
  rfl

/-- Credentials with a token consist of an issuer for the endpoint and a
    context without an identity. -/
theorem withToken_ok {now : Instant} {e : Endpoint} {cfg : Config} {c : Credentials} :
    (withToken now e cfg).result = .ok c ↔
      ∃ i tls, (issuerFor now e cfg).result = .ok i ∧ TlsContext.serverAuthOnly.result = .ok tls ∧
        c = { endpoint := e, config := cfg, mode := .token i tls } := by
  unfold withToken
  rw [Outcome.bind_result_ok]
  constructor
  · rintro ⟨i, hi, h⟩
    obtain ⟨tls, htls, h⟩ := Outcome.bind_result_ok.mp h
    obtain ⟨-, -, h⟩ := Outcome.bind_result_ok.mp h
    exact ⟨i, tls, hi, htls, (Except.ok.inj h).symm⟩
  · rintro ⟨i, tls, hi, htls, rfl⟩
    refine ⟨i, hi, ?_⟩
    exact Outcome.bind_result_ok.mpr ⟨tls, htls, rfl⟩

/-- Material is presented by the context that is built of it. -/
theorem present_ok {files : Files.Tree} {p k : PemSource} {m : Material} {tls : TlsContext} :
    (present files p k).result = .ok (m, tls) ↔
      (Material.load files p k).result = .ok m ∧ TlsContext.ofMaterial m = .ok tls := by
  unfold present
  rw [Outcome.bind_result_ok]
  constructor
  · rintro ⟨m', hm, h⟩
    obtain ⟨tls', htls, h⟩ := Outcome.bind_result_ok.mp h
    obtain ⟨rfl, rfl⟩ := Prod.mk.inj (Except.ok.inj h)
    exact ⟨hm, TlsContext.bothSides_ok.mp htls⟩
  · rintro ⟨hm, htls⟩
    refine ⟨m, hm, ?_⟩
    exact Outcome.bind_result_ok.mpr ⟨tls, TlsContext.bothSides_ok.mpr htls, rfl⟩

/-- Credentials with a certificate consist of material and the context that
    presents it. -/
theorem withCertificate_ok {files : Files.Tree} {e : Endpoint} {p k : PemSource} {cfg : Config}
    {c : Credentials} :
    (withCertificate files e p k cfg).result = .ok c ↔
      e.usesCertificate = true ∧ ∃ m tls, (present files p k).result = .ok (m, tls) ∧
        c = { endpoint := e, config := cfg, mode := .certificate m tls } := by
  unfold withCertificate
  split
  · next huses =>
    rw [Outcome.bind_result_ok]
    constructor
    · rintro ⟨⟨m, tls⟩, hpresent, h⟩
      obtain ⟨-, -, h⟩ := Outcome.bind_result_ok.mp h
      exact ⟨huses, m, tls, hpresent, (Except.ok.inj h).symm⟩
    · rintro ⟨-, m, tls, hpresent, rfl⟩
      exact ⟨(m, tls), hpresent, rfl⟩
  · next huses =>
    constructor
    · intro h
      cases h
    · rintro ⟨h, -⟩
      exact absurd h huses

/-- Credentials that have just been built for an endpoint and a configuration. -/
inductive Built : Endpoint → Config → Credentials → Prop
  /-- With a token. -/
  | withToken {now : Instant} {e : Endpoint} {cfg : Config} {c : Credentials}
      (h : (withToken now e cfg).result = .ok c) : Built e cfg c
  /-- With a certificate. -/
  | withCertificate {files : Files.Tree} {e : Endpoint} {p k : PemSource} {cfg : Config}
      {c : Credentials} (h : (withCertificate files e p k cfg).result = .ok c) : Built e cfg c
  /-- By a builder. -/
  | build {b : Builder Endpoint} {now : Instant} {files : Files.Tree} {c : Credentials}
      (h : (b.build now files).result = .ok c) : Built b.endpoint b.config c

/-- A builder adds nothing to the two ways of building. -/
theorem built_cases {e : Endpoint} {cfg : Config} {c : Credentials} (h : Built e cfg c) :
    (∃ now, (withToken now e cfg).result = .ok c) ∨
      ∃ files p k, (withCertificate files e p k cfg).result = .ok c := by
  cases h with
  | withToken h => exact .inl ⟨_, h⟩
  | withCertificate h => exact .inr ⟨_, _, _, h⟩
  | @build b now files c h =>
    unfold Builder.build at h
    split at h
    · exact .inr ⟨_, _, _, h⟩
    · exact .inl ⟨_, h⟩

/-- What is logged while credentials with a token are built. -/
theorem log_withToken {now : Instant} {e : Endpoint} {cfg : Config} {i : Issuer}
    (h : (issuerFor now e cfg).result = .ok i) :
    (withToken now e cfg).log = (issuerFor now e cfg).log
      ++ [.buildingTls .serverAuthOnly, .createdToken e.hostName e.deviceId] := by
  obtain ⟨tls, htls⟩ := TlsContext.exists_serverAuthOnly
  have hlog := TlsContext.log_serverAuthOnly
  unfold withToken
  -- Neither the context nor the issuer may be computed here.
  generalize TlsContext.serverAuthOnly = context at htls hlog ⊢
  generalize issuerFor now e cfg = issuer at h ⊢
  obtain ⟨result, log⟩ := context
  obtain ⟨result', log'⟩ := issuer
  simp only at h htls hlog
  subst h htls hlog
  rfl

/-- No file is read for credentials with a token. -/
theorem reading_not_mem_withToken {now : Instant} {e : Endpoint} {cfg : Config} {half : Half}
    {text : String} : .reading half text ∉ (withToken now e cfg).log := by
  intro h
  rw [withToken, Outcome.mem_log_bind] at h
  rcases h with h | ⟨i, -, h⟩
  · unfold issuerFor at h
    split at h
    · cases h
    · rw [Outcome.mem_log_bind] at h
      rcases h with h | ⟨key, -, h⟩
      · cases DeviceKey.eq_of_mem_log_ofBase64 h
      · cases h
    · rw [Outcome.mem_log_bind] at h
      simp [Outcome.ofExcept] at h
  · rw [Outcome.mem_log_bind, TlsContext.log_serverAuthOnly] at h
    simp [Outcome.note] at h

/-- An endpoint with an issuer has credentials with a token. -/
theorem exists_withToken {now : Instant} {e : Endpoint} {cfg : Config} {i : Issuer}
    (h : (issuerFor now e cfg).result = .ok i) :
    ∃ tls, TlsContext.serverAuthOnly.result = .ok tls ∧ (withToken now e cfg).result = .ok
      { endpoint := e, config := cfg, mode := .token i tls } := by
  obtain ⟨tls, htls⟩ := TlsContext.exists_serverAuthOnly
  exact ⟨tls, htls, withToken_ok.mpr ⟨i, tls, h, htls, rfl⟩⟩

/-- Otherwise it has none, and for the same reason. -/
theorem withToken_error {now : Instant} {e : Endpoint} {cfg : Config} {f : Failure} :
    (withToken now e cfg).result = .error f ↔ (issuerFor now e cfg).result = .error f := by
  cases hissuer : (issuerFor now e cfg).result with
  | error cause =>
    rw [withToken, Outcome.bind_of_error hissuer]
    simp only [Except.error.injEq]
  | ok i =>
    obtain ⟨tls, -, hbuilt⟩ := exists_withToken hissuer
    simp [hbuilt]

theorem exists_built {now : Instant} {e : Endpoint} {cfg : Config} {i : Issuer}
    (h : (issuerFor now e cfg).result = .ok i) :
    ∃ tls, Built e cfg { endpoint := e, config := cfg, mode := .token i tls } := by
  obtain ⟨tls, -, hc⟩ := exists_withToken h
  exact ⟨tls, .withToken hc⟩

/-! ### Serving requests -/

/-- The credentials after a history of requests, each with the world it finds. -/
def after (c : Credentials) (history : List (World × Request)) : Credentials :=
  Step.stateAfter (fun c r => c.serve r.1 r.2) c history

theorem after_append (c : Credentials) (history more : List (World × Request)) :
    c.after (history ++ more) = (c.after history).after more :=
  List.foldl_append

/-- Serves the requests of a history one after the other. -/
def serveAll (c : Credentials) (history : List (World × Request)) :
    List (Step Credentials (Except Failure Answer)) :=
  Step.steps (fun c r => c.serve r.1 r.2) c history

theorem serveAll_cons (c : Credentials) (w : World) (r : Request)
    (rest : List (World × Request)) :
    c.serveAll ((w, r) :: rest) = c.serve w r :: (c.serve w r).state.serveAll rest := rfl

/-- What is served after a history is served by the credentials that it left. -/
theorem serveAll_append (c : Credentials) (history more : List (World × Request)) :
    c.serveAll (history ++ more) = c.serveAll history ++ (c.after history).serveAll more :=
  Step.events_append c history more

theorem issuer_unique {c : Credentials} {i j : Issuer} {tls tls' : TlsContext}
    (hi : c.mode = .token i tls) (hj : c.mode = .token j tls') : i = j := by
  rw [hi] at hj
  exact (Mode.token.inj hj).1

theorem token_ne_certificate {c : Credentials} {i : Issuer} {m : Material} {tls tls' : TlsContext}
    (hi : c.mode = .token i tls) (hm : c.mode = .certificate m tls') : False := by
  rw [hi] at hm
  cases hm

/-- With a token, asking for the token asks the issuer. -/
theorem token_of_issuer {c : Credentials} {i : Issuer} {tls : TlsContext}
    (h : c.mode = .token i tls) (now : Instant) :
    c.token now =
      { state := { c with mode := .token (i.token now).state tls }
        value := some (i.token now).value
        log := (i.token now).log } := by
  simp only [token, h, Step.within, Step.map]

/-- With a token, the question whether it is dead goes to the issuer. -/
theorem needsRenewal_of_issuer {c : Credentials} {i : Issuer} {tls : TlsContext}
    (h : c.mode = .token i tls) (now : Instant) :
    c.needsRenewal now =
      { state := { c with mode := .token (i.needsRenewal now).state tls }
        value := (i.needsRenewal now).value
        log := (i.needsRenewal now).log } := by
  simp only [needsRenewal, h, Step.within]

theorem token_of_certificate {c : Credentials} {m : Material} {tls : TlsContext}
    (h : c.mode = .certificate m tls) (now : Instant) : c.token now = .keep c none := by
  simp only [token, h]

theorem needsRenewal_of_certificate {c : Credentials} {m : Material} {tls : TlsContext}
    (h : c.mode = .certificate m tls) (now : Instant) : c.needsRenewal now = .keep c false := by
  simp only [needsRenewal, h]

/-- A dead token is not sent. That it is dead is reported once. -/
theorem connect_of_stuck {c : Credentials} {i : Issuer} {tls : TlsContext}
    (h : c.mode = .token i tls) {now : Instant} (hstuck : i.isStuck now = true) :
    Mqtt.Options.ofCredentials c now =
      { state := { c with mode := .token { i with stuckReported := true } tls }
        value := .error .expired
        log := if i.stuckReported then [] else [.stuck i.resourceUri] } := by
  unfold Mqtt.Options.ofCredentials
  simp only [needsRenewal_of_issuer h, Issuer.needsRenewal_of_stuck hstuck, if_true]

/-- Any other token is sent, renewed if need be. -/
theorem connect_of_issuer {c : Credentials} {i : Issuer} {tls : TlsContext}
    (h : c.mode = .token i tls) {now : Instant} (hstuck : i.isStuck now = false) :
    Mqtt.Options.ofCredentials c now =
      { state := { c with mode := .token (i.token now).state tls }
        value := .ok (.make c (some (i.token now).value))
        log := .connecting c.endpoint.hostName (Mqtt.Options.portFor c.config.useWebsocket)
          c.endpoint.deviceId :: (i.token now).log } := by
  have hcheck : c.needsRenewal now = .keep c false := by
    rw [needsRenewal_of_issuer h, Issuer.needsRenewal_of_not_stuck hstuck]
    show Step.mk { c with mode := .token i tls } false [] = Step.mk c false []
    rw [← h]
  unfold Mqtt.Options.ofCredentials
  simp only [hcheck, Step.keep, token_of_issuer h]
  rfl

/-- With a certificate there is nothing to check and no token to send. -/
theorem connect_of_certificate {c : Credentials} {m : Material} {tls : TlsContext}
    (h : c.mode = .certificate m tls) (now : Instant) :
    Mqtt.Options.ofCredentials c now =
      { state := c
        value := .ok (.make c none)
        log := [.connecting c.endpoint.hostName (Mqtt.Options.portFor c.config.useWebsocket)
          c.endpoint.deviceId] } := by
  unfold Mqtt.Options.ofCredentials
  simp only [needsRenewal_of_certificate h, Step.keep, token_of_certificate h]
  rfl

/-- A text that is read as a token makes the issuer change its token. -/
theorem replaceToken_of_parse {c : Credentials} {i : Issuer} {tls : TlsContext}
    (h : c.mode = .token i tls) {text : String} {t : Token} (hparse : Token.parse text = .ok t) :
    c.replaceToken text =
      { state := { c with mode := .token { i with current := t, stuckReported := false } tls }
        value := .ok ()
        log := [.installed i.resourceUri t.expiry, .replacedToken c.endpoint.deviceId] } := by
  simp only [replaceToken, h, hparse]
  rfl

/-- Any other text changes nothing. -/
theorem replaceToken_of_error {c : Credentials} {i : Issuer} {tls : TlsContext}
    (h : c.mode = .token i tls) {text : String} {e : CredentialFault}
    (hparse : Token.parse text = .error e) :
    c.replaceToken text = .keep c (.error (.credential e)) := by
  simp only [replaceToken, h, hparse]

theorem replaceCertificate_of_issuer {c : Credentials} {i : Issuer} {tls : TlsContext}
    (h : c.mode = .token i tls) (files : Files.Tree) (p k : PemSource) :
    c.replaceCertificate files p k = .keep c (.error (.state .certificateForToken)) := by
  simp only [replaceCertificate, h]

/-- New material that cannot be presented changes nothing. What was read and
    tried until then is reported. -/
theorem replaceCertificate_of_error {c : Credentials} {m : Material} {tls : TlsContext}
    (h : c.mode = .certificate m tls) {files : Files.Tree} {p k : PemSource} {f : Failure}
    (hpresent : (present files p k).result = .error f) :
    c.replaceCertificate files p k =
      { state := c, value := .error f, log := (present files p k).log } := by
  simp only [replaceCertificate, h, hpresent]

theorem replaceCertificate_of_ok {c : Credentials} {m m' : Material} {tls tls' : TlsContext}
    (h : c.mode = .certificate m tls) {files : Files.Tree} {p k : PemSource}
    (hpresent : (present files p k).result = .ok (m', tls')) :
    c.replaceCertificate files p k =
      { state := { c with mode := .certificate m' tls' }
        value := .ok ()
        log := (present files p k).log ++ [.replacedCertificate c.endpoint.deviceId] } := by
  simp only [replaceCertificate, h, hpresent]

theorem replaceToken_of_certificate {c : Credentials} {m : Material} {tls : TlsContext}
    (h : c.mode = .certificate m tls) (text : String) :
    c.replaceToken text = .keep c (.error (.state .tokenForCertificate)) := by
  simp only [replaceToken, h]

theorem setTokenValidity_of_issuer {c : Credentials} {i : Issuer} {tls : TlsContext}
    (h : c.mode = .token i tls) (v : Duration) :
    c.setTokenValidity v =
      { c with config := c.config.withTokenValidity v, mode := .token (i.setValidity v) tls } := by
  simp only [setTokenValidity, h]

/-! ### What histories keep -/

/-- A property that the four ways of changing credentials keep. -/
structure Kept (P : Credentials → Prop) : Prop where
  /-- The issuer serves a request that does not change the validity. -/
  issuer : ∀ {c i tls}, c.mode = .token i tls → P c → ∀ (now : Instant) (r : Issuer.Request),
    r.Obtainable → (i.serve now r).state.validity = i.validity →
    P { c with mode := .token (i.serve now r).state tls }
  /-- The validity changes in the issuer and in the configuration. -/
  validity : ∀ {c i tls}, c.mode = .token i tls → P c → ∀ v : Duration,
    P { c with config := c.config.withTokenValidity v, mode := .token (i.setValidity v) tls }
  /-- The choice of transport changes. -/
  websocket : ∀ {c}, P c → ∀ useWebsocket : Bool,
    P { c with config := c.config.withWebsocket useWebsocket }
  /-- A certificate and the context that presents it are replaced. -/
  certificate : ∀ {c m tls}, c.mode = .certificate m tls → P c → ∀ {files p k m' tls'},
    (present files p k).result = .ok (m', tls') → P { c with mode := .certificate m' tls' }

namespace Kept

variable {P : Credentials → Prop} {c : Credentials}

theorem token (kept : Kept P) (h : P c) (now : Instant) : P (c.token now).state := by
  cases hmode : c.mode with
  | certificate m tls =>
    rw [token_of_certificate hmode]
    exact h
  | token i tls =>
    rw [token_of_issuer hmode]
    refine kept.issuer hmode h now .token trivial ?_
    rcases Issuer.token_cases i now with ⟨-, htoken⟩ | ⟨key, -, -, htoken⟩
    · simp only [Issuer.serve, Step.map, htoken, Step.keep]
    · simp only [Issuer.serve, Step.map, htoken]

theorem needsRenewal (kept : Kept P) (h : P c) (now : Instant) :
    P (c.needsRenewal now).state := by
  cases hmode : c.mode with
  | certificate m tls =>
    rw [needsRenewal_of_certificate hmode]
    exact h
  | token i tls =>
    rw [needsRenewal_of_issuer hmode]
    refine kept.issuer hmode h now .needsRenewal trivial ?_
    simp only [Issuer.serve, Step.map, Issuer.needsRenewal]
    split
    · rfl
    · rfl

theorem replaceCertificate (kept : Kept P) (h : P c) (files : Files.Tree) (p k : PemSource) :
    P (c.replaceCertificate files p k).state := by
  unfold Credentials.replaceCertificate
  -- Unless the new certificate can be presented, nothing changes.
  split
  · exact h
  · next m tls hmode =>
    simp only
    split
    · exact h
    · next m' tls' hpresent => exact kept.certificate hmode h hpresent

theorem replaceToken (kept : Kept P) (h : P c) (text : String) :
    P (c.replaceToken text).state := by
  unfold Credentials.replaceToken
  split
  · exact h
  · next i tls hmode =>
    split
    · exact h
    · next t hparse =>
      -- The issuer takes a token at any time, so any time will do.
      have now : Instant := ⟨0, by decide, by decide⟩
      exact kept.issuer hmode h now (.install t) (.parse hparse) rfl

theorem setTokenValidity (kept : Kept P) (h : P c) (v : Duration) : P (c.setTokenValidity v) := by
  unfold Credentials.setTokenValidity
  split
  · next i tls hmode => exact kept.validity hmode h v
  · exact h

/-- Connecting asks first whether the token is dead and then for the token. -/
theorem connect (kept : Kept P) (h : P c) (now : Instant) :
    P (Mqtt.Options.ofCredentials c now).state := by
  have hcheck : P (c.needsRenewal now).state := kept.needsRenewal h now
  unfold Mqtt.Options.ofCredentials
  simp only
  split
  · exact hcheck
  · exact kept.token hcheck now

/-- Serving a request keeps the property, whether the request is met or
    refused. -/
theorem serve (kept : Kept P) (h : P c) (w : World) (r : Request) : P (c.serve w r).state := by
  cases r with
  | token => exact kept.token h w.now
  | needsRenewal => exact kept.needsRenewal h w.now
  | replaceCertificate p k => exact kept.replaceCertificate h w.files p k
  | replaceToken text => exact kept.replaceToken h text
  | setTokenValidity v => exact kept.setTokenValidity h v
  | setUseWebsocket useWebsocket => exact kept.websocket h useWebsocket
  | connect => exact kept.connect h w.now

/-- Every history keeps the property. -/
theorem after (kept : Kept P) (h : P c) (history : List (World × Request)) :
    P (c.after history) :=
  Step.stateAfter_induct (P := P) (Q := fun _ => True)
    (fun _ r _ hc => kept.serve hc r.1 r.2) h (fun _ _ => trivial)

end Kept

end HubAuth.Credentials
