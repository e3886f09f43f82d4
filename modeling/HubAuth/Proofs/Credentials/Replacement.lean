import HubAuth.Proofs.Certificate.Material
import HubAuth.Proofs.Credentials.History
import HubAuth.Proofs.Except
import HubAuth.Proofs.Token.Refusal

/-! # Replacements that fail

  A replacement is refused at one of about a dozen points, and at some of them
  new material has already been read, or even a context been built of it. At
  none of them have the credentials been touched. So a replacement that fails
  may be left out of a history, and nothing else in it will be different.

  * `serve_error_iff`: when a replacement fails, and why.
  * `state_of_refused`: then the credentials are what they were.
  * `failed_replacement_atomic`: and so is everything that follows.
-/

namespace HubAuth.Credentials

/-! ### Points of refusal -/

/-- The request is to replace a certificate or a token. -/
def Request.IsReplacement : Request → Prop
  | .replaceCertificate .. | .replaceToken _ => True
  | _ => False

/-- Why a replacement is refused. -/
inductive Refused (c : Credentials) (w : World) : Request → Failure → Prop
  /-- The device logs in with a token and is given a certificate. -/
  | certificateForToken {i : Issuer} {tls : TlsContext} (hmode : c.mode = .token i tls)
      (p k : PemSource) : Refused c w (.replaceCertificate p k) (.state .certificateForToken)
  /-- The new material cannot be loaded. -/
  | material {m : Material} {tls : TlsContext} (hmode : c.mode = .certificate m tls)
      {p k : PemSource} {f : Failure} (h : Material.Refused w.files p k f) :
      Refused c w (.replaceCertificate p k) f
  /-- The new material can be loaded, but gives no context. -/
  | context {m : Material} {tls : TlsContext} (hmode : c.mode = .certificate m tls)
      {p k : PemSource} {new : Material} (hnew : (Material.load w.files p k).result = .ok new)
      {cause : TlsFault} (h : TlsContext.Refused new cause) :
      Refused c w (.replaceCertificate p k) (.tls cause)
  /-- The device logs in with a certificate and is given a token. -/
  | tokenForCertificate {m : Material} {tls : TlsContext} (hmode : c.mode = .certificate m tls)
      (text : String) : Refused c w (.replaceToken text) (.state .tokenForCertificate)
  /-- The text is no token. -/
  | token {i : Issuer} {tls : TlsContext} (hmode : c.mode = .token i tls) {text : String}
      {cause : CredentialFault} (h : Token.Refused text cause) :
      Refused c w (.replaceToken text) (.credential cause)

theorem present_error_iff {files : Files.Tree} {p k : PemSource} {f : Failure} :
    (present files p k).result = .error f ↔
      Material.Refused files p k f ∨
        ∃ m, (Material.load files p k).result = .ok m ∧
          ∃ cause, TlsContext.Refused m cause ∧ f = .tls cause := by
  unfold present
  rw [Outcome.bind_result_error, Material.load_error_iff]
  apply or_congr_right
  apply exists_congr
  intro m
  rw [Outcome.bind_result_error, TlsContext.bothSides_error_iff]
  simp

variable {c : Credentials} {w : World} {r : Request} {f : Failure}

/-- When a certificate is not replaced, and why; the credentials stay. -/
theorem replaceCertificate_error_iff {p k : PemSource} :
    (c.replaceCertificate w.files p k).value = .error f ↔
      Refused c w (.replaceCertificate p k) f := by
  cases hmode : c.mode with
  | token i tls =>
    rw [replaceCertificate_of_issuer hmode]
    constructor
    · intro h
      obtain rfl := Except.error.inj h
      exact .certificateForToken hmode p k
    · intro h
      cases h with
      | certificateForToken => rfl
      | material hmode' | context hmode' => exact (token_ne_certificate hmode hmode').elim
  | certificate m tls =>
    have hvalue : (c.replaceCertificate w.files p k).value = .error f ↔
        (present w.files p k).result = .error f := by
      cases hpresent : (present w.files p k).result with
      | error e => rw [replaceCertificate_of_error hmode hpresent]; simp
      | ok new => rw [replaceCertificate_of_ok hmode hpresent]; simp
    rw [hvalue, present_error_iff]
    constructor
    · rintro (h | ⟨new, hnew, cause, h, rfl⟩)
      · exact .material hmode h
      · exact .context hmode hnew h
    · intro h
      cases h with
      | certificateForToken hmode' => exact (token_ne_certificate hmode' hmode).elim
      | material _ h => exact .inl h
      | context _ hnew h => exact .inr ⟨_, hnew, _, h, rfl⟩

/-- When a token is not replaced, and why. -/
theorem replaceToken_error_iff {text : String} :
    (c.replaceToken text).value = .error f ↔ Refused c w (.replaceToken text) f := by
  cases hmode : c.mode with
  | certificate m tls =>
    rw [replaceToken_of_certificate hmode]
    constructor
    · intro h
      obtain rfl := Except.error.inj h
      exact .tokenForCertificate hmode text
    · intro h
      cases h with
      | tokenForCertificate => rfl
      | token hmode' => exact (token_ne_certificate hmode' hmode).elim
  | token i tls =>
    constructor
    · intro h
      cases hparse : Token.parse text with
      | ok t =>
        rw [replaceToken_of_parse hmode hparse] at h
        cases h
      | error cause =>
        rw [replaceToken_of_error hmode hparse] at h
        obtain rfl := Except.error.inj h
        exact .token hmode (Token.parse_error_iff.mp hparse)
    · intro h
      cases h with
      | tokenForCertificate hmode' => exact (token_ne_certificate hmode hmode').elim
      | token _ h =>
        rw [replaceToken_of_error hmode (Token.parse_error_iff.mpr h)]
        rfl

/-- When a replacement fails, and why. -/
theorem serve_error_iff (hr : r.IsReplacement) :
    (c.serve w r).value = .error f ↔ Refused c w r f := by
  cases r with
  | replaceCertificate p k =>
    rw [← replaceCertificate_error_iff]
    exact Except.map_eq_error_iff
  | replaceToken text =>
    rw [← replaceToken_error_iff]
    exact Except.map_eq_error_iff
  | token | needsRenewal | setTokenValidity | setUseWebsocket | connect => cases hr

/-- A replacement that fails leaves the credentials as they are. -/
theorem state_of_refused (h : Refused c w r f) : (c.serve w r).state = c := by
  cases h with
  | certificateForToken hmode =>
    simp only [serve, Step.map, replaceCertificate_of_issuer hmode, Step.keep]
  | material hmode h =>
    have hpresent := present_error_iff.mpr (.inl h)
    simp only [serve, Step.map, replaceCertificate_of_error hmode hpresent]
  | context hmode hnew h =>
    have hpresent := present_error_iff.mpr (.inr ⟨_, hnew, _, h, rfl⟩)
    simp only [serve, Step.map, replaceCertificate_of_error hmode hpresent]
  | tokenForCertificate hmode =>
    simp only [serve, Step.map, replaceToken_of_certificate hmode, Step.keep]
  | token hmode h =>
    have hparse := Token.parse_error_iff.mpr h
    simp only [serve, Step.map, replaceToken_of_error hmode hparse, Step.keep]

/-! ### Leaving a request out -/

/-- A request after a history has no effect: the credentials are what they
    were, and whatever follows goes as if the request had not been made. -/
structure NoEffect (c : Credentials) (history : List (World × Request)) (w : World)
    (r : Request) : Prop where
  /-- All parts of the credentials are the same as before. -/
  state : c.after (history ++ [(w, r)]) = c.after history
  /-- The requests that follow get the same answers, leave the same credentials
      and log the same entries, with the request as without it. -/
  later : ∀ more, ∃ rest,
    c.serveAll (history ++ (w, r) :: more)
      = c.serveAll history ++ (c.after history).serve w r :: rest ∧
    c.serveAll (history ++ more) = c.serveAll history ++ rest

theorem noEffect_of_state {history : List (World × Request)}
    (h : ((c.after history).serve w r).state = c.after history) : NoEffect c history w r where
  state := by
    rw [after_append]
    exact h
  later := by
    intro more
    refine ⟨(c.after history).serveAll more, ?_, serveAll_append c history more⟩
    rw [serveAll_append, serveAll_cons, h]

/-- **Replacements are made whole or not at all**: after every history, a
    replacement fails exactly for one of the reasons listed, and if it does, the
    credentials and everything that is asked of them later are as if it had not
    been tried. -/
theorem failed_replacement_atomic (c : Credentials) (history : List (World × Request)) (w : World)
    {r : Request} (hr : r.IsReplacement) (f : Failure) :
    (((c.after history).serve w r).value = .error f ↔ Refused (c.after history) w r f) ∧
      (((c.after history).serve w r).value = .error f → NoEffect c history w r) := by
  refine ⟨serve_error_iff hr, ?_⟩
  intro h
  have hrefused : Refused (c.after history) w r f := (serve_error_iff hr).mp h
  exact noEffect_of_state (state_of_refused hrefused)

/-- A token from elsewhere has expired, and that has been reported. A text whose
    expiry is no number does not take its place, and the report stays made. -/
theorem failed_replacement_atomic_stuck :
    let e : Endpoint := ⟨"h", "d", .sharedToken Token.foreign.text, by decide, by decide⟩
    let w : World := { now := ⟨10, by decide, by decide⟩ }
    let history : List (World × Request) := [(w, .needsRenewal)]
    let r : Request := .replaceToken "SharedAccessSignature sr=h&sig=x&se=1x"
    ∃ c i tls, Built e {} c ∧ (c.after history).mode = .token i tls ∧ i.stuckReported = true ∧
      r.IsReplacement ∧
      ((c.after history).serve w r).value = .error (.credential (.tokenExpiry "1x")) ∧
      NoEffect c history w r := by
  intro e w history r
  let i : Issuer := .ofToken .foreign (.ofSecs 3600)
  have hi : (issuerFor w.now e {}).result = .ok i :=
    issuerFor_ok.mpr (.inr ⟨_, _, rfl, Token.parse_foreign, rfl⟩)
  obtain ⟨tls, hbuilt⟩ := exists_built hi
  let c : Credentials := { endpoint := e, config := {}, mode := .token i tls }
  have hstuck : i.isStuck w.now = true := by decide
  have hmode : (c.after history).mode = .token { i with stuckReported := true } tls := by
    show (c.serve w .needsRenewal).state.mode = _
    have hneeds := needsRenewal_of_issuer (c := c) rfl w.now
    rw [Issuer.needsRenewal_of_stuck hstuck] at hneeds
    simp only [serve, Step.map, hneeds]
  have hfields : Text.Form.fields "sr=h&sig=x&se=1x".toList
      = [("sr".toList, ['h']), ("sig".toList, ['x']), ("se".toList, ['1', 'x'])] := by
    decide +kernel
  have hrefused : Token.Refused "SharedAccessSignature sr=h&sig=x&se=1x"
      (.tokenExpiry (String.ofList ['1', 'x'])) := by
    have hstart : "SharedAccessSignature sr=h&sig=x&se=1x".toList
        = Token.marker ++ "sr=h&sig=x&se=1x".toList := by decide +kernel
    refine .expiry hstart ?_
    rw [hfields]
    refine .there ?_ (.there ?_ (.here (by decide +kernel)))
    · intro h
      exact absurd h (by decide)
    · intro h
      exact absurd h (by decide)
  obtain ⟨hiff, hatomic⟩ := failed_replacement_atomic c history w (r := r) trivial
    (.credential (.tokenExpiry "1x"))
  have hfails := hiff.mpr (.token hmode hrefused)
  exact ⟨c, _, tls, hbuilt, hmode, rfl, trivial, hfails, hatomic hfails⟩

end HubAuth.Credentials
