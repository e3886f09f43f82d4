import HubAuth.Proofs.Credentials.Mode
import HubAuth.Proofs.Credentials.Snapshot

/-! # Replacing a certificate or building with it

  Credentials can be given another certificate, and others can be built with it
  for the same endpoint. The two ways ask different things first, about the
  credentials or about the endpoint. Once credentials have a certificate they
  have an endpoint that asks for one, and from there on the two go the same way.

  * `withCertificate_of_ok`, `withCertificate_of_error`: how building goes.
  * `replacement_as_rebuilt`: replacing goes like that.
-/

namespace HubAuth.Credentials

variable {files : Files.Tree} {e : Endpoint} {p k : PemSource} {cfg : Config} {c : Credentials}
  {m : Material} {tls : TlsContext}

/-! ### Building with a certificate -/

/-- Material that cannot be presented is reported, with all that was logged. -/
theorem withCertificate_of_error (login : e.usesCertificate = true) {f : Failure}
    (hpresent : (present files p k).result = .error f) :
    withCertificate files e p k cfg = { result := .error f, log := (present files p k).log } := by
  rw [withCertificate, if_pos login, Outcome.bind_of_error hpresent]

theorem withCertificate_of_ok (login : e.usesCertificate = true)
    (hpresent : (present files p k).result = .ok (m, tls)) :
    withCertificate files e p k cfg =
      { result := .ok { endpoint := e, config := cfg, mode := .certificate m tls }
        log := (present files p k).log ++ [.createdCertificate e.hostName e.deviceId] } := by
  rw [withCertificate, if_pos login, Outcome.bind_of_ok hpresent]
  rfl

/-- Credentials are built alike from files that agree on those of the sources. -/
theorem withCertificate_of_read {files' : Files.Tree}
    (hp : ∀ path, p.path? = some path → files.read path = files'.read path)
    (hk : ∀ path, k.path? = some path → files.read path = files'.read path) :
    withCertificate files e p k cfg = withCertificate files' e p k cfg := by
  simp only [withCertificate, present, Material.load_of_read hp hk]

/-- Of files, only those of the sources are read. -/
theorem reading_of_withCertificate {half : Half} {text : String}
    (h : .reading half text ∈ (withCertificate files e p k cfg).log) :
    .reading half text ∈ p.readings .publicCertificate ++ k.readings .privateKey := by
  unfold withCertificate at h
  split at h
  · rw [Outcome.mem_log_bind, present, Outcome.mem_log_bind] at h
    rcases h with (h | ⟨m, -, h⟩) | ⟨⟨m, tls⟩, -, h⟩
    · exact Material.reading_of_load h
    · rw [Outcome.mem_log_bind, TlsContext.log_bothSides] at h
      simp at h
    · simp [Outcome.note] at h
  · cases h

/-! ### Both ways -/

/-- A replacement of the certificate of `c`, which ends with `x`, goes as building
    with the same two sources does, which ends with `y`. -/
structure AsRebuilt (files : Files.Tree) (p k : PemSource) (c : Credentials)
    (x : Step Credentials (Except Failure Unit)) (y : Outcome Credentials) : Prop where
  /-- Either both are granted or none is. -/
  granted : x.value = .ok () ↔ ∃ d, y.result = .ok d
  /-- They are refused for the same reason. -/
  refused : ∀ f, x.value = .error f ↔ y.result = .error f
  /-- By then both have logged the same, which is what the sources give rise to,
      and nothing has changed. -/
  untouched : ∀ f, y.result = .error f →
    Attempt files p k (.error f) y.log ∧ x.log = y.log ∧ x.state = c
  /-- What is granted is the same material in the same context. The endpoint and
      the configuration stay, and only the last entries of the logs differ. -/
  replaced : ∀ d, y.result = .ok d → ∃ m tls shared, Attempt files p k (.ok (m, tls)) shared ∧
    d.mode = .certificate m tls ∧ x.state = { c with mode := .certificate m tls } ∧
    x.log = shared ++ [.replacedCertificate c.endpoint.deviceId] ∧
    y.log = shared ++ [.createdCertificate d.endpoint.hostName d.endpoint.deviceId]

/-- Credentials that have a certificate, and an endpoint that asks for one,
    replace it as they would be built. -/
theorem asRebuilt_of_certificate (hmode : c.mode = .certificate m tls)
    (login : c.endpoint.usesCertificate = true) (files : Files.Tree) (p k : PemSource)
    (cfg : Config) :
    AsRebuilt files p k c (c.replaceCertificate files p k)
      (withCertificate files c.endpoint p k cfg) := by
  have hattempt := attempt_present files p k
  cases hpresent : (present files p k).result with
  | error f =>
    rw [hpresent] at hattempt
    rw [replaceCertificate_of_error hmode hpresent, withCertificate_of_error login hpresent]
    constructor
    case granted => simp
    case refused => simp
    case untouched =>
      intro f' hf
      obtain rfl : f = f' := Except.error.inj hf
      exact ⟨hattempt, rfl, rfl⟩
    case replaced =>
      intro d hd
      cases hd
  | ok new =>
    obtain ⟨m', tls'⟩ := new
    rw [hpresent] at hattempt
    rw [replaceCertificate_of_ok hmode hpresent, withCertificate_of_ok login hpresent]
    constructor
    case granted => simp
    case refused => simp
    case untouched =>
      intro f hf
      cases hf
    case replaced =>
      intro d hd
      obtain rfl := Except.ok.inj hd
      exact ⟨m', tls', (present files p k).log, hattempt, rfl, rfl, rfl, rfl⟩

/-- **Replacing is like rebuilding**: however credentials were built and
    whatever was asked of them since, if they have a certificate then to replace
    it goes as building credentials for their endpoint with the new one does,
    whatever the files hold and whatever configuration these are built with. -/
theorem replacement_as_rebuilt (built : Built e cfg c) (history : List (World × Request))
    (htype : (c.after history).authType = .certificate) (files : Files.Tree) (p k : PemSource)
    (config : Config) :
    AsRebuilt files p k (c.after history) ((c.after history).replaceCertificate files p k)
      (withCertificate files (c.after history).endpoint p k config) := by
  have h : Consistent e cfg (c.after history) := consistent_after built history
  cases hmode : (c.after history).mode with
  | token i tls => simp [authType, hmode] at htype
  | certificate m tls =>
    have hfits := h.mode
    rw [hmode] at hfits
    cases hfits with
    | certificate login presented validity =>
      rw [← h.endpoint] at login
      exact asRebuilt_of_certificate hmode login files p k config

/-- A certificate is to be replaced, at first by none, and then by the same one
    from a file. -/
theorem replacement_as_rebuilt_selfSigned :
    let e : Endpoint := ⟨"h", "d", .certificate, by decide, by decide⟩
    let w : World := { now := ⟨7, by decide, by decide⟩ }
    let files : Files.Tree := { entries := [(["c.pem"],
      .file (Text.Utf8.encode Material.selfSigned.publicCertificate.toList))] }
    let k : PemSource := .literal Material.selfSigned.privateKey
    let history : List (World × Request) :=
      [(w, .replaceCertificate (.literal "") k), (w, .connect)]
    ∃ c, Built e {} c ∧ (c.after history).authType = .certificate ∧
      AsRebuilt files (.file ⟨"c.pem"⟩) k (c.after history)
        ((c.after history).replaceCertificate files (.file ⟨"c.pem"⟩) k)
        (withCertificate files (c.after history).endpoint (.file ⟨"c.pem"⟩) k {}) ∧
      ((c.after history).replaceCertificate files (.file ⟨"c.pem"⟩) k).value = .ok () := by
  intro e w files k history
  let p : PemSource := .literal Material.selfSigned.publicCertificate
  have hcertificate : p.Gives {} Material.selfSigned.publicCertificate := .literal _
  have hkey : ∀ files, k.Gives files Material.selfSigned.privateKey := fun _ => .literal _
  obtain ⟨tls, hpresent⟩ :=
    exists_present_selfSigned (by decide +kernel) hcertificate (by decide +kernel) (hkey {})
  let c : Credentials := { endpoint := e, config := {}, mode := .certificate .selfSigned tls }
  have hbuilt : Built e {} c :=
    .withCertificate (withCertificate_ok.mpr ⟨rfl, _, tls, hpresent, rfl⟩)
  have hstays : c.after history = c := rfl
  have hrebuilt := replacement_as_rebuilt hbuilt history (hstays ▸ rfl) files (.file ⟨"c.pem"⟩) k {}
  refine ⟨c, hbuilt, hstays ▸ rfl, hrebuilt, ?_⟩
  have hfile : (PemSource.file ⟨"c.pem"⟩).Gives files Material.selfSigned.publicCertificate :=
    .file (Files.Tree.read_eq_ok_iff.mpr rfl)
  obtain ⟨tls', hnew⟩ := exists_present_selfSigned rfl hfile (by decide +kernel) (hkey files)
  have hlogin : (c.after history).endpoint.usesCertificate = true := by
    rw [hstays]
    rfl
  apply hrebuilt.granted.mpr
  rw [withCertificate_of_ok hlogin hnew]
  exact ⟨_, rfl⟩

end HubAuth.Credentials
