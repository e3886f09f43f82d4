import HubAuth.Proofs.Certificate.Snapshot
import HubAuth.Proofs.Credentials.Replacement
import HubAuth.Proofs.Credentials.Run
import HubAuth.Proofs.Files.Tree
import Mathlib.Data.List.Forall2

/-! # Certificates of credentials

  Credentials with a certificate hold what the sources gave that they were
  built with, or the sources of the last replacement that was granted, and a
  context in which this is presented. Files matter to replacements only: with
  other files everything else goes as it does, until a replacement is granted.

  * `attempt_present`: what comes of sources, and what is logged.
  * `certificateTurn_serve`: what one request does to a certificate.
  * `run_sameApart`: what other files do to a run.
  * `certificate_snapshot`: what credentials with a certificate hold.
-/

namespace HubAuth.Credentials

/-! ### What is held -/

/-- Material that was loaded from two sources, and the context that presents
    it. -/
structure Holds (files : Files.Tree) (p k : PemSource) (m : Material) (tls : TlsContext) :
    Prop where
  /-- The material is what the sources gave. -/
  snapshot : m.Snapshot files p k
  /-- The context can be built of the material at any time. -/
  context : (TlsContext.bothSides m).result = .ok tls
  /-- The certificate and the key can be read, belong together, and are not too
      weak. -/
  identity : ∃ i, tls.identity = some i ∧
    Certificate.ofPem? m.publicCertificate = some i.certificate ∧
    PrivateKey.ofPem? m.privateKey = some i.key ∧ i.key.publicHalf.isStrong = true
  /-- Both sides prove their identity. -/
  mode : tls.mode = .bothSides

variable {files : Files.Tree} {p k : PemSource} {m : Material} {tls : TlsContext}

theorem holds_of_present (h : (present files p k).result = .ok (m, tls)) :
    Holds files p k m tls := by
  obtain ⟨hload, hcontext⟩ := present_ok.mp h
  obtain ⟨-, -, hsnapshot⟩ := Material.load_ok_iff.mp hload
  obtain ⟨i, hi, hidentity⟩ := TlsContext.ofMaterial_ok.mp hcontext
  obtain ⟨hcertificate, hkey⟩ := Identity.ofMaterial_ok.mp hi
  obtain ⟨hstrong, roots, -, rfl⟩ := TlsContext.ofIdentity_ok.mp hidentity
  exact ⟨hsnapshot, TlsContext.bothSides_ok.mpr hcontext, ⟨i, rfl, hcertificate, hkey, hstrong⟩,
    TlsContext.mode_ofMaterial hcontext⟩

/-! ### How material is presented -/

/-- An attempt to present material from two sources: what comes of it, and what
    is logged on the way. -/
inductive Attempt (files : Files.Tree) (p k : PemSource) :
    Except Failure (Material × TlsContext) → List Entry → Prop
  /-- The source of the certificate has no characters. -/
  | emptyCertificate (hp : p.isEmpty = true) :
      Attempt files p k (.error (.credential (.emptyHalf .publicCertificate))) []
  /-- The source of the key has none. -/
  | emptyKey (hp : p.isEmpty = false) (hk : k.isEmpty = true) :
      Attempt files p k (.error (.credential (.emptyHalf .privateKey))) []
  /-- The certificate cannot be loaded. -/
  | certificate (hp : p.isEmpty = false) (hk : k.isEmpty = false) {f : Failure}
      (h : PemSource.Refused files .publicCertificate p f) :
      Attempt files p k (.error f) (p.readings .publicCertificate)
  /-- The certificate can be loaded and the key cannot. -/
  | key (hp : p.isEmpty = false) (hk : k.isEmpty = false) {pem : String} (hpem : p.Gives files pem)
      (hne : pem ≠ "") {f : Failure} (h : PemSource.Refused files .privateKey k f) :
      Attempt files p k (.error f) (p.readings .publicCertificate ++ k.readings .privateKey)
  /-- Both can be loaded, but give no context. -/
  | context (hp : p.isEmpty = false) (hk : k.isEmpty = false) {m : Material}
      (hm : m.Snapshot files p k) {cause : TlsFault} (h : TlsContext.Refused m cause) :
      Attempt files p k (.error (.tls cause))
        (p.readings .publicCertificate ++ k.readings .privateKey ++ [.buildingTls .bothSides])
  /-- They are presented. -/
  | presented (hp : p.isEmpty = false) (hk : k.isEmpty = false) {m : Material} {tls : TlsContext}
      (h : Holds files p k m tls) :
      Attempt files p k (.ok (m, tls))
        (p.readings .publicCertificate ++ k.readings .privateKey ++ [.buildingTls .bothSides])

/-- An attempt with material that can be loaded. -/
theorem attempt_of_load (hp : p.isEmpty = false) (hk : k.isEmpty = false)
    (hload : Material.load files p k =
      ⟨.ok m, p.readings .publicCertificate ++ k.readings .privateKey⟩) :
    Attempt files p k (present files p k).result (present files p k).log := by
  have hresult : (Material.load files p k).result = .ok m := congrArg Outcome.result hload
  obtain ⟨-, -, hsnapshot⟩ := Material.load_ok_iff.mp hresult
  cases hcontext : (TlsContext.bothSides m).result with
  | error f =>
    obtain ⟨cause, hcause, rfl⟩ := TlsContext.bothSides_error_iff.mp hcontext
    rw [present, hload, Outcome.ok_bind, Outcome.bind_of_error hcontext, TlsContext.log_bothSides]
    exact .context hp hk hsnapshot hcause
  | ok tls =>
    have hpresent := present_ok.mpr ⟨hresult, TlsContext.bothSides_ok.mp hcontext⟩
    rw [present, hload, Outcome.ok_bind, Outcome.bind_of_ok hcontext, TlsContext.log_bothSides]
    exact .presented hp hk (holds_of_present hpresent)

/-- An attempt is made whenever material is to be presented. -/
theorem attempt_present (files : Files.Tree) (p k : PemSource) :
    Attempt files p k (present files p k).result (present files p k).log := by
  cases hp : p.isEmpty with
  | true =>
    simp only [present, Material.load, hp, if_true]
    exact .emptyCertificate hp
  | false =>
    cases hk : k.isEmpty with
    | true =>
      simp only [present, Material.load, hp, hk, Bool.false_eq_true, if_false, if_true]
      exact .emptyKey hp hk
    | false =>
      cases hpem : (p.load files .publicCertificate).result with
      | error f =>
        rw [present, Material.load_of_certificate_error hp hk hpem]
        exact .certificate hp hk (PemSource.load_error_iff.mp hpem)
      | ok pem =>
        cases hkey : (k.load files .privateKey).result with
        | error f =>
          obtain ⟨hgives, hne⟩ := (PemSource.load_ok_iff hp).mp hpem
          rw [present, Material.load_of_key_error hp hk hpem hkey]
          exact .key hp hk hgives hne (PemSource.load_error_iff.mp hkey)
        | ok key => exact attempt_of_load hp hk (Material.load_of_ok hp hk hpem hkey)

/-! ### Beginnings -/

/-- Credentials that have just been built with the sources of a certificate. -/
inductive BuiltWithCertificate (files : Files.Tree) (p k : PemSource) :
    Endpoint → Config → Credentials → Prop
  /-- Directly. -/
  | withCertificate {e : Endpoint} {cfg : Config} {c : Credentials}
      (h : (withCertificate files e p k cfg).result = .ok c) : BuiltWithCertificate files p k e cfg c
  /-- By a builder that was given the sources. -/
  | build {b : Builder Endpoint} {now : Instant} {c : Credentials} (given : b.sources = some (p, k))
      (h : (b.build now files).result = .ok c) :
      BuiltWithCertificate files p k b.endpoint b.config c

variable {e : Endpoint} {cfg : Config} {c : Credentials}

theorem present_of_built (built : BuiltWithCertificate files p k e cfg c) :
    ∃ m tls, c.mode = .certificate m tls ∧ (present files p k).result = .ok (m, tls) := by
  have hbuilt : (withCertificate files e p k cfg).result = .ok c := by
    cases built with
    | withCertificate h => exact h
    | build given h => simpa only [Builder.build, given] using h
  obtain ⟨-, m, tls, hpresent, rfl⟩ := withCertificate_ok.mp hbuilt
  exact ⟨m, tls, rfl, hpresent⟩

/-! ### The last sources -/

/-- The certificate of two sources took the place of another. -/
def Event.Presents (ev : Event) (p k : PemSource) : Prop :=
  ev.request = .replaceCertificate p k ∧ ev.step.value = .ok .done

/-- There is another certificate than before. -/
def Event.Replaces (ev : Event) : Prop :=
  ∃ p k, ev.Presents p k

/-- No certificate was replaced. -/
def Unreplaced (events : List Event) : Prop :=
  ∀ ev ∈ events, ¬ev.Replaces

/-- The sources that a certificate was last taken from in a run, and the files
    that they referred to then; at the beginning it was taken from `p` and `k`. -/
inductive LastGiven (files : Files.Tree) (p k : PemSource) :
    List Event → Files.Tree → PemSource → PemSource → Prop
  /-- The certificate is still the first one. -/
  | first {events : List Event} (h : Unreplaced events) : LastGiven files p k events files p k
  /-- It was replaced, and then no more. -/
  | replaced {before rest : List Event} {ev : Event} {p' k' : PemSource} (h : ev.Presents p' k')
      (hrest : Unreplaced rest) :
      LastGiven files p k (before ++ ev :: rest) ev.world.files p' k'

/-! ### One request -/

/-- What an event does to the way of login `a`, which is `b` afterwards. -/
structure CertificateTurn (a : Mode) (ev : Event) (b : Mode) : Prop where
  /-- A replacement puts in place what its sources give at the time. -/
  replaced : ∀ p k, ev.Presents p k →
    ∃ m tls, (present ev.world.files p k).result = .ok (m, tls) ∧ b = .certificate m tls
  /-- Otherwise a certificate stays. -/
  kept : ¬ev.Replaces → ∀ m tls, a = .certificate m tls → b = .certificate m tls

/-- Only replacements touch a certificate. -/
theorem mode_of_certificate (hmode : c.mode = .certificate m tls) (w : World) {r : Request}
    (hr : ∀ p k, r ≠ .replaceCertificate p k) : (c.serve w r).state.mode = .certificate m tls := by
  rw [← hmode]
  cases r with
  | replaceCertificate p k => exact absurd rfl (hr p k)
  | token => simp only [serve, Step.map, token_of_certificate hmode, Step.keep]
  | needsRenewal => simp only [serve, Step.map, needsRenewal_of_certificate hmode, Step.keep]
  | replaceToken text => simp only [serve, Step.map, replaceToken_of_certificate hmode, Step.keep]
  | setTokenValidity v => simp only [serve, setTokenValidity, hmode, Step.keep]
  | setUseWebsocket b => rfl
  | connect => simp only [serve, Step.map, connect_of_certificate hmode]

/-- A replacement that is not granted leaves the credentials as they are. -/
theorem state_of_not_replaces {w : World}
    (h : ¬Event.Replaces ⟨w, .replaceCertificate p k, c.serve w (.replaceCertificate p k)⟩) :
    (c.serve w (.replaceCertificate p k)).state = c := by
  cases hvalue : (c.replaceCertificate w.files p k).value with
  | error f =>
    have hrefused : Refused c w (.replaceCertificate p k) f := replaceCertificate_error_iff.mp hvalue
    exact state_of_refused hrefused
  | ok a =>
    refine absurd ⟨p, k, rfl, ?_⟩ h
    simp only [serve, Step.map, hvalue]
    rfl

/-- What one request does to a certificate. -/
theorem certificateTurn_serve (c : Credentials) (w : World) (r : Request) :
    CertificateTurn c.mode ⟨w, r, c.serve w r⟩ (c.serve w r).state.mode where
  replaced := by
    rintro p k ⟨hrequest, hvalue⟩
    obtain rfl : r = .replaceCertificate p k := hrequest
    cases hmode : c.mode with
    | token i tls =>
      simp only [serve, Step.map, replaceCertificate_of_issuer hmode] at hvalue
      cases hvalue
    | certificate m tls =>
      cases hpresent : (present w.files p k).result with
      | error f =>
        simp only [serve, Step.map, replaceCertificate_of_error hmode hpresent] at hvalue
        cases hvalue
      | ok new =>
        refine ⟨new.1, new.2, rfl, ?_⟩
        simp only [serve, Step.map, replaceCertificate_of_ok hmode hpresent]
  kept := by
    intro hquiet m tls hmode
    by_cases hr : ∃ p k, r = .replaceCertificate p k
    · obtain ⟨p, k, rfl⟩ := hr
      rw [state_of_not_replaces hquiet]
      exact hmode
    · apply mode_of_certificate hmode w
      intro p k hrequest
      exact hr ⟨p, k, hrequest⟩

/-! ### Whole runs -/

theorem trail_certificate (c : Credentials) (history : List (World × Request)) :
    Step.Trail CertificateTurn c.mode (c.run history) (c.after history).mode :=
  Step.trail_events mode (fun c r => certificateTurn_serve c r.1 r.2) c history

/-- Without a replacement a certificate stays. -/
theorem kept_of_trail {a b : Mode} {events : List Event} (h : Step.Trail CertificateTurn a events b)
    (hquiet : Unreplaced events) (ha : a = .certificate m tls) : b = .certificate m tls := by
  refine (h.keeps (P := fun a => a = .certificate m tls) ?_ ha).1
  intro a ev b hev hturn ha
  exact hturn.kept (hquiet ev hev) m tls ha

/-- A certificate comes from the sources that were given last. -/
theorem present_of_run (hmode : c.mode = .certificate m tls)
    (hpresent : (present files p k).result = .ok (m, tls)) (history : List (World × Request)) :
    ∃ files' p' k' m' tls', LastGiven files p k (c.run history) files' p' k' ∧
      (c.after history).mode = .certificate m' tls' ∧
      (present files' p' k').result = .ok (m', tls') := by
  have htrail := trail_certificate c history
  rcases Step.none_or_last Event.Replaces (c.run history) with
    hquiet | ⟨before, ev, rest, hrun, ⟨p', k', hev⟩, hquiet⟩
  · exact ⟨files, p, k, m, tls, .first hquiet, kept_of_trail htrail hquiet hmode, hpresent⟩
  · rw [hrun] at htrail ⊢
    obtain ⟨a, -, hafter⟩ := htrail.of_append
    obtain ⟨b, hturn, hend⟩ := hafter.of_cons
    obtain ⟨m', tls', hnew, hb⟩ := hturn.replaced p' k' hev
    exact ⟨ev.world.files, p', k', m', tls', .replaced hev hquiet,
      kept_of_trail hend hquiet hb, hnew⟩

/-! ### Other files -/

/-- Two histories that ask for the same at the same times. The files may be
    different ones at every request. -/
def SameRequests : List (World × Request) → List (World × Request) → Prop :=
  List.Forall₂ fun x y => x.1.now = y.1.now ∧ x.2 = y.2

/-- Two events that cannot be told apart, except for what a replacement that was
    refused says. -/
structure SameApart (x y : Event) : Prop where
  /-- The same was asked. -/
  request : x.request = y.request
  /-- The same credentials are left. -/
  state : x.step.state = y.step.state
  /-- The same answer was given and the same logged, unless another certificate
      was asked for. -/
  step : (∀ p k, x.request ≠ .replaceCertificate p k) → x.step = y.step

/-- Only replacements look at files. -/
theorem serve_of_now {v w : World} (hnow : v.now = w.now) {r : Request}
    (hr : ∀ p k, r ≠ .replaceCertificate p k) : c.serve v r = c.serve w r := by
  cases r with
  | replaceCertificate p k => exact absurd rfl (hr p k)
  | token | needsRenewal | connect => simp only [serve, hnow]
  | replaceToken | setTokenValidity | setUseWebsocket => rfl

/-- With other files a request does the same, unless a certificate is replaced. -/
theorem sameApart_serve {v w : World} (hnow : v.now = w.now) (r : Request)
    (hv : ¬Event.Replaces ⟨v, r, c.serve v r⟩) (hw : ¬Event.Replaces ⟨w, r, c.serve w r⟩) :
    SameApart ⟨v, r, c.serve v r⟩ ⟨w, r, c.serve w r⟩ := by
  refine ⟨rfl, ?_, serve_of_now hnow⟩
  by_cases hr : ∃ p k, r = .replaceCertificate p k
  · obtain ⟨p, k, rfl⟩ := hr
    show (c.serve v _).state = (c.serve w _).state
    rw [state_of_not_replaces hv, state_of_not_replaces hw]
  · have hother : ∀ p k, r ≠ .replaceCertificate p k := fun p k h => hr ⟨p, k, h⟩
    show (c.serve v r).state = (c.serve w r).state
    rw [serve_of_now hnow hother]

/-- With other files a run goes the same way, until a certificate is replaced. -/
theorem run_sameApart {more more' : List (World × Request)} (hsame : SameRequests more more')
    (hquiet : Unreplaced (c.run more)) (hquiet' : Unreplaced (c.run more')) :
    List.Forall₂ SameApart (c.run more) (c.run more') := by
  induction hsame generalizing c with
  | nil => exact .nil
  | @cons x y rest rest' hxy _ ih =>
    obtain ⟨v, r⟩ := x
    obtain ⟨w, s⟩ := y
    obtain ⟨hnow, rfl⟩ := hxy
    obtain ⟨hv, hrest⟩ := List.forall_mem_cons.mp hquiet
    obtain ⟨hw, hrest'⟩ := List.forall_mem_cons.mp hquiet'
    have hfirst := sameApart_serve hnow r hv hw
    -- Both runs go on from the same credentials.
    have hstate : (c.serve v r).state = (c.serve w r).state := hfirst.state
    refine .cons hfirst ?_
    rw [hstate] at hrest ⊢
    exact ih hrest hrest'

/-- **Certificates are snapshots**: credentials that were built with a
    certificate have one at all times. It is what the sources gave that were
    given last, at the time they were given, and it is presented. Other files
    change nothing in a run, but for the refusals of replacements, until a
    replacement is granted. -/
theorem certificate_snapshot (built : BuiltWithCertificate files p k e cfg c)
    (history : List (World × Request)) :
    (∃ files' p' k' m tls, LastGiven files p k (c.run history) files' p' k' ∧
      (c.after history).mode = .certificate m tls ∧ Holds files' p' k' m tls) ∧
    ∀ more more', SameRequests more more' → Unreplaced ((c.after history).run more) →
      Unreplaced ((c.after history).run more') →
      List.Forall₂ SameApart ((c.after history).run more) ((c.after history).run more') := by
  obtain ⟨m, tls, hmode, hpresent⟩ := present_of_built built
  constructor
  · obtain ⟨files', p', k', m', tls', hlast, hafter, hnew⟩ := present_of_run hmode hpresent history
    exact ⟨files', p', k', m', tls', hlast, hafter, holds_of_present hnew⟩
  · intro more more' hsame hquiet hquiet'
    exact run_sameApart hsame hquiet hquiet'

/-- Wherever they are given, a certificate and its key are presented. -/
theorem exists_present_selfSigned (hp : p.isEmpty = false)
    (hcertificate : p.Gives files Material.selfSigned.publicCertificate) (hk : k.isEmpty = false)
    (hkey : k.Gives files Material.selfSigned.privateKey) :
    ∃ tls, (present files p k).result = .ok
      ({ Material.selfSigned with publicPath := p.path?, privatePath := k.path? }, tls) := by
  obtain ⟨tls, htls⟩ := TlsContext.exists_selfSigned p.path? k.path?
  have hne : Material.selfSigned.publicCertificate ≠ "" ∧ Material.selfSigned.privateKey ≠ "" := by
    decide +kernel
  refine ⟨tls, present_ok.mpr ⟨Material.load_ok_iff.mpr ⟨hp, hk, ?_⟩, htls⟩⟩
  exact ⟨hcertificate, hne.1, hkey, hne.2, rfl, rfl⟩

/-- The certificate is read from a file, which is gone when both are to be
    replaced and holds another text later. -/
theorem certificate_snapshot_file :
    let e : Endpoint := ⟨"h", "d", .certificate, by decide, by decide⟩
    let now : Instant := ⟨7, by decide, by decide⟩
    let holding (text : String) : Files.Tree :=
      { entries := [(["c.pem"], .file (Text.Utf8.encode text.toList))] }
    let files := holding Material.selfSigned.publicCertificate
    let p : PemSource := .file ⟨"c.pem"⟩
    let k : PemSource := .literal Material.selfSigned.privateKey
    let history : List (World × Request) :=
      [({ now }, .replaceCertificate p k), ({ now, files := holding "x" }, .connect)]
    let more (files : Files.Tree) : List (World × Request) :=
      [({ now, files }, .replaceToken "x"), ({ now, files }, .replaceCertificate p (.literal "")),
        ({ now, files }, .connect)]
    ∃ c, BuiltWithCertificate files p k e {} c ∧
      (∃ files' p' k' m tls, LastGiven files p k (c.run history) files' p' k' ∧
        (c.after history).mode = .certificate m tls ∧ Holds files' p' k' m tls) ∧
      List.Forall₂ SameApart ((c.after history).run (more (holding "x")))
        ((c.after history).run (more {})) := by
  intro e now holding files p k history more
  have hcertificate : p.Gives files Material.selfSigned.publicCertificate :=
    .file (Files.Tree.read_eq_ok_iff.mpr rfl)
  obtain ⟨tls, hpresent⟩ :=
    exists_present_selfSigned (k := k) rfl hcertificate (by decide +kernel) (.literal _)
  let m : Material := { Material.selfSigned with publicPath := some ⟨"c.pem"⟩ }
  let c : Credentials := { endpoint := e, config := {}, mode := .certificate m tls }
  have hc : (withCertificate files e p k {}).result = .ok c :=
    withCertificate_ok.mpr ⟨rfl, m, tls, hpresent, rfl⟩
  have hbuilt : BuiltWithCertificate files p k e {} c := .withCertificate hc
  obtain ⟨hholds, hfiles⟩ := certificate_snapshot hbuilt history
  have hstays : c.after history = c := rfl
  have hquiet : ∀ files, Unreplaced ((c.after history).run (more files)) := by
    rw [hstays]
    intro files ev hev hreplaces
    obtain ⟨p', k', hrequest, hvalue⟩ := hreplaces
    -- Only the second request is for a certificate, and its key has no characters.
    rcases List.mem_cons.mp hev with rfl | hev
    · cases hrequest
    rcases List.mem_cons.mp hev with rfl | hev
    · cases hvalue
    obtain rfl := List.mem_singleton.mp hev
    cases hrequest
  refine ⟨c, hbuilt, hholds, hfiles _ _ ?_ (hquiet _) (hquiet _)⟩
  exact .cons ⟨rfl, rfl⟩ (.cons ⟨rfl, rfl⟩ (.cons ⟨rfl, rfl⟩ .nil))

end HubAuth.Credentials
