import HubAuth.Proofs.Certificate.Material

/-! # Material as a snapshot

  Material holds what its sources gave when it was loaded: a text as it was
  given, or what was in a file at that time. Files are not looked at again, and
  of a path only the writing is kept.

  * `PemSource.load_ok_iff`, `PemSource.log_load`: what a source gives, and what
    is logged.
  * `Material.load_ok_iff`: when material is loaded, and what it holds.
-/

namespace HubAuth

namespace PemSource

/-! ### What sources give -/

/-- The text that a source gives: its own, or what its file holds. -/
inductive Gives (files : Files.Tree) : PemSource → String → Prop
  /-- The text itself. -/
  | literal (pem : String) : Gives files (.literal pem) pem
  /-- What the file holds. -/
  | file {path : Files.Path} {pem : String} (h : files.read path = .ok pem) :
      Gives files (.file path) pem

/-- What is logged when a source is loaded: that its file is read. -/
def readings (half : Half) : PemSource → List Entry
  | .literal _ => []
  | .file path => [.reading half path.text]

theorem log_load (files : Files.Tree) (half : Half) (s : PemSource) :
    (s.load files half).log = s.readings half := by
  cases s with
  | literal pem => rfl
  | file path =>
    simp only [load, Outcome.note, Outcome.ok_bind]
    -- Whatever is in the file, no more is logged.
    split
    · rfl
    · split
      · rfl
      · rfl

/-- A source with characters is loaded if it gives a text with characters. -/
theorem load_ok_iff {files : Files.Tree} {half : Half} {s : PemSource} {pem : String}
    (hs : s.isEmpty = false) :
    (s.load files half).result = .ok pem ↔ s.Gives files pem ∧ pem ≠ "" := by
  cases s with
  | literal text =>
    have htext : text ≠ "" := by simpa [isEmpty] using hs
    constructor
    · intro h
      obtain rfl : text = pem := Except.ok.inj h
      exact ⟨.literal text, htext⟩
    · rintro ⟨h, -⟩
      cases h
      rfl
  | file path =>
    simp only [load, Outcome.note, Outcome.ok_bind]
    constructor
    · intro h
      cases hread : files.read path with
      | error e =>
        rw [hread] at h
        cases h
      | ok text =>
        rw [hread] at h
        simp only at h
        split at h
        · cases h
        · next hne =>
          obtain rfl := Except.ok.inj h
          exact ⟨.file hread, hne⟩
    · rintro ⟨h, hne⟩
      cases h with
      | file hread =>
        simp only [hread, if_neg hne]
        rfl

/-- A source is loaded alike from files that agree on its own. -/
theorem load_of_read {files files' : Files.Tree} {s : PemSource} (half : Half)
    (h : ∀ path, s.path? = some path → files.read path = files'.read path) :
    s.load files half = s.load files' half := by
  cases s with
  | literal pem => rfl
  | file path => simp only [load, h path rfl]

end PemSource

namespace Material

/-! ### What material holds -/

/-- The material holds what two sources give, and where it comes from. -/
structure Snapshot (files : Files.Tree) (p k : PemSource) (m : Material) : Prop where
  /-- The certificate is the text that the first source gives. -/
  certificate : p.Gives files m.publicCertificate
  /-- It has characters. -/
  certificate_ne : m.publicCertificate ≠ ""
  /-- The key is the text that the second source gives. -/
  key : k.Gives files m.privateKey
  /-- It has characters. -/
  key_ne : m.privateKey ≠ ""
  /-- The path of the first source is kept. -/
  publicPath : m.publicPath = p.path?
  /-- The path of the second source is kept. -/
  privatePath : m.privatePath = k.path?

variable {files : Files.Tree} {p k : PemSource} {m : Material}

/-- Sources with characters that give texts with characters give material. -/
theorem load_of_ok (hp : p.isEmpty = false) (hk : k.isEmpty = false) {pem key : String}
    (hpem : (p.load files .publicCertificate).result = .ok pem)
    (hkey : (k.load files .privateKey).result = .ok key) :
    load files p k = ⟨.ok ⟨pem, key, p.path?, k.path?⟩,
      p.readings .publicCertificate ++ k.readings .privateKey⟩ := by
  rw [load_of_not_isEmpty hp hk, Outcome.bind_of_ok hpem, Outcome.bind_of_ok hkey,
    PemSource.log_load, PemSource.log_load, Outcome.pure_eq, List.append_nil]

/-- After a certificate that cannot be loaded, the key is not read. -/
theorem load_of_certificate_error (hp : p.isEmpty = false) (hk : k.isEmpty = false) {f : Failure}
    (hpem : (p.load files .publicCertificate).result = .error f) :
    load files p k = ⟨.error f, p.readings .publicCertificate⟩ := by
  rw [load_of_not_isEmpty hp hk, Outcome.bind_of_error hpem, PemSource.log_load]

theorem load_of_key_error (hp : p.isEmpty = false) (hk : k.isEmpty = false) {pem : String}
    {f : Failure} (hpem : (p.load files .publicCertificate).result = .ok pem)
    (hkey : (k.load files .privateKey).result = .error f) :
    load files p k =
      ⟨.error f, p.readings .publicCertificate ++ k.readings .privateKey⟩ := by
  rw [load_of_not_isEmpty hp hk, Outcome.bind_of_ok hpem, Outcome.bind_of_error hkey,
    PemSource.log_load, PemSource.log_load]

/-- Material is loaded alike from files that agree on those of its sources. -/
theorem load_of_read {files' : Files.Tree}
    (hp : ∀ path, p.path? = some path → files.read path = files'.read path)
    (hk : ∀ path, k.path? = some path → files.read path = files'.read path) :
    load files p k = load files' p k := by
  simp only [load, PemSource.load_of_read _ hp, PemSource.load_of_read _ hk]

/-- Of files, only those of the sources are read. -/
theorem reading_of_load {half : Half} {text : String}
    (h : .reading half text ∈ (load files p k).log) :
    .reading half text ∈ p.readings .publicCertificate ++ k.readings .privateKey := by
  unfold load at h
  split at h
  · cases h
  split at h
  · cases h
  · rw [Outcome.mem_log_bind, PemSource.log_load] at h
    rw [List.mem_append]
    apply h.imp_right
    intro h
    obtain ⟨pem, -, h⟩ := h
    rw [Outcome.mem_log_bind, PemSource.log_load] at h
    rcases h with h | ⟨key, -, h⟩
    · exact h
    · cases h

/-- Material is loaded from sources with characters if it is a snapshot of them. -/
theorem load_ok_iff :
    (load files p k).result = .ok m ↔
      p.isEmpty = false ∧ k.isEmpty = false ∧ Snapshot files p k m := by
  cases hp : p.isEmpty with
  | true => simp [load, hp, Outcome.fail]
  | false =>
    cases hk : k.isEmpty with
    | true => simp [load, hp, hk, Outcome.fail]
    | false =>
      simp only [load_of_not_isEmpty hp hk, Outcome.bind_result_ok, PemSource.load_ok_iff hp,
        PemSource.load_ok_iff hk, true_and]
      constructor
      · rintro ⟨pem, ⟨hpem, hpne⟩, key, ⟨hkey, hkne⟩, h⟩
        obtain rfl := Except.ok.inj h
        exact ⟨hpem, hpne, hkey, hkne, rfl, rfl⟩
      · intro h
        refine ⟨_, ⟨h.certificate, h.certificate_ne⟩, _, ⟨h.key, h.key_ne⟩, ?_⟩
        rw [← h.publicPath, ← h.privatePath]
        rfl

end Material

end HubAuth
