import HubAuth.Certificate.Material

/-! # Material that cannot be loaded

  Loading asks one thing after the other, and the first that is not as it must
  be decides how the material is refused. Both sources are asked for characters
  before a file is read, and the certificate is read before the key.

  * `Material.load_error_iff`: when material is refused, and how.
-/

namespace HubAuth

namespace PemSource

/-- Why a source gives no text. A text that is given directly is not refused. -/
inductive Refused (files : Files.Tree) (half : Half) : PemSource → Failure → Prop
  /-- The file cannot be read. -/
  | unreadable {path : Files.Path} {e : FileFault} (h : files.read path = .error e) :
      Refused files half (.file path) (.unreadable half path.text e)
  /-- The file has no characters. -/
  | emptyFile {path : Files.Path} (h : files.read path = .ok "") :
      Refused files half (.file path) (.credential (.emptyFile half path.text))

theorem load_error_iff {files : Files.Tree} {half : Half} {s : PemSource} {f : Failure} :
    (s.load files half).result = .error f ↔ Refused files half s f := by
  cases s with
  | literal pem =>
    constructor
    · intro h
      cases h
    · intro h
      cases h
  | file path =>
    simp only [load, Outcome.note, Outcome.ok_bind]
    constructor
    · intro h
      cases hread : files.read path with
      | error e =>
        rw [hread] at h
        obtain rfl := Except.error.inj h
        exact .unreadable hread
      | ok pem =>
        rw [hread] at h
        simp only at h
        split at h
        · next hempty =>
          obtain rfl := Except.error.inj h
          exact .emptyFile (hempty ▸ hread)
        · cases h
    · intro h
      cases h with
      | unreadable hread => rw [hread]; rfl
      | emptyFile hread => rw [hread]; rfl

end PemSource

namespace Material

/-- Why two sources give no material. -/
inductive Refused (files : Files.Tree) (p k : PemSource) : Failure → Prop
  /-- The source of the certificate has no characters. -/
  | emptyCertificate (hp : p.isEmpty = true) :
      Refused files p k (.credential (.emptyHalf .publicCertificate))
  /-- The source of the key has none. -/
  | emptyKey (hp : p.isEmpty = false) (hk : k.isEmpty = true) :
      Refused files p k (.credential (.emptyHalf .privateKey))
  /-- The certificate cannot be loaded. -/
  | certificate (hp : p.isEmpty = false) (hk : k.isEmpty = false) {f : Failure}
      (h : PemSource.Refused files .publicCertificate p f) : Refused files p k f
  /-- The certificate can be loaded and the key cannot. -/
  | key (hp : p.isEmpty = false) (hk : k.isEmpty = false) {pem : String}
      (hpem : (p.load files .publicCertificate).result = .ok pem) {f : Failure}
      (h : PemSource.Refused files .privateKey k f) : Refused files p k f

variable {files : Files.Tree} {p k : PemSource} {f : Failure}

/-- Sources with characters are loaded one after the other. -/
theorem load_of_not_isEmpty (hp : p.isEmpty = false) (hk : k.isEmpty = false) :
    load files p k = p.load files .publicCertificate >>= fun publicCertificate =>
      k.load files .privateKey >>= fun privateKey =>
        pure ⟨publicCertificate, privateKey, p.path?, k.path?⟩ := by
  simp only [load, hp, hk, Bool.false_eq_true, if_false]

/-- Sources with characters are refused where the first of them cannot be loaded. -/
theorem load_error_of_not_isEmpty (hp : p.isEmpty = false) (hk : k.isEmpty = false) :
    (load files p k).result = .error f ↔
      PemSource.Refused files .publicCertificate p f ∨
        ∃ pem, (p.load files .publicCertificate).result = .ok pem ∧
          PemSource.Refused files .privateKey k f := by
  rw [load_of_not_isEmpty hp hk, Outcome.bind_result_error, PemSource.load_error_iff]
  apply or_congr_right
  apply exists_congr
  intro pem
  rw [Outcome.bind_result_error, PemSource.load_error_iff]
  simp

/-- When material is refused, and how. -/
theorem load_error_iff : (load files p k).result = .error f ↔ Refused files p k f := by
  cases hp : p.isEmpty with
  | true =>
    simp only [load, hp, if_true]
    constructor
    · intro h
      obtain rfl := Except.error.inj h
      exact .emptyCertificate hp
    · intro h
      cases h with
      | emptyCertificate => rfl
      | emptyKey hp' | certificate hp' | key hp' => simp [hp] at hp'
  | false =>
    cases hk : k.isEmpty with
    | true =>
      simp only [load, hp, hk, Bool.false_eq_true, if_false, if_true]
      constructor
      · intro h
        obtain rfl := Except.error.inj h
        exact .emptyKey hp hk
      · intro h
        cases h with
        | emptyCertificate hp' => simp [hp] at hp'
        | emptyKey => rfl
        | certificate _ hk' | key _ hk' => simp [hk] at hk'
    | false =>
      rw [load_error_of_not_isEmpty hp hk]
      constructor
      · rintro (h | ⟨pem, hpem, h⟩)
        · exact .certificate hp hk h
        · exact .key hp hk hpem h
      · intro h
        cases h with
        | emptyCertificate hp' => simp [hp] at hp'
        | emptyKey _ hk' => simp [hk] at hk'
        | certificate _ _ h => exact .inl h
        | key _ _ hpem h => exact .inr ⟨_, hpem, h⟩

end Material

end HubAuth
