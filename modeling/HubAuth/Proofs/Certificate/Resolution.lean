import HubAuth.Proofs.Certificate.Snapshot
import HubAuth.Proofs.Files.Tree

/-! # What becomes of two sources

  Two sources become material, or a failure that says which of them is at fault.
  Whether one of them is empty is asked before any file is looked at. Only then
  the certificate is loaded, and only after it the key, so a bad file of the key
  shows only if the certificate is good.

  * `Material.load_eq_iff`: the rules, with what is logged.
  * `Material.sources_resolved`: what follows for all sources and files.
-/

namespace HubAuth

/-! ### Sources -/

namespace PemSource

variable {files : Files.Tree} {half : Half} {s : PemSource} {pem : String} {f : Failure}

/-- The source holds a text: its own, or one with characters in a file. -/
inductive Holds (files : Files.Tree) : PemSource → String → Prop
  /-- Its own. -/
  | literal (pem : String) : Holds files (.literal pem) pem
  /-- The file has just the bytes of the text. -/
  | file {path : Files.Path} {pem : String}
      (contents : files.resolve path = .ok (.file (Text.Utf8.encode pem.toList)))
      (pem_ne : pem ≠ "") : Holds files (.file path) pem

/-- The source holds no text, and how that is reported: with what it is for and
    where it was looked for. -/
inductive Faulty (files : Files.Tree) (half : Half) : PemSource → Failure → Prop
  /-- Its file cannot be read. -/
  | unreadable {path : Files.Path} {cause : FileFault} (h : files.Unreadable path cause) :
      Faulty files half (.file path) (.unreadable half path.text cause)
  /-- Its file is empty. -/
  | emptyFile {path : Files.Path} (contents : files.resolve path = .ok (.file [])) :
      Faulty files half (.file path) (.credential (.emptyFile half path.text))

/-- The failure is about the file at a path, and its wording says so. -/
inductive Tells (half : Half) (path : Files.Path) (f : Failure) : Prop
  /-- The file cannot be read. -/
  | unreadable {cause : FileFault} (failure : f = .unreadable half path.text cause)
      (wording : f.message = "failed to read " ++ half.label ++ " from " ++ path.text)
  /-- It is empty. -/
  | emptyFile (failure : f = .credential (.emptyFile half path.text))
      (wording : f.message
        = "invalid credential: " ++ (half.label ++ " file " ++ path.text ++ " is empty"))

theorem Faulty.tells (h : Faulty files half s f) : ∃ path, s = .file path ∧ Tells half path f := by
  cases h with
  | @unreadable path cause h => exact ⟨path, rfl, .unreadable rfl rfl⟩
  | @emptyFile path contents => exact ⟨path, rfl, .emptyFile rfl rfl⟩

theorem path?_eq_some_iff {path : Files.Path} : s.path? = some path ↔ s = .file path := by
  cases s with
  | literal pem => simp [path?]
  | file path' => simp [path?]

/-- A source with characters is loaded if it holds a text. -/
theorem load_eq_ok_iff (hs : s.isEmpty = false) :
    (s.load files half).result = .ok pem ↔ s.Holds files pem := by
  rw [load_ok_iff hs]
  constructor
  · intro h
    obtain ⟨hgives, hne⟩ := h
    cases hgives with
    | literal => exact .literal pem
    | file hread => exact .file (Files.Tree.read_eq_ok_iff.mp hread) hne
  · intro h
    cases h with
    | literal => exact ⟨.literal pem, by simpa [isEmpty] using hs⟩
    | file contents pem_ne => exact ⟨.file (Files.Tree.read_eq_ok_iff.mpr contents), pem_ne⟩

/-- Being refused is being faulty: the one is said of reading, the other of what
    the path leads to. -/
theorem refused_iff_faulty : Refused files half s f ↔ Faulty files half s f := by
  constructor
  · intro h
    cases h with
    | unreadable hread => exact .unreadable (Files.Tree.read_eq_error_iff.mp hread)
    | emptyFile hread => exact .emptyFile (Files.Tree.read_eq_ok_iff.mp hread)
  · intro h
    cases h with
    | unreadable h => exact .unreadable (Files.Tree.read_eq_error_iff.mpr h)
    | emptyFile contents => exact .emptyFile (Files.Tree.read_eq_ok_iff.mpr contents)

theorem load_eq_error_iff : (s.load files half).result = .error f ↔ Faulty files half s f := by
  rw [load_error_iff, refused_iff_faulty]

/-- A source holds a text or is faulty. -/
theorem holds_or_faulty (files : Files.Tree) (half : Half) (hs : s.isEmpty = false) :
    (∃ pem, s.Holds files pem) ∨ ∃ f, Faulty files half s f := by
  cases hload : (s.load files half).result with
  | ok pem => exact .inl ⟨pem, (load_eq_ok_iff hs).mp hload⟩
  | error f => exact .inr ⟨f, load_eq_error_iff.mp hload⟩

end PemSource

/-! ### Material -/

namespace Material

/-- What becomes of two sources, and what is logged. The first rule that applies
    decides. -/
inductive Resolution (files : Files.Tree) (p k : PemSource) : Outcome Material → Prop
  /-- The source of the certificate is empty. -/
  | emptyCertificate (hp : p.isEmpty = true) :
      Resolution files p k (.fail (.credential (.emptyHalf .publicCertificate)))
  /-- The source of the key is empty. -/
  | emptyKey (hp : p.isEmpty = false) (hk : k.isEmpty = true) :
      Resolution files p k (.fail (.credential (.emptyHalf .privateKey)))
  /-- The certificate is faulty. -/
  | certificate (hp : p.isEmpty = false) (hk : k.isEmpty = false) {f : Failure}
      (faulty : PemSource.Faulty files .publicCertificate p f) :
      Resolution files p k ⟨.error f, p.readings .publicCertificate⟩
  /-- The certificate is there and the key is faulty. -/
  | key (hp : p.isEmpty = false) (hk : k.isEmpty = false) {pem : String} (holds : p.Holds files pem)
      {f : Failure} (faulty : PemSource.Faulty files .privateKey k f) :
      Resolution files p k
        ⟨.error f, p.readings .publicCertificate ++ k.readings .privateKey⟩
  /-- Both are there. -/
  | loaded (hp : p.isEmpty = false) (hk : k.isEmpty = false) {pem key : String}
      (certificate : p.Holds files pem) (privateKey : k.Holds files key) :
      Resolution files p k
        ⟨.ok ⟨pem, key, p.path?, k.path?⟩, p.readings .publicCertificate ++ k.readings .privateKey⟩

variable {files : Files.Tree} {p k : PemSource} {o : Outcome Material}

theorem load_of_emptyCertificate (hp : p.isEmpty = true) (files : Files.Tree) (k : PemSource) :
    load files p k = .fail (.credential (.emptyHalf .publicCertificate)) := by
  simp only [load, hp, if_true]

theorem load_of_emptyKey (hp : p.isEmpty = false) (hk : k.isEmpty = true) (files : Files.Tree) :
    load files p k = .fail (.credential (.emptyHalf .privateKey)) := by
  simp only [load, hp, hk, Bool.false_eq_true, if_false, if_true]

/-- What a rule says is what is done. -/
theorem load_of_resolution (h : Resolution files p k o) : load files p k = o := by
  cases h with
  | emptyCertificate hp => exact load_of_emptyCertificate hp files k
  | emptyKey hp hk => exact load_of_emptyKey hp hk files
  | certificate hp hk faulty =>
    exact load_of_certificate_error hp hk (PemSource.load_eq_error_iff.mpr faulty)
  | key hp hk holds faulty =>
    exact load_of_key_error hp hk ((PemSource.load_eq_ok_iff hp).mpr holds)
      (PemSource.load_eq_error_iff.mpr faulty)
  | loaded hp hk certificate privateKey =>
    exact load_of_ok hp hk ((PemSource.load_eq_ok_iff hp).mpr certificate)
      ((PemSource.load_eq_ok_iff hk).mpr privateKey)

/-- One of the rules applies. -/
theorem exists_resolution (files : Files.Tree) (p k : PemSource) : ∃ o, Resolution files p k o := by
  -- The cases are those of the rules, in their order.
  by_cases hp : p.isEmpty = true
  · exact ⟨_, .emptyCertificate hp⟩
  by_cases hk : k.isEmpty = true
  · exact ⟨_, .emptyKey (by simpa using hp) hk⟩
  rw [Bool.not_eq_true] at hp hk
  rcases PemSource.holds_or_faulty files .publicCertificate hp with ⟨pem, hpem⟩ | ⟨f, hf⟩
  · rcases PemSource.holds_or_faulty files .privateKey hk with ⟨key, hkey⟩ | ⟨f, hf⟩
    · exact ⟨_, .loaded hp hk hpem hkey⟩
    · exact ⟨_, .key hp hk hpem hf⟩
  · exact ⟨_, .certificate hp hk hf⟩

/-- The rules are what is done. -/
theorem load_eq_iff : load files p k = o ↔ Resolution files p k o := by
  constructor
  · rintro rfl
    obtain ⟨o, ho⟩ := exists_resolution files p k
    rw [load_of_resolution ho]
    exact ho
  · exact load_of_resolution

/-- What becomes of two sources, as a caller sees it. -/
structure Resolved (files : Files.Tree) (p k : PemSource) : Prop where
  /-- The outcome is that of the rules. -/
  outcome : ∀ o, load files p k = o ↔ Resolution files p k o
  /-- There is material exactly if no source is empty and both hold a text. -/
  accepted : (∃ m, (load files p k).result = .ok m) ↔
    (p.isEmpty = false ∧ k.isEmpty = false) ∧ (∃ pem, p.Holds files pem) ∧
      ∃ key, k.Holds files key
  /-- Then it has these texts. -/
  texts : ∀ m, (load files p k).result = .ok m →
    p.Holds files m.publicCertificate ∧ k.Holds files m.privateKey
  /-- It has the paths of the sources that are files, as they were given. -/
  paths : ∀ m, (load files p k).result = .ok m → ∀ path,
    (m.publicPath = some path ↔ p = .file path) ∧ (m.privatePath = some path ↔ k = .file path)
  /-- If a source is empty, that is reported, and of the certificate first. Nothing
      is logged, and whatever files there are makes no difference. -/
  empty : p.isEmpty = true ∨ k.isEmpty = true → ∀ files', load files' p k =
    .fail (.credential (.emptyHalf (if p.isEmpty then .publicCertificate else .privateKey)))
  /-- If none is, a failure tells which file is at fault. -/
  told : p.isEmpty = false → k.isEmpty = false → ∀ f, (load files p k).result = .error f →
    (∃ path, p = .file path ∧ PemSource.Tells .publicCertificate path f) ∨
      ∃ path, k = .file path ∧ PemSource.Tells .privateKey path f
  /-- If the file of the certificate is at fault, no other file is read: any other
      key would have done as well, and any other files with this one as it is. -/
  unread : p.isEmpty = false → k.isEmpty = false → ∀ f,
    PemSource.Faulty files .publicCertificate p f →
      load files p k = ⟨.error f, p.readings .publicCertificate⟩ ∧
        ∀ files' k', k'.isEmpty = false →
          (∀ path, p = .file path → files'.resolve path = files.resolve path) →
            load files' p k' = load files p k

variable {m : Material} {f : Failure}

theorem holds_of_load (h : (load files p k).result = .ok m) :
    (p.isEmpty = false ∧ k.isEmpty = false) ∧ p.Holds files m.publicCertificate ∧
      k.Holds files m.privateKey ∧ m.publicPath = p.path? ∧ m.privatePath = k.path? := by
  have hrule : Resolution files p k (load files p k) := load_eq_iff.mp rfl
  -- Only the last rule gives material.
  generalize load files p k = o at hrule h
  cases hrule with
  | loaded hp hk certificate privateKey =>
    obtain rfl := Except.ok.inj h
    exact ⟨⟨hp, hk⟩, certificate, privateKey, rfl, rfl⟩
  | _ => cases h

theorem load_of_empty (h : p.isEmpty = true ∨ k.isEmpty = true) (files : Files.Tree) :
    load files p k =
      .fail (.credential (.emptyHalf (if p.isEmpty then .publicCertificate else .privateKey))) := by
  by_cases hp : p.isEmpty = true
  · rw [if_pos hp]
    exact load_of_emptyCertificate hp files k
  · rw [if_neg hp]
    rcases h with h | hk
    · exact absurd h hp
    · exact load_of_emptyKey (by simpa using hp) hk files

theorem told_of_load (hp : p.isEmpty = false) (hk : k.isEmpty = false)
    (h : (load files p k).result = .error f) :
    (∃ path, p = .file path ∧ PemSource.Tells .publicCertificate path f) ∨
      ∃ path, k = .file path ∧ PemSource.Tells .privateKey path f := by
  rcases (load_error_of_not_isEmpty hp hk).mp h with hrefused | ⟨pem, -, hrefused⟩
  · exact .inl (PemSource.refused_iff_faulty.mp hrefused).tells
  · exact .inr (PemSource.refused_iff_faulty.mp hrefused).tells

/-- A certificate at fault decides alone, as long as its own file stays as it is. -/
theorem load_of_faulty (hp : p.isEmpty = false) (hk : k.isEmpty = false)
    (hf : PemSource.Faulty files .publicCertificate p f) {files' : Files.Tree}
    (hfile : ∀ path, p = .file path → files'.resolve path = files.resolve path) :
    load files' p k = ⟨.error f, p.readings .publicCertificate⟩ := by
  have hread : ∀ path, p.path? = some path → files'.read path = files.read path := by
    intro path hpath
    simp only [Files.Tree.read, hfile path (PemSource.path?_eq_some_iff.mp hpath)]
  apply load_of_certificate_error hp hk
  rw [PemSource.load_of_read _ hread]
  exact PemSource.load_eq_error_iff.mpr hf

/-- **Sources of material**: it is asked first whether a source is empty, then
    the files are read in order, and what is in them is kept as it is. -/
theorem sources_resolved (files : Files.Tree) (p k : PemSource) : Resolved files p k := by
  constructor
  case outcome =>
    intro o
    exact load_eq_iff
  case accepted =>
    constructor
    · intro h
      obtain ⟨m, hm⟩ := h
      obtain ⟨hchars, hcertificate, hkey, -⟩ := holds_of_load hm
      exact ⟨hchars, ⟨_, hcertificate⟩, _, hkey⟩
    · intro h
      obtain ⟨⟨hp, hk⟩, ⟨pem, hpem⟩, key, hkey⟩ := h
      rw [load_of_resolution (.loaded hp hk hpem hkey)]
      exact ⟨_, rfl⟩
  case texts =>
    intro m hm
    obtain ⟨-, hcertificate, hkey, -⟩ := holds_of_load hm
    exact ⟨hcertificate, hkey⟩
  case paths =>
    intro m hm path
    obtain ⟨-, -, -, hpublic, hprivate⟩ := holds_of_load hm
    rw [hpublic, hprivate]
    exact ⟨PemSource.path?_eq_some_iff, PemSource.path?_eq_some_iff⟩
  case empty =>
    intro h files'
    exact load_of_empty h files'
  case told =>
    intro hp hk f h
    exact told_of_load hp hk h
  case unread =>
    intro hp hk f hf
    have hload := load_of_faulty hp hk hf (fun _ _ => rfl)
    refine ⟨hload, ?_⟩
    intro files' k' hk' hfile
    rw [hload]
    exact load_of_faulty hp hk' hf hfile

/-- An empty certificate is what is reported, also where the file of the key is
    missing. -/
example : load {} (.literal "") (.file ⟨"key.pem"⟩)
    = .fail (.credential (.emptyHalf .publicCertificate)) := by
  rfl

end Material

end HubAuth
