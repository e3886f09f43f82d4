import HubAuth.Files.Tree
import HubAuth.Proofs.Text.WellFormed

/-! # Reading files

  A file is read as the text whose bytes it holds, and as no other. All else is
  a fault, which tells where a path leads: nowhere, to a directory, or to a file
  that holds no text.

  * `read_eq_ok_iff`: what a file has to hold to be read.
  * `read_eq_error_iff`: why no text is read.
-/

namespace HubAuth.Files.Tree

variable {t : Tree} {path : Path}

/-! ### Texts in files -/

/-- A text is read from a file that holds just the bytes of it. -/
theorem read_eq_ok_iff {text : String} :
    t.read path = .ok text ↔ t.resolve path = .ok (.file (Text.Utf8.encode text.toList)) := by
  constructor
  · intro h
    unfold read at h
    split at h
    · cases h
    · cases h
    · next contents hnode =>
      split at h
      · next cs hdecode =>
        obtain rfl := Except.ok.inj h
        rw [hnode, Text.Utf8.decode?_eq_some_iff.mp hdecode, String.toList_ofList]
      · cases h
  · intro h
    simp only [read, h, Text.Utf8.decode?_encode, String.ofList_toList]

/-! ### Files without a text -/

/-- Why no text is read. -/
inductive Unreadable (t : Tree) (path : Path) : FileFault → Prop
  /-- The path leads nowhere, or may not be followed. -/
  | nowhere {cause : FileFault} (h : t.resolve path = .error cause) : Unreadable t path cause
  /-- It leads to a directory. -/
  | directory (h : t.resolve path = .ok .directory) : Unreadable t path .isADirectory
  /-- It leads to a file that does not hold the bytes of any text. -/
  | notText {contents : List UInt8} (h : t.resolve path = .ok (.file contents))
      (bytes : ∀ cs, contents ≠ Text.Utf8.encode cs) : Unreadable t path .notText

/-- A file that gives no text is unreadable for the cause that is reported. -/
theorem read_eq_error_iff {cause : FileFault} :
    t.read path = .error cause ↔ Unreadable t path cause := by
  constructor
  · intro h
    unfold read at h
    split at h
    · next cause' hnode =>
      obtain rfl := Except.error.inj h
      exact .nowhere hnode
    · next hnode =>
      obtain rfl := Except.error.inj h
      exact .directory hnode
    · next contents hnode =>
      split at h
      · cases h
      · next hdecode =>
        obtain rfl := Except.error.inj h
        refine .notText hnode ?_
        -- The bytes of a text would have been read.
        rintro cs rfl
        rw [Text.Utf8.decode?_encode] at hdecode
        cases hdecode
  · intro h
    cases h with
    | nowhere h => simp only [read, h]
    | directory h => simp only [read, h]
    | @notText contents h bytes =>
      have hdecode : Text.Utf8.decode? contents = none := by
        rw [Option.eq_none_iff_forall_not_mem]
        intro cs hcs
        exact bytes cs (Text.Utf8.decode?_eq_some_iff.mp hcs)
      simp only [read, h, hdecode]

/-- The same file from the root and from the working directory, and a file that
    may not be opened. -/
example :
    let t : Tree :=
      { entries := [(["etc", "c.pem"], .file (Text.Utf8.encode ['C'])), (["etc", "k.pem"], .file [])],
        locked := [["etc", "k.pem"]], workingDirectory := ["home", "d"] }
    (t.read ⟨"/etc/c.pem"⟩).toOption = some "C" ∧
      (t.read ⟨"../.././etc/c.pem"⟩).toOption = some "C" ∧
      t.read ⟨"/etc/k.pem"⟩ = .error .permissionDenied :=
  ⟨by decide +kernel, by decide +kernel, rfl⟩

end HubAuth.Files.Tree
