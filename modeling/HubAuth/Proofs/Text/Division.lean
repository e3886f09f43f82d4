import HubAuth.Text.Blank
import Mathlib.Data.List.Basic
import Mathlib.Data.List.Forall2

/-! # Dividing texts

  What it means that a text is divided at its separators and trimmed of white
  space, said without the functions that do it.

  * `splitOn_eq_iff`: the pieces between separators hold none, and joined by
    separators they are the text.
  * `trim_eq_iff`: what is left has no white space at its ends, and nothing but
    white space was taken away.
  * `map_toLower_eq_iff`: a word may be written with capitals.
-/

namespace HubAuth.Text

/-! ### Separators -/

/-- The pieces of a list between its separators. -/
structure Divided {α : Type} (sep : α) (xs : List α) (ps : List (List α)) : Prop where
  /-- There is at least one piece. -/
  some_piece : ps ≠ []
  /-- With a separator between any two they are the list. -/
  joined : xs = [sep].intercalate ps
  /-- No piece holds a separator. -/
  whole : ∀ p ∈ ps, sep ∉ p

variable {α : Type} [DecidableEq α] {sep : α} {xs : List α} {ps : List (List α)}

theorem not_mem_of_mem_splitOn (sep : α) (xs : List α) : ∀ p ∈ xs.splitOn sep, sep ∉ p := by
  induction xs with
  | nil => simp
  | cons x xs ih =>
    rw [List.splitOn_cons_eq_if_modifyHead]
    split
    · intro p hp
      rcases List.mem_cons.mp hp with rfl | hp
      · exact List.not_mem_nil
      · exact ih p hp
    · next hx =>
      -- Only the first piece grows, and not by a separator.
      obtain ⟨first, rest, hsplit⟩ := List.exists_cons_of_ne_nil (List.splitOn_ne_nil sep xs)
      rw [hsplit] at ih ⊢
      intro p hp
      rcases List.mem_cons.mp hp with rfl | hp
      · intro hmem
        rcases List.mem_cons.mp hmem with rfl | hmem
        · exact hx (beq_self_eq_true _)
        · exact ih first List.mem_cons_self hmem
      · exact ih p (List.mem_cons_of_mem _ hp)

/-- A list is divided at its separators in one way. -/
theorem splitOn_eq_iff : xs.splitOn sep = ps ↔ Divided sep xs ps := by
  constructor
  · rintro rfl
    exact ⟨List.splitOn_ne_nil sep xs, (List.intercalate_splitOn sep).symm,
      not_mem_of_mem_splitOn sep xs⟩
  · intro h
    rw [h.joined]
    exact List.splitOn_intercalate sep h.whole h.some_piece

/-! ### White space -/

/-- There is no white space at the ends. -/
structure Tight (cs : List Char) : Prop where
  /-- The text does not begin with white space. -/
  first : ∀ c ∈ cs.head?, isBlank c = false
  /-- The text does not end with white space. -/
  last : ∀ c ∈ cs.getLast?, isBlank c = false

/-- One text is another with white space around it. -/
def Padded (cs core : List Char) : Prop :=
  ∃ left right, cs = left ++ core ++ right ∧ (∀ c ∈ left, isBlank c = true) ∧
    ∀ c ∈ right, isBlank c = true

theorem head?_dropWhile (p : Char → Bool) (cs : List Char) :
    ∀ c ∈ (cs.dropWhile p).head?, p c = false := by
  intro c hc
  have h := List.head?_dropWhile_not p cs
  rw [Option.mem_def.mp hc] at h
  exact h

theorem padded_trim (cs : List Char) : Padded cs (trim cs) := by
  refine ⟨cs.takeWhile isBlank, ((cs.dropWhile isBlank).reverse.takeWhile isBlank).reverse,
    ?_, ?_, ?_⟩
  · rw [List.append_assoc]
    unfold trim
    rw [← List.reverse_append, List.takeWhile_append_dropWhile, List.reverse_reverse,
      List.takeWhile_append_dropWhile]
  · exact List.all_eq_true.mp List.all_takeWhile
  · intro c hc
    exact List.all_eq_true.mp List.all_takeWhile c (List.mem_reverse.mp hc)

theorem tight_trim (cs : List Char) : Tight (trim cs) := by
  constructor
  · -- What is taken from the end leaves a prefix, so its head is an old one.
    intro c hc
    have hprefix : trim cs <+: cs.dropWhile isBlank := by
      rw [trim, ← List.reverse_suffix, List.reverse_reverse]
      exact List.dropWhile_suffix _
    obtain ⟨rest, hrest⟩ := hprefix
    apply head?_dropWhile isBlank cs
    rw [← hrest, List.head?_append, Option.mem_def.mp hc]
    rfl
  · intro c hc
    rw [trim, List.getLast?_reverse] at hc
    exact head?_dropWhile isBlank _ c hc

theorem dropWhile_blank {left core : List Char} (hleft : ∀ c ∈ left, isBlank c = true)
    (hcore : ∀ c ∈ core.head?, isBlank c = false) : (left ++ core).dropWhile isBlank = core := by
  rw [List.dropWhile_append_of_pos hleft]
  cases core with
  | nil => rfl
  | cons c cs =>
    have hc := hcore c rfl
    exact List.dropWhile_cons_of_neg (by simp [hc])

theorem trim_of_padded {cs core : List Char} (tight : Tight core) (h : Padded cs core) :
    trim cs = core := by
  obtain ⟨left, right, rfl, hleft, hright⟩ := h
  unfold trim
  by_cases hcore : core = []
  · subst hcore
    have hall : ∀ c ∈ left ++ right, isBlank c = true := by
      intro c hc
      rcases List.mem_append.mp hc with hc | hc
      · exact hleft c hc
      · exact hright c hc
    have hnone : (left ++ right ++ []).dropWhile isBlank = [] := dropWhile_blank hall (by simp)
    rw [List.append_nil] at hnone ⊢
    rw [hnone]
    rfl
  · have hfirst : ∀ c ∈ (core ++ right).head?, isBlank c = false := by
      rw [List.head?_append_of_ne_nil _ hcore]
      exact tight.first
    have hlast : ∀ c ∈ core.reverse.head?, isBlank c = false := by
      rw [List.head?_reverse]
      exact tight.last
    have hright' : ∀ c ∈ right.reverse, isBlank c = true :=
      fun c hc => hright c (List.mem_reverse.mp hc)
    rw [List.append_assoc, dropWhile_blank hleft hfirst, List.reverse_append,
      dropWhile_blank hright' hlast, List.reverse_reverse]

/-- Trimming takes white space from both ends, and all of it. -/
theorem trim_eq_iff {cs core : List Char} : trim cs = core ↔ Tight core ∧ Padded cs core := by
  constructor
  · rintro rfl
    exact ⟨tight_trim cs, padded_trim cs⟩
  · intro h
    exact trim_of_padded h.1 h.2

/-! ### Letters -/

theorem toNat_toLower (c : Char) :
    c.toLower.toNat = if 65 ≤ c.toNat ∧ c.toNat ≤ 90 then c.toNat + 32 else c.toNat := by
  have hiff : c.val ≥ 'A'.val ∧ c.val ≤ 'Z'.val ↔ 65 ≤ c.toNat ∧ c.toNat ≤ 90 := by
    simp only [ge_iff_le, UInt32.le_iff_toNat_le]
    rfl
  unfold Char.toLower
  by_cases h : 65 ≤ c.toNat ∧ c.toNat ≤ 90
  · rw [dif_pos (hiff.mpr h), if_pos h]
    show (c.val + 32).toNat = c.toNat + 32
    rw [UInt32.toNat_add]
    show (c.toNat + 32) % 4294967296 = c.toNat + 32
    omega
  · rw [dif_neg (mt hiff.mp h), if_neg h]

theorem toNat_toUpper (c : Char) :
    c.toUpper.toNat = if 97 ≤ c.toNat ∧ c.toNat ≤ 122 then c.toNat - 32 else c.toNat := by
  have hiff : 'a'.val ≤ c.val ∧ c.val ≤ 'z'.val ↔ 97 ≤ c.toNat ∧ c.toNat ≤ 122 := by
    simp only [UInt32.le_iff_toNat_le]
    rfl
  unfold Char.toUpper
  by_cases h : 97 ≤ c.toNat ∧ c.toNat ≤ 122
  · rw [dif_pos (hiff.mpr h), if_pos h]
    -- The difference wraps around.
    show (c.val + 4294967264).toNat = c.toNat - 32
    rw [UInt32.toNat_add]
    show (c.toNat + 4294967264) % 4294967296 = c.toNat - 32
    omega
  · rw [dif_neg (mt hiff.mp h), if_neg h]

/-- A character is a given small letter but for its case exactly if it is that
    letter or its capital. -/
theorem toLower_eq_iff {c d : Char} (hd : 97 ≤ d.toNat ∧ d.toNat ≤ 122) :
    c.toLower = d ↔ c = d ∨ c = d.toUpper := by
  rw [← Char.toNat_inj, ← Char.toNat_inj, ← Char.toNat_inj, toNat_toLower, toNat_toUpper,
    if_pos hd]
  split
  · omega
  · omega

/-- A text is a given word in small letters but for its case exactly if this
    holds letter by letter. -/
theorem map_toLower_eq_iff {cs ds : List Char} (hds : ∀ d ∈ ds, 97 ≤ d.toNat ∧ d.toNat ≤ 122) :
    cs.map Char.toLower = ds ↔ List.Forall₂ (fun c d => c = d ∨ c = d.toUpper) cs ds := by
  induction ds generalizing cs with
  | nil => rw [List.map_eq_nil_iff, List.forall₂_nil_right_iff]
  | cons d ds ih =>
    rw [List.forall_mem_cons] at hds
    rw [List.map_eq_cons_iff, List.forall₂_cons_right_iff]
    simp only [toLower_eq_iff hds.1, ih hds.2]
    constructor
    · intro h
      obtain ⟨c, cs', rfl, hc, hcs⟩ := h
      exact ⟨c, cs', hc, hcs, rfl⟩
    · intro h
      obtain ⟨c, cs', hc, hcs, rfl⟩ := h
      exact ⟨c, cs', rfl, hc, hcs⟩

end HubAuth.Text
