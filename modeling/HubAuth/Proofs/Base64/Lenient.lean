import HubAuth.Proofs.Base64.Bits
import HubAuth.Proofs.Except

/-! # What lenient decoding gives

  White space and padding mean nothing, wherever they stand. If symbols are
  left, they are decoded to the octets that they carry. If something else is
  left, decoding fails, with one exception: a character that stands alone over
  whole groups of four is cut off unseen.

  * `decodeLenient_of_symbols`: what symbols are decoded to.
  * `decodeLenient_of_foreign`: when a text with a foreign character is decoded.
  * `cleaned_of_respaced`: what may be done to a text without changing its symbols.
-/

namespace HubAuth.Base64

variable {cs ds : List Char} {bs : List UInt8}

/-! ### Cleaning -/

theorem mem_cleaned_iff {c : Char} :
    c ∈ cleaned cs ↔ c ∈ cs ∧ Text.isBlank c = false ∧ c ≠ '=' := by
  simp [cleaned]

/-- A text is another one in which signs of padding may be left out, and in
    which padding and blanks may be put in anywhere. -/
inductive Respaced : List Char → List Char → Prop
  /-- Nothing is done. -/
  | nil : Respaced [] []
  /-- A character stays. -/
  | keep {cs ds : List Char} (c : Char) (rest : Respaced cs ds) : Respaced (c :: cs) (c :: ds)
  /-- A sign of padding is left out. -/
  | leaveOut {cs ds : List Char} (rest : Respaced cs ds) : Respaced ('=' :: cs) ds
  /-- Padding or a blank is put in. -/
  | putIn {cs ds : List Char} {c : Char} (h : Text.isBlank c = true ∨ c = '=')
      (rest : Respaced cs ds) : Respaced cs (c :: ds)

/-- The symbols stay the same and in their order. -/
theorem cleaned_of_respaced (h : Respaced cs ds) : cleaned ds = cleaned cs := by
  induction h with
  | nil => rfl
  | keep c rest ih =>
    rw [cleaned, cleaned] at ih
    simp only [cleaned, List.filter_cons, ih]
  | leaveOut rest ih => exact ih
  | @putIn cs ds c hc rest ih =>
    have hout : (!Text.isBlank c && c != '=') = false := by
      rcases hc with hblank | hpad
      · simp [hblank]
      · simp [hpad]
    rw [← ih]
    simp only [cleaned, List.filter_cons, hout, Bool.false_eq_true, if_false]

/-! ### Values -/

/-- There are values exactly for symbols, and they are their places. -/
theorem mapM_value?_eq_some_iff {vs : List Nat} :
    cs.mapM value? = some vs ↔ (∀ c ∈ cs, c ∈ alphabet) ∧ vs = cs.map alphabet.idxOf := by
  induction cs generalizing vs with
  | nil => simp [eq_comm]
  | cons c cs ih =>
    rw [List.mapM_cons, value?_eq]
    by_cases hc : c ∈ alphabet
    · rw [if_pos hc]
      cases hrest : cs.mapM value? with
      | none =>
        have hnone : ¬∀ d ∈ cs, d ∈ alphabet := by
          intro hall
          have hsome := ih.mpr ⟨hall, rfl⟩
          rw [hrest] at hsome
          cases hsome
        simp [hnone]
      | some us =>
        obtain ⟨hall, rfl⟩ := ih.mp hrest
        simp only [Option.bind_eq_bind, Option.bind_some, Option.pure_def, Option.some.injEq,
          List.map_cons, List.forall_mem_cons]
        constructor
        · rintro rfl
          exact ⟨⟨hc, hall⟩, rfl⟩
        · rintro ⟨-, rfl⟩
          rfl
    · rw [if_neg hc]
      simp [hc]

/-- Counting the position of the symbols does not change their values. -/
theorem toOption_values (offset : Nat) (cs : List Char) :
    (values offset cs).toOption = cs.mapM value? := by
  induction cs generalizing offset with
  | nil => rfl
  | cons c cs ih =>
    rw [List.mapM_cons, ← ih (offset + 1), values]
    cases value? c with
    | none => rfl
    | some v =>
      cases values (offset + 1) cs with
      | error e => rfl
      | ok vs => rfl

theorem values_eq_ok_iff (offset : Nat) {vs : List Nat} :
    values offset cs = .ok vs ↔ (∀ c ∈ cs, c ∈ alphabet) ∧ vs = cs.map alphabet.idxOf := by
  rw [← mapM_value?_eq_some_iff, ← toOption_values offset, Except.toOption_eq_some_iff]

/-! ### Decoding -/

/-- Decoding looks for characters outside ASCII everywhere, and for other
    foreign ones in what it does not cut off. -/
theorem decodeLenient_eq_ok_iff :
    decodeLenient cs = .ok bs ↔
      (∀ c ∈ cleaned cs, c.toNat < 128) ∧ Carry (wholeOctets (cleaned cs)) bs := by
  unfold decodeLenient
  simp only
  split
  · next hany =>
    obtain ⟨c, hc, hhigh⟩ := List.any_eq_true.mp hany
    have hcode : 128 ≤ c.toNat := of_decide_eq_true hhigh
    constructor
    · intro h
      cases h
    · rintro ⟨hascii, -⟩
      have := hascii c hc
      omega
  · next hany =>
    have hascii : ∀ c ∈ cleaned cs, c.toNat < 128 := by
      intro c hc
      have hlow : ¬128 ≤ c.toNat := by
        intro hhigh
        exact hany (List.any_eq_true.mpr ⟨c, hc, decide_eq_true hhigh⟩)
      omega
    rw [carry_iff]
    cases hvalues : values 0 (wholeOctets (cleaned cs)) with
    | error e =>
      constructor
      · intro h
        cases h
      · rintro ⟨-, hall, -⟩
        have hok := (values_eq_ok_iff 0).mpr ⟨hall, rfl⟩
        rw [hvalues] at hok
        cases hok
    | ok vs =>
      obtain ⟨hall, rfl⟩ := (values_eq_ok_iff 0).mp hvalues
      constructor
      · intro h
        exact ⟨hascii, hall, (Except.ok.inj h).symm⟩
      · rintro ⟨-, -, rfl⟩
        rfl

theorem wholeOctets_of_ne (h : cs.length % 4 ≠ 1) : wholeOctets cs = cs :=
  if_neg h

theorem wholeOctets_concat {c : Char} (h : cs.length % 4 = 0) : wholeOctets (cs ++ [c]) = cs := by
  have hlone : (cs ++ [c]).length % 4 = 1 := by
    rw [List.length_append, List.length_singleton]
    omega
  rw [wholeOctets, if_pos hlone, List.dropLast_concat]

/-- A text whose length is one over whole groups is such groups and a last
    character. -/
theorem exists_concat (h : cs.length % 4 = 1) :
    ∃ group c, cs = group ++ [c] ∧ group.length % 4 = 0 := by
  have hne : cs ≠ [] := by
    rintro rfl
    cases h
  refine ⟨cs.dropLast, cs.getLast hne, (List.dropLast_append_getLast hne).symm, ?_⟩
  rw [List.length_dropLast]
  omega

/-- Symbols are decoded to the octets that they carry. -/
theorem decodeLenient_of_symbols (h : ∀ c ∈ cleaned cs, c ∈ alphabet) :
    decodeLenient cs = .ok bs ↔ Carry (cleaned cs) bs := by
  have hascii : ∀ c ∈ cleaned cs, c.toNat < 128 := fun c hc => (alphabet_plain (h c hc)).2.2
  rw [decodeLenient_eq_ok_iff]
  by_cases hlone : (cleaned cs).length % 4 = 1
  · obtain ⟨group, c, hgroup, hwhole⟩ := exists_concat hlone
    have hc : c ∈ alphabet := h c (by simp [hgroup])
    -- The symbol that is cut off carries nothing.
    rw [hgroup, wholeOctets_concat hwhole, carry_concat_iff hc hwhole, ← hgroup]
    exact and_iff_right hascii
  · rw [wholeOctets_of_ne hlone]
    exact and_iff_right hascii

/-! ### Foreign characters -/

/-- Whole groups of symbols, and after them one character of ASCII alone that is
    no symbol. -/
structure LoneForeign (cs group : List Char) (c : Char) : Prop where
  /-- There is nothing else. -/
  text : cs = group ++ [c]
  /-- The groups are full. -/
  whole : group.length % 4 = 0
  /-- They are made of symbols. -/
  symbols : ∀ d ∈ group, d ∈ alphabet
  /-- The last character is no symbol. -/
  foreign : c ∉ alphabet
  /-- It is a character of ASCII. -/
  ascii : c.toNat < 128

/-- A text with a character other than symbols, padding and blanks is decoded
    only if this character stands alone over whole groups. What it is decoded
    to is what the groups carry. -/
theorem decodeLenient_of_foreign (h : ∃ c ∈ cleaned cs, c ∉ alphabet) :
    decodeLenient cs = .ok bs ↔ ∃ group c, LoneForeign (cleaned cs) group c ∧ Carry group bs := by
  obtain ⟨foreign, hforeign, hnone⟩ := h
  rw [decodeLenient_eq_ok_iff]
  constructor
  · rintro ⟨hascii, hcarry⟩
    by_cases hlone : (cleaned cs).length % 4 = 1
    · obtain ⟨group, c, hgroup, hwhole⟩ := exists_concat hlone
      rw [hgroup, wholeOctets_concat hwhole] at hcarry
      -- The groups are symbols, so the foreign character is the last one.
      have hlast : c ∉ alphabet := by
        rw [hgroup, List.mem_append, List.mem_singleton] at hforeign
        rcases hforeign with hmem | rfl
        · exact absurd (hcarry.symbols foreign hmem) hnone
        · exact hnone
      have hcode : c.toNat < 128 := hascii c (by simp [hgroup])
      exact ⟨group, c, ⟨hgroup, hwhole, hcarry.symbols, hlast, hcode⟩, hcarry⟩
    · rw [wholeOctets_of_ne hlone] at hcarry
      exact absurd (hcarry.symbols foreign hforeign) hnone
  · rintro ⟨group, c, hlone, hcarry⟩
    refine ⟨?_, ?_⟩
    · intro d hd
      rw [hlone.text, List.mem_append, List.mem_singleton] at hd
      rcases hd with hd | rfl
      · exact (alphabet_plain (hlone.symbols d hd)).2.2
      · exact hlone.ascii
    · rw [hlone.text, wholeOctets_concat hlone.whole]
      exact hcarry

end HubAuth.Base64
