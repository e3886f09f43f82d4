import HubAuth.Proofs.Base64.Lenient

/-! # Canonical texts

  Strict decoding accepts canonical texts, which are described here by where
  their padding stands and by the bits that no octet takes. It decodes them to
  the octets that their symbols carry, which is what lenient decoding gives too.

  * `decodeStrict?_eq_some_iff`: what strict decoding accepts, and what it gives.
  * `decodeLenient_of_strict`: lenient decoding extends strict decoding.
-/

namespace HubAuth.Base64

variable {cs body : List Char} {bs : List UInt8}

/-! ### The description -/

/-- The symbols of a text, without its padding. -/
def unpadded (cs : List Char) : List Char :=
  cs.filter (· != '=')

/-- A canonical text. -/
structure Canonical (cs : List Char) : Prop where
  /-- It is made of symbols and padding. -/
  characters : ∀ c ∈ cs, c = '=' ∨ c ∈ alphabet
  /-- Nothing but padding follows padding. -/
  last : ∀ before after, cs = before ++ '=' :: after → ∀ c ∈ after, c = '='
  /-- Padding stands in the third or fourth place of its group of four. -/
  place : ∀ before after, cs = before ++ '=' :: after → 2 ≤ before.length % 4
  /-- No character stands alone over whole groups. -/
  length : cs.length % 4 ≠ 1
  /-- The bits that fill no octet are zero. -/
  unused : ∀ bit ∈ (bitString (unpadded cs)).drop (8 * (6 * (unpadded cs).length / 8)), bit = false

/-! ### Unused bits -/

theorem unusedBitsZero_iff {vs : List Nat} (h : ∀ v ∈ vs, v < 64) (hlone : vs.length % 4 ≠ 1) :
    unusedBitsZero vs = true ↔
      ∀ bit ∈ (sextetBits vs).drop (8 * (6 * vs.length / 8)), bit = false := by
  induction vs using octets.induct with
  | case1 a b c d vs ih =>
    have hrest : vs.length % 4 ≠ 1 := by
      simp only [List.length_cons] at hlone
      omega
    rw [unusedBitsZero_group, sextetBits_group, wholeBits_group, List.drop_length_add_append]
    exact ih (fun v hv => h v (by simp [hv])) hrest
  | case2 a b c =>
    have hzero : ∀ v < 64, (v % 4 == 0) = true ↔ ∀ bit ∈ bits 2 v, bit = false := by decide
    rw [sextetBits_three, List.drop_left' (by simp)]
    exact hzero c (h c (by simp))
  | case3 a b =>
    have hzero : ∀ v < 64, (v % 16 == 0) = true ↔ ∀ bit ∈ bits 4 v, bit = false := by decide
    rw [sextetBits_two, List.drop_left' (by simp)]
    exact hzero b (h b (by simp))
  | case4 vs hfour hthree htwo =>
    obtain rfl | ⟨a, rfl⟩ := nil_or_single hfour hthree htwo
    · simp [unusedBitsZero]
    · exact absurd rfl hlone

/-! ### Symbols and then padding -/

/-- A text in which nothing but padding follows padding is divided in two. -/
theorem exists_divided (h : ∀ before after, cs = before ++ '=' :: after → ∀ c ∈ after, c = '=') :
    ∃ body n, cs = body ++ List.replicate n '=' ∧ '=' ∉ body := by
  by_cases hpad : '=' ∈ cs
  · obtain ⟨body, after, rfl, hbody⟩ := List.eq_append_cons_of_mem hpad
    have hafter : after = List.replicate after.length '=' :=
      List.eq_replicate_iff.mpr ⟨rfl, h body after rfl⟩
    refine ⟨body, after.length + 1, ?_, hbody⟩
    rw [List.replicate_succ, ← hafter]
  · exact ⟨cs, 0, by simp, hpad⟩

theorem unpadded_divided (hbody : '=' ∉ body) (n : Nat) :
    unpadded (body ++ List.replicate n '=') = body := by
  have hsymbols : body.filter (· != '=') = body := by
    rw [List.filter_eq_self]
    intro c hc
    have hne : c ≠ '=' := fun heq => hbody (heq ▸ hc)
    simpa using hne
  rw [unpadded, List.filter_append, hsymbols]
  simp

/-- Padding stands behind the symbols. -/
theorem length_le_of_divided (hbody : '=' ∉ body) {n : Nat} {before after : List Char}
    (h : body ++ List.replicate n '=' = before ++ '=' :: after) :
    body.length ≤ before.length ∧ before.length < body.length + n := by
  have hlength := congrArg List.length h
  simp only [List.length_append, List.length_replicate, List.length_cons] at hlength
  refine ⟨?_, by omega⟩
  by_contra hlt
  -- The sign of padding would be one of the symbols.
  have hat : (before ++ '=' :: after)[before.length]? = some '=' := by simp
  rw [← h, List.getElem?_append_left (by omega)] at hat
  exact hbody (List.mem_of_getElem? hat)

theorem padding_of_divided (hbody : '=' ∉ body) {n : Nat} {before after : List Char}
    (h : body ++ List.replicate n '=' = before ++ '=' :: after) : ∀ c ∈ after, c = '=' := by
  obtain ⟨hle, -⟩ := length_le_of_divided hbody h
  have hafter : after = (body ++ List.replicate n '=').drop (before.length + 1) := by
    rw [h, List.drop_append]
    simp
  intro c hc
  rw [hafter, List.drop_append, List.drop_eq_nil_of_le (by omega), List.nil_append] at hc
  exact List.eq_of_mem_replicate (List.mem_of_mem_drop hc)

theorem paddingAllowed_eq_true_iff {m n : Nat} :
    paddingAllowed m n = true ↔ n = 0 ∨ 2 ≤ m % 4 ∧ m % 4 + n ≤ 4 := by
  simp [paddingAllowed]

/-- The padding that is allowed is the padding that stands in allowed places. -/
theorem paddingAllowed_iff (hbody : '=' ∉ body) (n : Nat) :
    paddingAllowed body.length n = true ↔
      ∀ before after, body ++ List.replicate n '=' = before ++ '=' :: after →
        2 ≤ before.length % 4 := by
  rw [paddingAllowed_eq_true_iff]
  constructor
  · intro h before after heq
    obtain ⟨hle, hlt⟩ := length_le_of_divided hbody heq
    omega
  · intro h
    -- Every sign of padding has its place: `k` others stand between it and the symbols.
    have hplace : ∀ k < n, 2 ≤ (body.length + k) % 4 := by
      intro k hk
      have hsplit : List.replicate n '='
          = List.replicate k '=' ++ '=' :: List.replicate (n - k - 1) '=' := by
        rw [← List.replicate_succ, List.replicate_append_replicate]
        congr 1
        omega
      have hk' := h (body ++ List.replicate k '=') (List.replicate (n - k - 1) '=')
        (by rw [hsplit, List.append_assoc])
      rwa [List.length_append, List.length_replicate] at hk'
    by_cases hn : n = 0
    · exact .inl hn
    · right
      have hfirst := hplace 0 (by omega)
      refine ⟨by simpa using hfirst, ?_⟩
      by_contra hover
      have hnext := hplace (4 - body.length % 4) (by omega)
      omega

/-! ### Strict decoding -/

/-- The four checks of strict decoding, for symbols and then padding. -/
theorem decodeStrict?_divided (hbody : '=' ∉ body) (n : Nat) :
    decodeStrict? (body ++ List.replicate n '=') = some bs ↔
      (body.length + n) % 4 ≠ 1 ∧ paddingAllowed body.length n = true ∧
        unusedBitsZero (body.map alphabet.idxOf) = true ∧ Carry body bs := by
  have hsymbols : ∀ c ∈ body, (c != '=') = true := by
    intro c hc
    have hne : c ≠ '=' := fun heq => hbody (heq ▸ hc)
    simpa using hne
  have htake : (body ++ List.replicate n '=').takeWhile (· != '=') = body := by
    rw [List.takeWhile_append_of_pos hsymbols]
    simp
  have hdrop : (body ++ List.replicate n '=').dropWhile (· != '=') = List.replicate n '=' := by
    rw [List.dropWhile_append_of_pos hsymbols]
    simp
  have hpadding : (List.replicate n '=').any (· != '=') = false := by
    simp
  simp only [decodeStrict?, htake, hdrop, hpadding, List.length_append, List.length_replicate]
  rw [carry_iff]
  by_cases hlength : (body.length + n) % 4 = 1
  · simp [hlength]
  · rw [if_neg hlength]
    by_cases hallowed : paddingAllowed body.length n = true
    · simp only [hallowed]
      cases hvalues : body.mapM value? with
      | none =>
        have hnone : ¬∀ c ∈ body, c ∈ alphabet := by
          intro hall
          have hsome := mapM_value?_eq_some_iff.mpr ⟨hall, rfl⟩
          rw [hvalues] at hsome
          cases hsome
        simp [hnone]
      | some vs =>
        obtain ⟨hall, rfl⟩ := mapM_value?_eq_some_iff.mp hvalues
        by_cases hunused : unusedBitsZero (body.map alphabet.idxOf) = true
        · simp only [hunused, Bool.false_eq_true, Bool.not_true, if_true, if_false]
          constructor
          · intro h
            exact ⟨hlength, trivial, trivial, hall, (Option.some.inj h).symm⟩
          · rintro ⟨-, -, -, -, rfl⟩
            rfl
        · simp [hunused]
    · simp [hallowed]

/-- What is neither symbols nor padding, or follows padding, is refused. -/
theorem divided_of_strict (h : decodeStrict? cs = some bs) :
    ∃ body n, cs = body ++ List.replicate n '=' ∧ '=' ∉ body := by
  have hpadding : ¬(cs.dropWhile (· != '=')).any (· != '=') = true := by
    intro hany
    simp only [decodeStrict?, hany, if_true, ite_self] at h
    cases h
  refine ⟨cs.takeWhile (· != '='), (cs.dropWhile (· != '=')).length, ?_, ?_⟩
  · have hreplicate : cs.dropWhile (· != '=')
        = List.replicate (cs.dropWhile (· != '=')).length '=' := by
      rw [List.eq_replicate_iff]
      refine ⟨rfl, ?_⟩
      intro c hc
      simpa using List.any_eq_false.mp (Bool.eq_false_iff.mpr hpadding) c hc
    rw [← hreplicate, List.takeWhile_append_dropWhile]
  · intro hmem
    simpa using List.mem_takeWhile_imp hmem

/-- Where padding is allowed, no symbol stands alone. -/
theorem not_lone_of_divided {m n : Nat} (hallowed : paddingAllowed m n = true)
    (hlength : (m + n) % 4 ≠ 1) : m % 4 ≠ 1 := by
  have hplaces := paddingAllowed_eq_true_iff.mp hallowed
  omega

theorem unusedBitsZero_symbols (hbody : ∀ c ∈ body, c ∈ alphabet) (hlone : body.length % 4 ≠ 1) :
    unusedBitsZero (body.map alphabet.idxOf) = true ↔
      ∀ bit ∈ (bitString body).drop (8 * (6 * body.length / 8)), bit = false := by
  rw [unusedBitsZero_iff (places_lt hbody) (by rwa [List.length_map]), List.length_map]
  rfl

/-- **Strict decoding** accepts the canonical texts, and decodes them to the
    octets that their symbols carry. -/
theorem decodeStrict?_eq_some_iff :
    decodeStrict? cs = some bs ↔ Canonical cs ∧ Carry (unpadded cs) bs := by
  constructor
  · intro h
    obtain ⟨body, n, rfl, hbody⟩ := divided_of_strict h
    obtain ⟨hlength, hallowed, hunused, hcarry⟩ := (decodeStrict?_divided hbody n).mp h
    have hlone := not_lone_of_divided hallowed hlength
    refine ⟨⟨?_, ?_, ?_, ?_, ?_⟩, ?_⟩
    · intro c hc
      rcases List.mem_append.mp hc with hc | hc
      · exact .inr (hcarry.symbols c hc)
      · exact .inl (List.eq_of_mem_replicate hc)
    · intro before after heq
      exact padding_of_divided hbody heq
    · exact (paddingAllowed_iff hbody n).mp hallowed
    · rwa [List.length_append, List.length_replicate]
    · rw [unpadded_divided hbody]
      exact (unusedBitsZero_symbols hcarry.symbols hlone).mp hunused
    · rwa [unpadded_divided hbody]
  · rintro ⟨hcanonical, hcarry⟩
    obtain ⟨body, n, rfl, hbody⟩ := exists_divided hcanonical.last
    rw [unpadded_divided hbody] at hcarry
    have hlength : (body.length + n) % 4 ≠ 1 := by
      have hwhole := hcanonical.length
      rwa [List.length_append, List.length_replicate] at hwhole
    have hallowed : paddingAllowed body.length n = true :=
      (paddingAllowed_iff hbody n).mpr hcanonical.place
    have hunused := hcanonical.unused
    rw [unpadded_divided hbody] at hunused
    have hlone := not_lone_of_divided hallowed hlength
    exact (decodeStrict?_divided hbody n).mpr
      ⟨hlength, hallowed, (unusedBitsZero_symbols hcarry.symbols hlone).mpr hunused, hcarry⟩

/-! ### Both ways of decoding -/

/-- A canonical text holds no blanks, so cleaning takes its padding away and
    nothing else. -/
theorem cleaned_of_canonical (h : Canonical cs) : cleaned cs = unpadded cs := by
  apply List.filter_congr
  intro c hc
  rcases h.characters c hc with rfl | hsymbol
  · decide
  · obtain ⟨hblank, -, -⟩ := alphabet_plain hsymbol
    rw [hblank]
    rfl

/-- **Lenient decoding extends strict decoding**: it gives the same octets. -/
theorem decodeLenient_of_strict (h : decodeStrict? cs = some bs) : decodeLenient cs = .ok bs := by
  obtain ⟨hcanonical, hcarry⟩ := decodeStrict?_eq_some_iff.mp h
  rw [← cleaned_of_canonical hcanonical] at hcarry
  exact (decodeLenient_of_symbols hcarry.symbols).mpr hcarry

end HubAuth.Base64
