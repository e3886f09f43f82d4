import HubAuth.Token.Key
import Mathlib.Data.List.TakeWhile

/-! # Written keys

  Encoding writes the six-bit values of some bytes and then padding. The values
  make up the bytes again, and what is written is canonical, so that both ways
  of decoding read it and a key that is written so is taken without a report.

  * `encode_eq`: what encoding writes.
  * `decodeLenient_encode`, `decodeStrict?_encode`: both ways of decoding undo it.
  * `DeviceKey.ofBase64_encode`: the key that the encoding of bytes stands for.
-/

namespace HubAuth.Base64

/-! ### Six-bit values -/

/-- The six-bit values of some bytes. The last value is filled up with zeros. -/
def sextets : List UInt8 → List Nat
  | a :: b :: c :: bs =>
    a.toNat / 4 :: (a.toNat % 4 * 16 + b.toNat / 16) :: (b.toNat % 16 * 4 + c.toNat / 64)
      :: c.toNat % 64 :: sextets bs
  | [a, b] => [a.toNat / 4, a.toNat % 4 * 16 + b.toNat / 16, b.toNat % 16 * 4]
  | [a] => [a.toNat / 4, a.toNat % 4 * 16]
  | [] => []

/-- How many signs of padding follow the symbols of `n` bytes. -/
def padding (n : Nat) : Nat :=
  (3 - n % 3) % 3

/-- Encoding writes the values and then the padding. -/
theorem encode_eq (bs : List UInt8) :
    encode bs = (sextets bs).map symbol ++ List.replicate (padding bs.length) '=' := by
  induction bs using sextets.induct with
  | case1 a b c bs ih =>
    have hpadding : padding (a :: b :: c :: bs).length = padding bs.length := by
      simp only [padding, List.length_cons]
      omega
    -- Three bytes more make four symbols more before the same padding.
    rw [encode, ih, sextets, hpadding]
    rfl
  | case2 a b => rfl
  | case3 a => rfl
  | case4 => rfl

theorem octets_sextets (bs : List UInt8) : octets (sextets bs) = bs := by
  -- An octet is joined from the bits that two neighbouring values have of it.
  have join : ∀ (b : UInt8) (n : Nat), n = b.toNat → UInt8.ofNat n = b := by
    intro b n h
    rw [h, UInt8.ofNat_toNat]
  induction bs using sextets.induct with
  | case1 a b c bs ih =>
    have ha := a.toNat_lt
    have hb := b.toNat_lt
    have hc := c.toNat_lt
    rw [sextets, octets, ih, join a _ (by omega), join b _ (by omega), join c _ (by omega)]
  | case2 a b =>
    have ha := a.toNat_lt
    have hb := b.toNat_lt
    rw [sextets, octets, join a _ (by omega), join b _ (by omega)]
  | case3 a =>
    have ha := a.toNat_lt
    rw [sextets, octets, join a _ (by omega)]
  | case4 => rfl

theorem lt_of_mem_sextets {bs : List UInt8} {v : Nat} (h : v ∈ sextets bs) : v < 64 := by
  induction bs using sextets.induct with
  | case1 a b c bs ih =>
    have ha := a.toNat_lt
    have hb := b.toNat_lt
    have hc := c.toNat_lt
    simp only [sextets, List.mem_cons] at h
    rcases h with h | h | h | h | h
    · omega
    · omega
    · omega
    · omega
    · exact ih h
  | case2 a b =>
    have ha := a.toNat_lt
    have hb := b.toNat_lt
    simp only [sextets, List.mem_cons, List.not_mem_nil, or_false] at h
    omega
  | case3 a =>
    have ha := a.toNat_lt
    simp only [sextets, List.mem_cons, List.not_mem_nil, or_false] at h
    omega
  | case4 => cases h

/-- Symbols and padding fill groups of four, and no symbol stands alone. -/
theorem length_sextets (bs : List UInt8) :
    ((sextets bs).length + padding bs.length) % 4 = 0 ∧ (sextets bs).length % 4 ≠ 1 ∧
      (padding bs.length ≠ 0 → 2 ≤ (sextets bs).length % 4) := by
  induction bs using sextets.induct with
  | case1 a b c bs ih =>
    simp only [sextets, padding, List.length_cons] at ih ⊢
    omega
  | case2 a b => simp [sextets, padding]
  | case3 a => simp [sextets, padding]
  | case4 => simp [sextets, padding]

theorem unusedBitsZero_group (a b c d : Nat) (vs : List Nat) :
    unusedBitsZero (a :: b :: c :: d :: vs) = unusedBitsZero vs := by
  -- The group leaves no bits over, so only what follows it counts.
  cases vs with
  | nil => simp [unusedBitsZero]
  | cons v vs =>
    have hlength : (a :: b :: c :: d :: v :: vs).length % 4 = (v :: vs).length % 4 := by
      simp only [List.length_cons]
      omega
    have hlast : (a :: b :: c :: d :: v :: vs).getLast? = (v :: vs).getLast? := by
      simp only [List.getLast?_cons_cons]
    unfold unusedBitsZero
    rw [hlength, hlast]

theorem unusedBitsZero_sextets (bs : List UInt8) : unusedBitsZero (sextets bs) = true := by
  induction bs using sextets.induct with
  | case1 a b c bs ih =>
    rw [sextets, unusedBitsZero_group]
    exact ih
  | case2 a b => simp [unusedBitsZero, sextets]
  | case3 a => simp [unusedBitsZero, sextets]
  | case4 => rfl

/-! ### Symbols -/

/-- What no symbol is: a blank, padding, a semicolon, or outside ASCII. -/
theorem symbol_plain : ∀ v < 64, Text.isBlank (symbol v) = false ∧ symbol v ≠ '=' ∧
    symbol v ≠ ';' ∧ (symbol v).toNat < 128 := by
  decide

theorem values_map_symbol {vs : List Nat} (h : ∀ v ∈ vs, v < 64) (offset : Nat) :
    values offset (vs.map symbol) = .ok vs := by
  induction vs generalizing offset with
  | nil => rfl
  | cons v vs ih =>
    have hv : value? (symbol v) = some v := value?_symbol v (h v List.mem_cons_self)
    have hrest := ih (fun u hu => h u (List.mem_cons_of_mem v hu)) (offset + 1)
    simp only [List.map_cons, values, hv, hrest]

theorem mapM_map_symbol {vs : List Nat} (h : ∀ v ∈ vs, v < 64) :
    (vs.map symbol).mapM value? = some vs := by
  induction vs with
  | nil => rfl
  | cons v vs ih =>
    have hv : value? (symbol v) = some v := value?_symbol v (h v List.mem_cons_self)
    have hrest := ih fun u hu => h u (List.mem_cons_of_mem v hu)
    rw [List.map_cons, List.mapM_cons, hv, hrest]
    rfl

/-! ### Decoding -/

/-- Cleaning takes the padding away and nothing else. -/
theorem cleaned_encode (bs : List UInt8) : cleaned (encode bs) = (sextets bs).map symbol := by
  have hsymbols : ((sextets bs).map symbol).filter (fun c => !Text.isBlank c && c != '=')
      = (sextets bs).map symbol := by
    rw [List.filter_eq_self]
    intro c hc
    obtain ⟨v, hv, rfl⟩ := List.mem_map.mp hc
    obtain ⟨hblank, hpad, -, -⟩ := symbol_plain v (lt_of_mem_sextets hv)
    simp [hblank, hpad]
  rw [cleaned, encode_eq, List.filter_append, hsymbols]
  simp

theorem decodeLenient_encode (bs : List UInt8) : decodeLenient (encode bs) = .ok bs := by
  -- The three checks pass: on the characters, on a lone last symbol, on the alphabet.
  have hascii : (((sextets bs).map symbol).any fun c => 128 ≤ c.toNat) = false := by
    rw [List.any_eq_false]
    intro c hc
    obtain ⟨v, hv, rfl⟩ := List.mem_map.mp hc
    obtain ⟨-, -, -, hlt⟩ := symbol_plain v (lt_of_mem_sextets hv)
    simpa using hlt
  have hwhole : wholeOctets ((sextets bs).map symbol) = (sextets bs).map symbol := by
    obtain ⟨-, hlone, -⟩ := length_sextets bs
    rw [wholeOctets, List.length_map, if_neg hlone]
  have hvalues : values 0 ((sextets bs).map symbol) = .ok (sextets bs) :=
    values_map_symbol (fun v hv => lt_of_mem_sextets hv) 0
  simp only [decodeLenient, cleaned_encode, hascii, hwhole, hvalues, octets_sextets]
  rfl

theorem decodeStrict?_encode (bs : List UInt8) : decodeStrict? (encode bs) = some bs := by
  -- The first sign of equality divides the symbols from the padding.
  have hbody : ∀ c ∈ (sextets bs).map symbol, (c != '=') = true := by
    intro c hc
    obtain ⟨v, hv, rfl⟩ := List.mem_map.mp hc
    obtain ⟨-, hpad, -, -⟩ := symbol_plain v (lt_of_mem_sextets hv)
    simpa using hpad
  have htake : (encode bs).takeWhile (· != '=') = (sextets bs).map symbol := by
    rw [encode_eq, List.takeWhile_append_of_pos hbody]
    simp
  have hdrop : (encode bs).dropWhile (· != '=') = List.replicate (padding bs.length) '=' := by
    rw [encode_eq, List.dropWhile_append_of_pos hbody]
    simp
  have hpadding : (List.replicate (padding bs.length) '=').any (· != '=') = false := by
    simp
  obtain ⟨hfull, -, htwo⟩ := length_sextets bs
  have hlength : (encode bs).length % 4 ≠ 1 := by
    rw [encode_eq, List.length_append, List.length_map, List.length_replicate]
    omega
  have hshort : padding bs.length < 3 := Nat.mod_lt _ (by decide)
  have hallowed : paddingAllowed (sextets bs).length (padding bs.length) = true := by
    simp only [paddingAllowed, Bool.or_eq_true, beq_iff_eq, Bool.and_eq_true, decide_eq_true_eq]
    by_cases hnone : padding bs.length = 0
    · exact .inl hnone
    · have := htwo hnone
      right
      omega
  have hvalues : ((sextets bs).map symbol).mapM value? = some (sextets bs) :=
    mapM_map_symbol fun v hv => lt_of_mem_sextets hv
  simp only [decodeStrict?, hlength, htake, hdrop, hpadding, List.length_map, List.length_replicate,
    hallowed, hvalues, unusedBitsZero_sextets, octets_sextets]
  rfl

/-- The encoding of bytes has no semicolon, so it can stand in a connection string. -/
theorem semicolon_not_mem_encode (bs : List UInt8) : ';' ∉ encode bs := by
  rw [encode_eq, List.mem_append]
  rintro (h | h)
  · obtain ⟨v, hv, hsymbol⟩ := List.mem_map.mp h
    obtain ⟨-, -, hne, -⟩ := symbol_plain v (lt_of_mem_sextets hv)
    exact hne hsymbol
  · have hpad : ';' = '=' := List.eq_of_mem_replicate h
    exact absurd hpad (by decide)

end HubAuth.Base64

namespace HubAuth

/-- The encoding of bytes is taken as a key with these bytes, and nothing is
    reported. -/
theorem DeviceKey.ofBase64_encode {bs : List UInt8} (h : bs ≠ []) :
    DeviceKey.ofBase64 (String.ofList (Base64.encode bs))
      = .ok ⟨String.ofList (Base64.encode bs), bs⟩ := by
  cases bs with
  | nil => exact absurd rfl h
  | cons b bs =>
    simp only [DeviceKey.ofBase64, String.toList_ofList, Base64.decodeLenient_encode,
      Base64.decodeStrict?_encode]
    rfl

end HubAuth
