import HubAuth.Proofs.Text.Utf8

/-! # Well-formed bytes

  The strict reader takes the bytes of a text and no others. What a first byte
  announces keeps out longer forms of a character, surrogates and code points
  past U+10FFFF, so a unit that is a character has just the bytes that this
  character is encoded with.

  * `announces_of_lead?`: what a first byte announces.
  * `encodeChar_of_continuation`: the bytes of one unit.
  * `decode?_eq_some_iff`: the bytes that are read as a text.
-/

namespace HubAuth.Text.Utf8

/-! ### First bytes -/

/-- What a byte announces: the range it lies in, and what is known of the byte
    that comes next. -/
inductive Announces (n : Nat) (l : Lead) : Prop
  /-- A character of its own. -/
  | one (range : n < 0x80) (bits : l.bits = n) (more : l.more = 0)
  /-- The first of two bytes. -/
  | two (range : 0xC2 ≤ n ∧ n < 0xE0) (bits : n = l.bits + 0xC0) (more : l.more = 1)
      (next : l.low = 0x80 ∧ l.high = 0xBF)
  /-- The first of three bytes. -/
  | three (range : n < 0xF0) (bits : n = l.bits + 0xE0) (more : l.more = 2)
      (next : 0x80 ≤ l.low ∧ l.high ≤ 0xBF) (overlong : l.bits = 0 → 0xA0 ≤ l.low)
      (surrogate : l.bits = 13 → l.high ≤ 0x9F)
  /-- The first of four bytes. -/
  | four (range : n ≤ 0xF4) (bits : n = l.bits + 0xF0) (more : l.more = 3)
      (next : 0x80 ≤ l.low ∧ l.high ≤ 0xBF) (overlong : l.bits = 0 → 0x90 ≤ l.low)
      (last : l.bits = 4 → l.high ≤ 0x8F)

theorem announces_of_lead? {n : Nat} {l : Lead} (h : lead? n = some l) : Announces n l := by
  unfold lead? at h
  split at h
  · next range =>
    obtain rfl := Option.some.inj h
    exact .one range rfl rfl
  split at h
  · cases h
  split at h
  · next hlow hhigh =>
    obtain rfl := Option.some.inj h
    exact .two (by omega) (by simp only; omega) rfl ⟨rfl, rfl⟩
  -- From here on the range of the next byte is narrowed at both ends of the row.
  split at h
  · next hfirst =>
    obtain rfl := Option.some.inj h
    exact .three (by omega) hfirst rfl (by simp) (by simp) (by simp)
  split at h
  · next hsurrogate =>
    obtain rfl := Option.some.inj h
    exact .three (by omega) hsurrogate rfl (by simp) (by simp) (by simp)
  split at h
  · next hhigh =>
    obtain rfl := Option.some.inj h
    exact .three hhigh (by simp only; omega) rfl (by simp) (by simp only; omega) (by simp only; omega)
  split at h
  · next hfirst =>
    obtain rfl := Option.some.inj h
    exact .four (by omega) hfirst rfl (by simp) (by simp) (by simp)
  split at h
  · next hhigh =>
    obtain rfl := Option.some.inj h
    exact .four (by omega) (by simp only; omega) rfl (by simp) (by simp only; omega) (by simp only; omega)
  split at h
  · next hlast =>
    obtain rfl := Option.some.inj h
    exact .four (by omega) hlast rfl (by simp) (by simp) (by simp)
  · cases h

/-! ### One unit -/

/-- A character that needs another byte has one in the range. -/
theorem continuation_some {more low high bits v : Nat} {bs rest : List UInt8}
    (h : continuation (more + 1) low high bits bs = (some v, rest)) :
    ∃ b bs', bs = b :: bs' ∧ low ≤ b.toNat ∧ b.toNat ≤ high ∧
      continuation more 0x80 0xBF (bits * 64 + (b.toNat - 0x80)) bs' = (some v, rest) := by
  cases bs with
  | nil => cases h
  | cons b bs' =>
    unfold continuation at h
    split at h
    · next hrange => exact ⟨b, bs', rfl, hrange.1, hrange.2, h⟩
    · cases h

/-- A character that needs no other byte is complete. -/
theorem continuation_zero {low high bits v : Nat} {bs rest : List UInt8}
    (h : continuation 0 low high bits bs = (some v, rest)) : bits = v ∧ bs = rest := by
  rw [continuation] at h
  obtain ⟨hv, hrest⟩ := Prod.mk.inj h
  exact ⟨Option.some.inj hv, hrest⟩

/-- The bytes of the character with a given code point, which is no surrogate. -/
theorem encodeChar_ofNat {v : Nat} (h : v.isValidChar) :
    String.utf8EncodeChar (Char.ofNat v) =
      if v ≤ 0x7F then [UInt8.ofNat v]
      else if v ≤ 0x7FF then [UInt8.ofNat (v / 64 % 0x20 + 0xC0), UInt8.ofNat (v % 0x40 + 0x80)]
      else if v ≤ 0xFFFF then
        [UInt8.ofNat (v / 4096 % 0x10 + 0xE0), UInt8.ofNat (v / 64 % 0x40 + 0x80),
          UInt8.ofNat (v % 0x40 + 0x80)]
      else
        [UInt8.ofNat (v / 262144 % 0x08 + 0xF0), UInt8.ofNat (v / 4096 % 0x40 + 0x80),
          UInt8.ofNat (v / 64 % 0x40 + 0x80), UInt8.ofNat (v % 0x40 + 0x80)] := by
  have hval : (Char.ofNat v).val.toNat = v := by
    rw [Char.ofNat, dif_pos h]
    rfl
  simp only [String.utf8EncodeChar, hval]

theorem byte_eq {b : UInt8} {n : Nat} (h : b.toNat = n) : b = UInt8.ofNat n := by
  rw [← h, UInt8.ofNat_toNat]

/-- A unit that is a character has the bytes of this character. -/
theorem encodeChar_of_continuation {b : UInt8} {bs rest : List UInt8} {l : Lead} {v : Nat}
    (hlead : lead? b.toNat = some l)
    (h : continuation l.more l.low l.high l.bits bs = (some v, rest)) :
    b :: bs = String.utf8EncodeChar (Char.ofNat v) ++ rest := by
  cases announces_of_lead? hlead with
  | one range bits more =>
    rw [more] at h
    obtain ⟨hv, rfl⟩ := continuation_zero h
    have hb := byte_eq (show b.toNat = v by omega)
    rw [encodeChar_ofNat (.inl (by omega)), if_pos (by omega), ← hb, List.singleton_append]
  | two range bits more next =>
    rw [more] at h
    obtain ⟨b₁, bs, rfl, hlow, hhigh, h⟩ := continuation_some h
    obtain ⟨hv, rfl⟩ := continuation_zero h
    have hb := byte_eq (show b.toNat = v / 64 % 0x20 + 0xC0 by omega)
    have hb₁ := byte_eq (show b₁.toNat = v % 0x40 + 0x80 by omega)
    rw [encodeChar_ofNat (.inl (by omega)), if_neg (by omega), if_pos (by omega), ← hb, ← hb₁]
    rfl
  | three range bits more next overlong surrogate =>
    rw [more] at h
    obtain ⟨b₁, bs, rfl, hlow, hhigh, h⟩ := continuation_some h
    obtain ⟨b₂, bs, rfl, hlow₂, hhigh₂, h⟩ := continuation_some h
    obtain ⟨hv, rfl⟩ := continuation_zero h
    have hvalid : v < 0xD800 ∨ 0xDFFF < v ∧ v < 0x110000 := by omega
    have hb := byte_eq (show b.toNat = v / 4096 % 0x10 + 0xE0 by omega)
    have hb₁ := byte_eq (show b₁.toNat = v / 64 % 0x40 + 0x80 by omega)
    have hb₂ := byte_eq (show b₂.toNat = v % 0x40 + 0x80 by omega)
    rw [encodeChar_ofNat hvalid, if_neg (by omega), if_neg (by omega), if_pos (by omega),
      ← hb, ← hb₁, ← hb₂]
    rfl
  | four range bits more next overlong last =>
    rw [more] at h
    obtain ⟨b₁, bs, rfl, hlow, hhigh, h⟩ := continuation_some h
    obtain ⟨b₂, bs, rfl, hlow₂, hhigh₂, h⟩ := continuation_some h
    obtain ⟨b₃, bs, rfl, hlow₃, hhigh₃, h⟩ := continuation_some h
    obtain ⟨hv, rfl⟩ := continuation_zero h
    have hvalid : v < 0xD800 ∨ 0xDFFF < v ∧ v < 0x110000 := by omega
    have hb := byte_eq (show b.toNat = v / 262144 % 0x08 + 0xF0 by omega)
    have hb₁ := byte_eq (show b₁.toNat = v / 4096 % 0x40 + 0x80 by omega)
    have hb₂ := byte_eq (show b₂.toNat = v / 64 % 0x40 + 0x80 by omega)
    have hb₃ := byte_eq (show b₃.toNat = v % 0x40 + 0x80 by omega)
    rw [encodeChar_ofNat hvalid, if_neg (by omega), if_neg (by omega), if_neg (by omega),
      ← hb, ← hb₁, ← hb₂, ← hb₃]
    rfl

/-! ### Texts -/

/-- A byte that announces nothing is a unit that is no character. -/
theorem units_of_no_lead {b : UInt8} {bs : List UInt8} (h : lead? b.toNat = none) :
    units (b :: bs) = none :: units bs := by
  rw [units]
  split
  · rfl
  · next l hsome =>
    rw [h] at hsome
    cases hsome

/-- Bytes whose units are the characters of a text are those of the text. -/
theorem eq_encode_of_units {bs : List UInt8} {cs : List Char} (h : units bs = cs.map some) :
    bs = encode cs := by
  induction cs generalizing bs with
  | nil =>
    cases bs with
    | nil => rfl
    | cons b bs =>
      cases hlead : lead? b.toNat with
      | none =>
        rw [units_of_no_lead hlead] at h
        cases h
      | some l =>
        rw [units_cons hlead] at h
        cases h
  | cons c cs ih =>
    cases bs with
    | nil =>
      rw [units] at h
      cases h
    | cons b bs =>
      cases hlead : lead? b.toNat with
      | none =>
        rw [units_of_no_lead hlead] at h
        cases h
      | some l =>
        rw [units_cons hlead] at h
        obtain ⟨hunit, hrest⟩ := List.cons.inj h
        obtain ⟨v, hv, rfl⟩ := Option.map_eq_some_iff.mp hunit
        rw [encode_cons, ← ih hrest]
        exact encodeChar_of_continuation hlead (Prod.ext hv rfl)

/-- Units are a text if each of them is a character. -/
theorem mapM_id_eq_some {us : List (Option Char)} {cs : List Char} (h : us.mapM id = some cs) :
    us = cs.map some := by
  induction us generalizing cs with
  | nil =>
    obtain rfl : [] = cs := Option.some.inj h
    rfl
  | cons u us ih =>
    rw [List.mapM_cons] at h
    obtain ⟨c, hc, hcs⟩ := Option.bind_eq_some_iff.mp h
    obtain ⟨ds, hds, hcs⟩ := Option.bind_eq_some_iff.mp hcs
    obtain rfl : c :: ds = cs := Option.some.inj hcs
    rw [ih hds, List.map_cons, ← hc]
    rfl

/-- The bytes that are read as a text are those of the text. -/
theorem decode?_eq_some_iff {bs : List UInt8} {cs : List Char} :
    decode? bs = some cs ↔ bs = encode cs := by
  constructor
  · intro h
    exact eq_encode_of_units (mapM_id_eq_some h)
  · rintro rfl
    exact decode?_encode cs

end HubAuth.Text.Utf8
