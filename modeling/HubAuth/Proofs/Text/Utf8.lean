import HubAuth.Text.Utf8

/-! # Reading encoded text

  The decoder takes the bytes of a character as one unit, whatever stands
  after them. The first byte of a character announces its length, its highest
  bits and a range that the second byte lies in; the continuation bytes then
  add six bits each until the code point is complete.

  * `units_encode`: the units of an encoded text are its characters.
  * `decodeLossy_encode` and `decode?_encode`: so both readers give every text
    back.
-/

namespace HubAuth.Text.Utf8

/-! ### One unit -/

/-- A byte that starts a character is read with its continuation bytes. -/
theorem units_cons {b : UInt8} {bs : List UInt8} {l : Lead} (h : lead? b.toNat = some l) :
    units (b :: bs) =
      (continuation l.more l.low l.high l.bits bs).1.map Char.ofNat
        :: units (continuation l.more l.low l.high l.bits bs).2 := by
  rw [units]
  split
  · next hnone => simp [h] at hnone
  · next l' hsome =>
    obtain rfl : l' = l := by simpa [h] using hsome.symm
    rfl

/-- A byte in the range adds its six bits, and the next may be any
    continuation byte. -/
theorem continuation_cons {more low high bits : Nat} {b : UInt8} {bs : List UInt8}
    (h : low ≤ b.toNat ∧ b.toNat ≤ high) :
    continuation (more + 1) low high bits (b :: bs)
      = continuation more 0x80 0xBF (bits * 64 + (b.toNat - 0x80)) bs := by
  rw [continuation, if_pos h]

theorem toNat_byte {n : Nat} (h : n < 256) : (UInt8.ofNat n).toNat = n := by
  simp [Nat.mod_eq_of_lt h]

/-- A continuation byte made of six bits adds these bits. -/
theorem continuation_tail {more bits x : Nat} {bs : List UInt8} (h : x < 64) :
    continuation (more + 1) 0x80 0xBF bits (UInt8.ofNat (x + 0x80) :: bs)
      = continuation more 0x80 0xBF (bits * 64 + x) bs := by
  have hb := toNat_byte (show x + 0x80 < 256 by omega)
  rw [continuation_cons (by omega), hb, Nat.add_sub_cancel]

/-! ### What the first byte announces

    `x` is the six bits that follow those in the first byte. Its bounds keep
    out overlong forms, surrogates and values past U+10FFFF. -/

/-- The first of three bytes. -/
theorem lead?_three (high x : Nat) (hhigh : high < 16) (hx : x < 64) (overlong : high = 0 → 32 ≤ x)
    (surrogate : high = 13 → x < 32) :
    ∃ l, lead? (high + 0xE0) = some l ∧ l.more = 2 ∧ l.bits = high
      ∧ l.low ≤ x + 0x80 ∧ x + 0x80 ≤ l.high := by
  unfold lead?
  rw [if_neg (by omega), if_neg (by omega), if_neg (by omega)]
  by_cases h0 : high = 0
  · subst h0
    exact ⟨_, rfl, rfl, rfl, by simp; omega, by simp; omega⟩
  · rw [if_neg (by omega)]
    by_cases h13 : high = 13
    · subst h13
      exact ⟨_, rfl, rfl, rfl, by simp, by simp; omega⟩
    · rw [if_neg (by omega), if_pos (by omega)]
      exact ⟨_, rfl, rfl, by simp, by simp, by simp; omega⟩

/-- The first of four bytes. -/
theorem lead?_four (high x : Nat) (hhigh : high ≤ 4) (hx : x < 64) (overlong : high = 0 → 16 ≤ x)
    (last : high = 4 → x < 16) :
    ∃ l, lead? (high + 0xF0) = some l ∧ l.more = 3 ∧ l.bits = high
      ∧ l.low ≤ x + 0x80 ∧ x + 0x80 ≤ l.high := by
  unfold lead?
  rw [if_neg (by omega), if_neg (by omega), if_neg (by omega), if_neg (by omega),
    if_neg (by omega), if_neg (by omega)]
  by_cases h0 : high = 0
  · subst h0
    exact ⟨_, rfl, rfl, rfl, by simp; omega, by simp; omega⟩
  · rw [if_neg (by omega)]
    by_cases h4 : high = 4
    · subst h4
      exact ⟨_, rfl, rfl, rfl, by simp, by simp; omega⟩
    · rw [if_pos (by omega)]
      exact ⟨_, rfl, rfl, by simp, by simp, by simp; omega⟩

/-! ### Characters

    A character of two, three or four bytes is read as one unit. -/

theorem units_two {v : Nat} {bs : List UInt8} (low : 0x80 ≤ v) (high : v < 0x800) :
    units (UInt8.ofNat (v / 64 % 0x20 + 0xC0) :: UInt8.ofNat (v % 0x40 + 0x80) :: bs)
      = some (Char.ofNat v) :: units bs := by
  have hlead : lead? (UInt8.ofNat (v / 64 % 0x20 + 0xC0)).toNat
      = some { bits := v / 64, more := 1 } := by
    rw [toNat_byte (by omega), Nat.mod_eq_of_lt (by omega)]
    unfold lead?
    rw [if_neg (by omega), if_neg (by omega), if_pos (by omega), Nat.add_sub_cancel]
  have hv : v / 64 * 64 + v % 64 = v := by omega
  rw [units_cons hlead, continuation_tail (by omega), hv]
  rfl

theorem units_three {v : Nat} {bs : List UInt8} (low : 0x800 ≤ v) (high : v < 0x10000)
    (surrogate : v < 0xD800 ∨ 0xDFFF < v) :
    units (UInt8.ofNat (v / 4096 % 0x10 + 0xE0) :: UInt8.ofNat (v / 64 % 0x40 + 0x80)
        :: UInt8.ofNat (v % 0x40 + 0x80) :: bs)
      = some (Char.ofNat v) :: units bs := by
  obtain ⟨l, hlead, hmore, hbits, hlow, hhigh⟩ := lead?_three (v / 4096 % 16)
    (v / 64 % 64) (by omega) (by omega) (by omega) (by omega)
  have hfirst := toNat_byte (show v / 4096 % 16 + 0xE0 < 256 by omega)
  have hsecond := toNat_byte (show v / 64 % 64 + 0x80 < 256 by omega)
  have hv : (v / 4096 % 16 * 64 + v / 64 % 64) * 64 + v % 64 = v := by omega
  rw [units_cons (by rw [hfirst]; exact hlead), hmore, hbits,
    continuation_cons (by rw [hsecond]; exact ⟨hlow, hhigh⟩), hsecond, Nat.add_sub_cancel,
    continuation_tail (by omega), hv]
  rfl

theorem units_four {v : Nat} {bs : List UInt8} (low : 0x10000 ≤ v) (high : v < 0x110000) :
    units (UInt8.ofNat (v / 262144 % 0x08 + 0xF0) :: UInt8.ofNat (v / 4096 % 0x40 + 0x80)
        :: UInt8.ofNat (v / 64 % 0x40 + 0x80) :: UInt8.ofNat (v % 0x40 + 0x80) :: bs)
      = some (Char.ofNat v) :: units bs := by
  obtain ⟨l, hlead, hmore, hbits, hlow, hhigh⟩ := lead?_four (v / 262144 % 8)
    (v / 4096 % 64) (by omega) (by omega) (by omega) (by omega)
  have hfirst := toNat_byte (show v / 262144 % 8 + 0xF0 < 256 by omega)
  have hsecond := toNat_byte (show v / 4096 % 64 + 0x80 < 256 by omega)
  have hv : ((v / 262144 % 8 * 64 + v / 4096 % 64) * 64 + v / 64 % 64) * 64 + v % 64 = v := by omega
  rw [units_cons (by rw [hfirst]; exact hlead), hmore, hbits,
    continuation_cons (by rw [hsecond]; exact ⟨hlow, hhigh⟩), hsecond, Nat.add_sub_cancel,
    continuation_tail (by omega), continuation_tail (by omega), hv]
  rfl

/-- The bytes of a character are read as one unit. -/
theorem units_encodeChar (c : Char) (bs : List UInt8) :
    units (String.utf8EncodeChar c ++ bs) = some c :: units bs := by
  -- A character is no surrogate and not past U+10FFFF.
  have hvalid : c.val.toNat < 0xD800 ∨ 0xDFFF < c.val.toNat ∧ c.val.toNat < 0x110000 := c.valid
  have hc : Char.ofNat c.val.toNat = c := Char.ofNat_toNat c
  -- The encoder tells the four lengths apart by the code point.
  simp only [String.utf8EncodeChar]
  split
  · next h1 =>
    have hlead : lead? (UInt8.ofNat c.val.toNat).toNat
        = some { bits := c.val.toNat, more := 0 } := by
      rw [toNat_byte (by omega), lead?, if_pos (by omega)]
    rw [List.singleton_append, units_cons hlead, continuation, Option.map_some, hc]
  · split
    · next h1 h2 =>
      rw [List.cons_append, List.singleton_append, units_two (by omega) (by omega), hc]
    · split
      · next h1 h2 h3 =>
        rw [List.cons_append, List.cons_append, List.singleton_append,
          units_three (by omega) (by omega) (by omega), hc]
      · next h1 h2 h3 =>
        rw [List.cons_append, List.cons_append, List.cons_append, List.singleton_append,
          units_four (by omega) (by omega), hc]

/-! ### Texts -/

/-- The units of an encoded text are its characters. -/
theorem units_encode (cs : List Char) : units (encode cs) = cs.map some := by
  induction cs with
  | nil => simp [units]
  | cons c cs ih => rw [encode_cons, units_encodeChar, ih, List.map_cons]

/-- The lossy reader gives an encoded text back. -/
theorem decodeLossy_encode (cs : List Char) : decodeLossy (encode cs) = cs := by
  rw [decodeLossy, units_encode, List.map_map]
  exact List.map_id' cs

/-- The bytes of a text are well formed. -/
theorem decode?_encode (cs : List Char) : decode? (encode cs) = some cs := by
  rw [decode?, units_encode]
  induction cs with
  | nil => rfl
  | cons c cs ih =>
    rw [List.map_cons, List.mapM_cons, ih]
    rfl

/-- Texts with the same bytes are the same. -/
theorem encode_inj {cs ds : List Char} : encode cs = encode ds ↔ cs = ds := by
  constructor
  · intro h
    have hread := decodeLossy_encode cs
    rw [h, decodeLossy_encode] at hread
    exact hread.symm
  · rintro rfl
    rfl

/-! ### ASCII -/

/-- An ASCII character is one byte. -/
theorem encodeChar_of_ascii {c : Char} (h : c.toNat < 0x80) :
    String.utf8EncodeChar c = [UInt8.ofNat c.toNat] := by
  have hle : c.val.toNat ≤ 0x7F := by have : c.val.toNat = c.toNat := rfl; omega
  simp only [String.utf8EncodeChar, if_pos hle]
  rfl

/-- An ASCII text has one byte for each character. -/
theorem encode_of_ascii {cs : List Char} (h : ∀ c ∈ cs, c.toNat < 0x80) :
    encode cs = cs.map fun c => UInt8.ofNat c.toNat := by
  induction cs with
  | nil => rfl
  | cons c cs ih =>
    have hc := h c (by simp)
    have hcs : ∀ d ∈ cs, d.toNat < 0x80 := fun d hd => h d (by simp [hd])
    rw [encode_cons, encodeChar_of_ascii hc, ih hcs, List.map_cons, List.singleton_append]

/-- The bytes of a text are those that its string holds. -/
theorem encode_toList (s : String) : encode s.toList = s.toByteArray.data.toList := by
  rw [← String.utf8Encode_toList, List.utf8Encode]
  simp [encode]

end HubAuth.Text.Utf8
