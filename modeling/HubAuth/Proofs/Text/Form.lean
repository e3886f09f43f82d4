import HubAuth.Proofs.Text.Utf8
import HubAuth.Text.Form

/-! # Reading written forms

  What the form encoding writes is read back: a written value holds neither
  `&` nor `=`, so fields and their two parts are told apart again, and
  resolving plus signs and escapes gives the bytes of the text.

  * `isWritten_of_mem_encode`: the characters of a written value.
  * `decode_encode`: every text is read back.
  * `fields_written`: every list of fields is read back.
-/

namespace HubAuth.Text.Form

/-! ### Characters of a written value -/

/-- The characters of which written values consist. -/
def isWritten (c : Char) : Bool :=
  c.toNat < 0x80 && (isPlain (byte c) || c == '+' || c == '%')

theorem lt_of_isPlain {b : UInt8} (h : isPlain b = true) : b.toNat < 0x80 := by
  simp only [isPlain, Bool.or_eq_true, Bool.and_eq_true, decide_eq_true_eq, beq_iff_eq] at h
  rcases h with (((((h | h) | h) | rfl) | rfl) | rfl) | rfl
  · omega
  · omega
  · omega
  all_goals decide

/-- The character of an ASCII byte has that byte. -/
theorem byte_ofNat {b : UInt8} (h : b.toNat < 0x80) :
    (Char.ofNat b.toNat).toNat = b.toNat ∧ byte (Char.ofNat b.toNat) = b := by
  have hvalid : b.toNat.isValidChar := Or.inl (by omega)
  have hnat : (Char.ofNat b.toNat).toNat = b.toNat := by
    rw [Char.ofNat, dif_pos hvalid]
    rfl
  refine ⟨hnat, ?_⟩
  rw [byte, hnat, UInt8.ofNat_toNat]

theorem isWritten_hexDigit : ∀ n < 16, isWritten (hexDigit n) = true := by
  decide

/-- A byte is written with the characters of written values. -/
theorem isWritten_of_mem_encodeByte {b : UInt8} {c : Char} (h : c ∈ encodeByte b) :
    isWritten c = true := by
  have hb := b.toNat_lt
  unfold encodeByte at h
  split at h
  · next hplain =>
    obtain ⟨hnat, hbyte⟩ := byte_ofNat (lt_of_isPlain hplain)
    obtain rfl : c = Char.ofNat b.toNat := by simpa using h
    simp [isWritten, hnat, hbyte, hplain, lt_of_isPlain hplain]
  · split at h
    · obtain rfl : c = '+' := by simpa using h
      decide
    · have hc : c = '%' ∨ c = hexDigit (b.toNat / 16) ∨ c = hexDigit (b.toNat % 16) := by
        simpa using h
      rcases hc with rfl | rfl | rfl
      · decide
      · exact isWritten_hexDigit _ (by omega)
      · exact isWritten_hexDigit _ (by omega)

theorem isWritten_of_mem_encode {cs : List Char} {c : Char} (h : c ∈ encode cs) :
    isWritten c = true := by
  obtain ⟨b, -, hc⟩ := List.mem_flatMap.mp h
  exact isWritten_of_mem_encodeByte hc

theorem lt_of_isWritten {c : Char} (h : isWritten c = true) : c.toNat < 0x80 := by
  simp only [isWritten, Bool.and_eq_true, decide_eq_true_eq] at h
  exact h.1

/-- The characters of written values are letters, digits and six signs. -/
theorem sign_of_isWritten {c : Char} (h : isWritten c = true) :
    c.isAlphanum = true ∨ c ∈ ['*', '-', '.', '_', '+', '%'] := by
  have hascii : ∀ n < 0x80, isWritten (Char.ofNat n) = true →
      (Char.ofNat n).isAlphanum = true ∨ Char.ofNat n ∈ ['*', '-', '.', '_', '+', '%'] := by
    decide
  have hc : Char.ofNat c.toNat = c := Char.ofNat_toNat c
  have hsign := hascii c.toNat (lt_of_isWritten h)
  rw [hc] at hsign
  exact hsign h

/-- A character that is not written does not occur in a written value. -/
theorem not_mem_encode {c : Char} (h : isWritten c = false) (cs : List Char) : c ∉ encode cs := by
  intro hmem
  rw [isWritten_of_mem_encode hmem] at h
  exact absurd h (by decide)

/-- A text of plain characters is its own written value. -/
theorem encode_of_isPlain {cs : List Char}
    (h : ∀ c ∈ cs, c.toNat < 0x80 ∧ isPlain (byte c) = true) : encode cs = cs := by
  induction cs with
  | nil => rfl
  | cons c cs ih =>
    obtain ⟨hascii, hplain⟩ := h c (by simp)
    have hc : Char.ofNat (byte c).toNat = c := by
      rw [byte, Utf8.toNat_byte (by omega), Char.ofNat_toNat]
    have ih := ih fun d hd => h d (by simp [hd])
    rw [encode, Utf8.encode_cons, List.flatMap_append, ← encode, ih,
      Utf8.encodeChar_of_ascii hascii, List.flatMap_singleton]
    change encodeByte (byte c) ++ cs = c :: cs
    rw [encodeByte, if_pos hplain, hc, List.singleton_append]

/-! ### Values -/

/-- The byte that a written byte stands for before escapes are resolved. -/
def spaced (b : UInt8) : UInt8 :=
  if b = byte '+' then byte ' ' else b

/-- A byte that begins no escape stands for itself. -/
theorem unescape_cons {b : UInt8} (h : b ≠ byte '%') (bs : List UInt8) :
    unescape (b :: bs) = b :: unescape bs := by
  cases bs with
  | nil => rfl
  | cons c bs =>
    cases bs with
    | nil => rfl
    | cons d bs => rw [unescape, if_neg h]

/-- A hexadecimal digit has its value, and it is no plus sign. -/
theorem hexValue?_hexDigit :
    ∀ n < 16, hexValue? (byte (hexDigit n)) = some n ∧ spaced (byte (hexDigit n)) = byte (hexDigit n)
      ∧ (hexDigit n).toNat < 0x80 := by
  decide

/-- A written byte is read as that byte. -/
theorem unescape_encodeByte (b : UInt8) (bs : List UInt8) :
    unescape ((Utf8.encode (encodeByte b)).map spaced ++ bs) = b :: unescape bs := by
  have hb := b.toNat_lt
  unfold encodeByte
  split
  · next hplain =>
    obtain ⟨hnat, hbyte⟩ := byte_ofNat (lt_of_isPlain hplain)
    have hplus : b ≠ byte '+' := by rintro rfl; exact absurd hplain (by decide)
    have hpercent : b ≠ byte '%' := by rintro rfl; exact absurd hplain (by decide)
    have hwritten : Utf8.encode [Char.ofNat b.toNat] = [b] := by
      rw [Utf8.encode_of_ascii (by simpa [hnat] using lt_of_isPlain hplain), List.map_singleton]
      exact congrArg (fun x => [x]) hbyte
    rw [hwritten, List.map_singleton, spaced, if_neg hplus, List.singleton_append,
      unescape_cons hpercent]
  · split
    · next hspace =>
      obtain rfl : b = byte ' ' := by simpa using hspace
      exact unescape_cons (by decide) bs
    · -- An escape: no plus sign is in it, and its two digits make up the byte.
      obtain ⟨hhigh, hhighPlus, hhighAscii⟩ := hexValue?_hexDigit (b.toNat / 16) (by omega)
      obtain ⟨hlow, hlowPlus, hlowAscii⟩ := hexValue?_hexDigit (b.toNat % 16) (by omega)
      have hvalue : 16 * (b.toNat / 16) + b.toNat % 16 = b.toNat := by omega
      have hascii : ∀ c ∈ ['%', hexDigit (b.toNat / 16), hexDigit (b.toNat % 16)],
          c.toNat < 0x80 := by
        simp [hhighAscii, hlowAscii]
      rw [Utf8.encode_of_ascii hascii]
      change unescape (byte '%' :: spaced (byte (hexDigit (b.toNat / 16)))
        :: spaced (byte (hexDigit (b.toNat % 16))) :: bs) = b :: unescape bs
      rw [hhighPlus, hlowPlus, unescape, if_pos rfl, hhigh, hlow]
      simp only [hvalue, UInt8.ofNat_toNat]

/-- The bytes of a text are read back, whatever stands after them. -/
theorem unescape_encode (bs rest : List UInt8) :
    unescape ((Utf8.encode (bs.flatMap encodeByte)).map spaced ++ rest) = bs ++ unescape rest := by
  induction bs with
  | nil => rfl
  | cons b bs ih =>
    rw [List.flatMap_cons, Utf8.encode_append, List.map_append, List.append_assoc,
      unescape_encodeByte, ih, List.cons_append]

/-- Every text is read back. -/
theorem decode_encode (cs : List Char) : decode (Utf8.encode (encode cs)) = cs := by
  have hbytes : unescape ((Utf8.encode (encode cs)).map spaced) = Utf8.encode cs := by
    have hnil : unescape [] = [] := rfl
    have h := unescape_encode (Utf8.encode cs) []
    rwa [hnil, List.append_nil, List.append_nil] at h
  change Utf8.decodeLossy (unescape ((Utf8.encode (encode cs)).map spaced)) = cs
  rw [hbytes, Utf8.decodeLossy_encode]

/-- Texts that are written alike are the same. -/
theorem encode_inj {cs ds : List Char} : encode cs = encode ds ↔ cs = ds := by
  constructor
  · intro h
    have hread := decode_encode cs
    rw [h, decode_encode] at hread
    exact hread.symm
  · rintro rfl
    rfl

/-! ### Fields -/

/-- The written form of one field. -/
def writtenField (p : List Char × List Char) : List Char :=
  encode p.1 ++ '=' :: encode p.2

/-- The written form of fields in order. -/
def written (ps : List (List Char × List Char)) : List Char :=
  ['&'].intercalate (ps.map writtenField)

/-- The byte of an ASCII character that is not written does not occur among
    the bytes of a written value. -/
theorem byte_not_mem {c : Char} (hc : c.toNat < 0x80) (h : isWritten c = false)
    (cs : List Char) : byte c ∉ Utf8.encode (encode cs) := by
  rw [Utf8.encode_of_ascii fun d hd => lt_of_isWritten (isWritten_of_mem_encode hd)]
  intro hmem
  obtain ⟨d, hd, heq⟩ := List.mem_map.mp hmem
  have hascii := lt_of_isWritten (isWritten_of_mem_encode hd)
  have hnat : d.toNat = c.toNat := by
    have := congrArg UInt8.toNat heq
    rwa [byte, Utf8.toNat_byte (by omega), Utf8.toNat_byte (by omega)] at this
  obtain rfl : d = c := Char.toNat_inj.mp hnat
  exact not_mem_encode h cs hd

theorem encode_writtenField (p : List Char × List Char) :
    Utf8.encode (writtenField p)
      = Utf8.encode (encode p.1) ++ byte '=' :: Utf8.encode (encode p.2) := by
  rw [writtenField, Utf8.encode_append, Utf8.encode_cons, Utf8.encodeChar_of_ascii (by decide)]
  rfl

/-- A written field is read back. -/
theorem field_writtenField (p : List Char × List Char) :
    field (Utf8.encode (writtenField p)) = p := by
  have hcut := cutAt_eq_some_iff.mpr ⟨byte_not_mem (c := '=') (by decide) (by decide) p.1,
    encode_writtenField p⟩
  rw [field, hcut]
  simp only [decode_encode]

/-- No separator of fields occurs in a field. -/
theorem separator_not_mem (p : List Char × List Char) :
    byte '&' ∉ Utf8.encode (writtenField p) := by
  rw [encode_writtenField, List.mem_append, List.mem_cons]
  rintro (h | h | h)
  · exact byte_not_mem (by decide) (by decide) p.1 h
  · exact absurd h (by decide)
  · exact byte_not_mem (by decide) (by decide) p.2 h

/-- The bytes of texts with a separator between them. -/
theorem encode_intercalate (ls : List (List Char)) :
    Utf8.encode (['&'].intercalate ls) = [byte '&'].intercalate (ls.map Utf8.encode) := by
  induction ls with
  | nil => rfl
  | cons l ls ih =>
    cases ls with
    | nil => simp
    | cons m ls =>
      rw [List.intercalate_cons_cons, Utf8.encode_append, Utf8.encode_append, ih]
      simp only [List.map_cons, List.intercalate_cons_cons]
      rfl

/-- Every list of fields is read back. -/
theorem fields_written (ps : List (List Char × List Char)) : fields (written ps) = ps := by
  by_cases hnil : ps = []
  · subst hnil
    rfl
  · have hsplit : List.splitOn (byte '&') (Utf8.encode (written ps))
        = ps.map fun p => Utf8.encode (writtenField p) := by
      rw [written, encode_intercalate, List.map_map]
      refine List.splitOn_intercalate _ ?_ (by simpa using hnil)
      intro l hl
      obtain ⟨p, -, rfl⟩ := List.mem_map.mp hl
      exact separator_not_mem p
    -- A written field has a sign of equality, so no piece is dropped as empty.
    have hkept : (ps.map fun p => Utf8.encode (writtenField p)).filter (fun piece => !piece.isEmpty)
        = ps.map fun p => Utf8.encode (writtenField p) := by
      refine List.filter_eq_self.mpr fun l hl => ?_
      obtain ⟨p, -, rfl⟩ := List.mem_map.mp hl
      simp [encode_writtenField]
    rw [fields, hsplit, hkept, List.map_map]
    calc ps.map (field ∘ fun p => Utf8.encode (writtenField p))
        = ps.map id := List.map_congr_left fun p _ => field_writtenField p
      _ = ps := List.map_id ps

end HubAuth.Text.Form
