import HubAuth.Proofs.Text.Division
import HubAuth.Proofs.Text.Form

/-! # What forms stand for

  A form is read byte by byte, but it is a text, and what it stands for can be
  said of the text: the separators `&` and `=` are found among its characters,
  and a name or a value spells bytes, of which its characters are made. Some
  bytes can be spelled in several ways, so there are many forms of the same
  fields.

  * `unescape_eq_iff`: which bytes are spelled.
  * `field_eq_iff`: which name and value a piece stands for.
  * `fields_of_divided`: a form is read piece by piece.
  * `field_of_respelled`: another spelling stands for the same.
-/

namespace HubAuth.Text.Form

/-! ### Characters among bytes -/

/-- A byte below 128 is the character that it is a byte of. -/
theorem toNat_of_mem_encodeChar {c : Char} {b : UInt8} (h : b ∈ String.utf8EncodeChar c)
    (hb : b.toNat < 0x80) : c.toNat = b.toNat := by
  have hvalue : c.val.toNat = c.toNat := rfl
  simp only [String.utf8EncodeChar] at h
  -- All bytes of a longer character have their highest bit set.
  split at h
  · obtain rfl := List.mem_singleton.mp h
    rw [UInt8.toNat_ofNat']
    omega
  · split at h
    · simp only [List.mem_cons, List.not_mem_nil, or_false] at h
      rcases h with rfl | rfl
      all_goals
        rw [UInt8.toNat_ofNat'] at hb
        omega
    · split at h
      · simp only [List.mem_cons, List.not_mem_nil, or_false] at h
        rcases h with rfl | rfl | rfl
        all_goals
          rw [UInt8.toNat_ofNat'] at hb
          omega
      · simp only [List.mem_cons, List.not_mem_nil, or_false] at h
        rcases h with rfl | rfl | rfl | rfl
        all_goals
          rw [UInt8.toNat_ofNat'] at hb
          omega

theorem encode_separator {sep : Char} (hsep : sep.toNat < 0x80) :
    String.utf8EncodeChar sep = [byte sep] :=
  Utf8.encodeChar_of_ascii hsep

/-- An ASCII character is found among the bytes where it is in the text. -/
theorem byte_mem_encode_iff {sep : Char} (hsep : sep.toNat < 0x80) {cs : List Char} :
    byte sep ∈ Utf8.encode cs ↔ sep ∈ cs := by
  have hbyte : (byte sep).toNat = sep.toNat := Utf8.toNat_byte (by omega)
  rw [Utf8.encode, List.mem_flatMap]
  constructor
  · intro h
    obtain ⟨c, hc, hmem⟩ := h
    have hnat : c.toNat = (byte sep).toNat := toNat_of_mem_encodeChar hmem (by omega)
    obtain rfl : c = sep := Char.toNat_inj.mp (hnat.trans hbyte)
    exact hc
  · intro h
    refine ⟨sep, h, ?_⟩
    rw [encode_separator hsep]
    exact List.mem_singleton_self _

theorem encode_eq_nil_iff {cs : List Char} : Utf8.encode cs = [] ↔ cs = [] := by
  constructor
  · intro h
    have hdecode := Utf8.decodeLossy_encode cs
    rw [h] at hdecode
    rw [← hdecode]
    simp [Utf8.decodeLossy, Utf8.units]
  · rintro rfl
    rfl

/-- A text and its bytes are cut in two at the same place. -/
theorem cutAt_encode {sep : Char} (hsep : sep.toNat < 0x80) (cs : List Char) :
    cutAt (byte sep) (Utf8.encode cs)
      = (cutAt sep cs).map fun p => (Utf8.encode p.1, Utf8.encode p.2) := by
  cases hcut : cutAt sep cs with
  | none =>
    rw [Option.map_none, cutAt_eq_none_iff, byte_mem_encode_iff hsep]
    exact cutAt_eq_none_iff.mp hcut
  | some p =>
    obtain ⟨before, after⟩ := p
    obtain ⟨hbefore, rfl⟩ := cutAt_eq_some_iff.mp hcut
    rw [Option.map_some, cutAt_eq_some_iff, byte_mem_encode_iff hsep]
    refine ⟨hbefore, ?_⟩
    rw [Utf8.encode_append, Utf8.encode_cons, encode_separator hsep]
    rfl

/-! ### Spelling -/

/-- The bytes begin with two hexadecimal digits. -/
def BeginsEscape (bs : List UInt8) : Prop :=
  ∃ b c h l rest, bs = b :: c :: rest ∧ hexValue? b = some h ∧ hexValue? c = some l

/-- How bytes are spelled. -/
inductive Spells : List UInt8 → List UInt8 → Prop
  /-- Nothing spells nothing. -/
  | nil : Spells [] []
  /-- A plus sign spells the space. -/
  | space {w bs : List UInt8} (rest : Spells w bs) : Spells (byte '+' :: w) (byte ' ' :: bs)
  /-- A percent sign before two digits spells the byte with their value. -/
  | escape {b c : UInt8} {h l : Nat} {w bs : List UInt8} (high : hexValue? b = some h)
      (low : hexValue? c = some l) (rest : Spells w bs) :
      Spells (byte '%' :: b :: c :: w) (UInt8.ofNat (16 * h + l) :: bs)
  /-- Any other percent sign spells itself. -/
  | stray {w bs : List UInt8} (h : ¬BeginsEscape w) (rest : Spells w bs) :
      Spells (byte '%' :: w) (byte '%' :: bs)
  /-- Any other byte spells itself. -/
  | plain {b : UInt8} {w bs : List UInt8} (plus : b ≠ byte '+') (percent : b ≠ byte '%')
      (rest : Spells w bs) : Spells (b :: w) (b :: bs)

variable {w bs : List UInt8}

/-- Nothing is spelled only by nothing. -/
theorem spells_nil_iff {w : List UInt8} : Spells w [] ↔ w = [] := by
  constructor
  · intro h
    cases h
    rfl
  · rintro rfl
    exact .nil

/-- A plus sign is no digit, and no digit becomes another byte. -/
theorem hexValue?_spaced (b : UInt8) : hexValue? (spaced b) = hexValue? b := by
  unfold spaced
  split
  · next h =>
    rw [h]
    decide
  · rfl

theorem spaced_percent : spaced (byte '%') = byte '%' := by
  decide

theorem unescape_escape {b c : UInt8} {h l : Nat} (high : hexValue? b = some h)
    (low : hexValue? c = some l) (bs : List UInt8) :
    unescape (byte '%' :: b :: c :: bs) = UInt8.ofNat (16 * h + l) :: unescape bs := by
  rw [unescape, if_pos rfl, high, low]

theorem unescape_stray (h : ¬BeginsEscape w) :
    unescape (byte '%' :: w) = byte '%' :: unescape w := by
  cases w with
  | nil => rfl
  | cons b w =>
    cases w with
    | nil => rfl
    | cons c w =>
      rw [unescape, if_pos rfl]
      split
      · next high low => exact absurd ⟨b, c, _, _, w, rfl, high, low⟩ h
      · rfl

theorem beginsEscape_spaced : BeginsEscape (w.map spaced) ↔ BeginsEscape w := by
  constructor
  · intro h
    obtain ⟨b, c, h, l, rest, hw, high, low⟩ := h
    obtain ⟨b', w', rfl, rfl, hw'⟩ := List.map_eq_cons_iff.mp hw
    obtain ⟨c', w'', rfl, rfl, -⟩ := List.map_eq_cons_iff.mp hw'
    rw [hexValue?_spaced] at high low
    exact ⟨b', c', h, l, w'', rfl, high, low⟩
  · intro h
    obtain ⟨b, c, h, l, rest, rfl, high, low⟩ := h
    rw [← hexValue?_spaced] at high low
    exact ⟨spaced b, spaced c, h, l, rest.map spaced, rfl, high, low⟩

/-- What is spelled is read. -/
theorem unescape_of_spells (h : Spells w bs) : unescape (w.map spaced) = bs := by
  induction h with
  | nil => rfl
  | space rest ih =>
    rw [List.map_cons, unescape_cons (by decide), ih]
    rfl
  | escape high low rest ih =>
    rw [← hexValue?_spaced] at high low
    rw [List.map_cons, List.map_cons, List.map_cons, spaced_percent, unescape_escape high low, ih]
  | stray h rest ih =>
    rw [List.map_cons, spaced_percent, unescape_stray (mt beginsEscape_spaced.mp h), ih]
  | plain plus percent rest ih =>
    rw [List.map_cons, spaced, if_neg plus, unescape_cons percent, ih]

/-- All bytes spell something. An escape takes three of them, so the induction
    is on their number. -/
theorem exists_spells (w : List UInt8) : ∃ bs, Spells w bs := by
  induction hlength : w.length using Nat.strongRecOn generalizing w with
  | ind n ih =>
    subst hlength
    cases w with
    | nil => exact ⟨[], .nil⟩
    | cons b w =>
      obtain ⟨bs, hbs⟩ := ih w.length (by simp) w rfl
      by_cases hplus : b = byte '+'
      · subst hplus
        exact ⟨_, .space hbs⟩
      by_cases hpercent : b = byte '%'
      · subst hpercent
        by_cases hescape : BeginsEscape w
        · obtain ⟨b, c, h, l, rest, rfl, high, low⟩ := hescape
          obtain ⟨bs', hbs'⟩ := ih rest.length (by simp; omega) rest rfl
          exact ⟨_, .escape high low hbs'⟩
        · exact ⟨_, .stray hescape hbs⟩
      · exact ⟨_, .plain hplus hpercent hbs⟩

/-- What is read is what is spelled. -/
theorem unescape_eq_iff : unescape (w.map spaced) = bs ↔ Spells w bs := by
  constructor
  · rintro rfl
    obtain ⟨bs, hbs⟩ := exists_spells w
    rw [unescape_of_spells hbs]
    exact hbs
  · exact unescape_of_spells

/-! ### Pieces -/

/-- A written name or value and the text it stands for: that of the bytes it
    spells, with a replacement character where they are not UTF-8. -/
def Decodes (cs ds : List Char) : Prop :=
  ∃ bs, Spells (Utf8.encode cs) bs ∧ ds = Utf8.decodeLossy bs

theorem decode_eq_iff {cs ds : List Char} : decode (Utf8.encode cs) = ds ↔ Decodes cs ds := by
  show Utf8.decodeLossy (unescape ((Utf8.encode cs).map spaced)) = ds ↔ _
  constructor
  · rintro rfl
    exact ⟨_, unescape_eq_iff.mp rfl, rfl⟩
  · intro h
    obtain ⟨bs, hbs, rfl⟩ := h
    rw [unescape_eq_iff.mpr hbs]

/-- A piece of a form, and the name and the value that it stands for. -/
inductive Stands : List Char → List Char × List Char → Prop
  /-- The value begins after the first equals sign. -/
  | pair {name value ds es : List Char} (first : '=' ∉ name) (hname : Decodes name ds)
      (hvalue : Decodes value es) : Stands (name ++ '=' :: value) (ds, es)
  /-- Without an equals sign the value is empty. -/
  | bare {name ds : List Char} (none : '=' ∉ name) (hname : Decodes name ds) : Stands name (ds, [])

theorem field_eq_iff {piece : List Char} {p : List Char × List Char} :
    field (Utf8.encode piece) = p ↔ Stands piece p := by
  unfold field
  rw [cutAt_encode (by decide)]
  cases hcut : cutAt '=' piece with
  | none =>
    have hnone := cutAt_eq_none_iff.mp hcut
    rw [Option.map_none]
    constructor
    · rintro rfl
      exact .bare hnone (decode_eq_iff.mp rfl)
    · intro h
      cases h with
      | pair first => simp at hnone
      | bare none hname => rw [decode_eq_iff.mpr hname]
  | some cut =>
    obtain ⟨name, value⟩ := cut
    obtain ⟨hfirst, rfl⟩ := cutAt_eq_some_iff.mp hcut
    rw [Option.map_some]
    constructor
    · rintro rfl
      exact .pair hfirst (decode_eq_iff.mp rfl) (decode_eq_iff.mp rfl)
    · intro h
      generalize hpiece : name ++ '=' :: value = piece at h hcut
      cases h with
      | bare none => simp [← hpiece] at none
      | pair first hname hvalue =>
        -- There is one first equals sign.
        rw [cutAt_eq_some_iff.mpr ⟨first, rfl⟩] at hcut
        obtain ⟨rfl, rfl⟩ := Prod.mk.inj (Option.some.inj hcut)
        simp only [decode_eq_iff.mpr hname, decode_eq_iff.mpr hvalue]

/-- The fields that the pieces of a form stand for. Empty pieces are skipped. -/
def fieldsOf (pieces : List (List Char)) : List (List Char × List Char) :=
  (pieces.filter fun piece => piece ≠ []).map fun piece => field (Utf8.encode piece)

theorem fieldsOf_append (ps qs : List (List Char)) :
    fieldsOf (ps ++ qs) = fieldsOf ps ++ fieldsOf qs := by
  simp [fieldsOf]

theorem fieldsOf_nil_cons (ps : List (List Char)) : fieldsOf ([] :: ps) = fieldsOf ps := by
  simp [fieldsOf]

theorem fieldsOf_cons {piece : List Char} (h : piece ≠ []) (ps : List (List Char)) :
    fieldsOf (piece :: ps) = field (Utf8.encode piece) :: fieldsOf ps := by
  simp [fieldsOf, h]

/-- A form is read piece by piece. -/
theorem fields_of_divided {cs : List Char} {pieces : List (List Char)}
    (h : Divided '&' cs pieces) : fields cs = fieldsOf pieces := by
  have hsplit : List.splitOn (byte '&') (Utf8.encode cs) = pieces.map Utf8.encode := by
    rw [splitOn_eq_iff]
    refine ⟨by simpa using h.some_piece, ?_, ?_⟩
    · rw [h.joined, encode_intercalate]
    · intro bytes hbytes
      obtain ⟨piece, hpiece, rfl⟩ := List.mem_map.mp hbytes
      rw [byte_mem_encode_iff (by decide)]
      exact h.whole piece hpiece
  have hkept : ((fun bytes : List UInt8 => !bytes.isEmpty) ∘ Utf8.encode)
      = fun piece => decide (piece ≠ []) := by
    funext piece
    rw [Bool.eq_iff_iff]
    simp [encode_eq_nil_iff]
  unfold fields
  rw [hsplit, List.filter_map, hkept, List.map_map]
  rfl

/-- The names and values that the pieces of a form stand for. -/
def Holds (cs : List Char) (ps : List (List Char × List Char)) : Prop :=
  ∃ pieces, Divided '&' cs pieces ∧
    List.Forall₂ Stands (pieces.filter fun piece => piece ≠ []) ps

theorem fields_eq_iff {cs : List Char} {ps : List (List Char × List Char)} :
    fields cs = ps ↔ Holds cs ps := by
  have hstands : ∀ pieces : List (List Char), fieldsOf pieces = ps ↔
      List.Forall₂ Stands (pieces.filter fun piece => piece ≠ []) ps := by
    intro pieces
    rw [fieldsOf, ← List.forall₂_eq_eq_eq, List.forall₂_map_left_iff]
    simp only [field_eq_iff]
  constructor
  · rintro rfl
    have hdivided : Divided '&' cs (cs.splitOn '&') := splitOn_eq_iff.mp rfl
    refine ⟨_, hdivided, ?_⟩
    rw [← hstands, fields_of_divided hdivided]
  · intro h
    obtain ⟨pieces, hdivided, h⟩ := h
    rw [fields_of_divided hdivided]
    exact (hstands _).mpr h

/-! ### Other spellings -/

/-- The name that a piece stands for. -/
def nameOf (piece : List Char) : List Char :=
  (field (Utf8.encode piece)).1

/-- Two pieces that spell the same name and the same value. -/
inductive Respelled : List Char → List Char → Prop
  /-- With a value. -/
  | pair {name name' value value' : List Char} {ds es : List UInt8} (first : '=' ∉ name)
      (first' : '=' ∉ name') (hname : Spells (Utf8.encode name) ds)
      (hname' : Spells (Utf8.encode name') ds)
      (hvalue : Spells (Utf8.encode value) es)
      (hvalue' : Spells (Utf8.encode value') es) :
      Respelled (name ++ '=' :: value) (name' ++ '=' :: value')
  /-- Without one. -/
  | bare {name name' : List Char} {ds : List UInt8} (none : '=' ∉ name) (none' : '=' ∉ name')
      (hname : Spells (Utf8.encode name) ds)
      (hname' : Spells (Utf8.encode name') ds) : Respelled name name'

theorem field_of_respelled {p q : List Char} (h : Respelled p q) :
    field (Utf8.encode p) = field (Utf8.encode q) := by
  cases h with
  | pair first first' hname hname' hvalue hvalue' =>
    rw [field_eq_iff.mpr (.pair first ⟨_, hname, rfl⟩ ⟨_, hvalue, rfl⟩),
      field_eq_iff.mpr (.pair first' ⟨_, hname', rfl⟩ ⟨_, hvalue', rfl⟩)]
  | bare none none' hname hname' =>
    rw [field_eq_iff.mpr (.bare none ⟨_, hname, rfl⟩),
      field_eq_iff.mpr (.bare none' ⟨_, hname', rfl⟩)]

theorem nil_of_respelled {p q : List Char} (h : Respelled p q) : p = [] ↔ q = [] := by
  cases h with
  | pair => simp
  | bare none none' hname hname' =>
    constructor
    · rintro rfl
      cases hname
      exact encode_eq_nil_iff.mp (spells_nil_iff.mp hname')
    · rintro rfl
      cases hname'
      exact encode_eq_nil_iff.mp (spells_nil_iff.mp hname)

end HubAuth.Text.Form
