import HubAuth.Json.Text
import HubAuth.Proofs.Json.Grammar

/-! # Reading texts in JSON

  A name is read as its characters, however they are written, and a well-formed
  text is skipped.

  * `text_of_named`: names.
  * `skipText_of_quoted`: texts of no interest, of which the code units need not
    be those of characters.
-/

namespace HubAuth.Json

variable {c : Char} {i cs rest : List Char} {n : Nat}

/-! ### Code units -/

theorem hexDigit?_of_hex (h : Hex c n) : hexDigit? c = some n ∧ n < 16 := by
  have hlower : ∀ k < 16, ("0123456789abcdef".toList[k]?).bind hexDigit? = some k := by decide
  have hupper : ∀ k < 16, ("0123456789ABCDEF".toList[k]?).bind hexDigit? = some k := by decide
  rcases h with h | h
  · have hn : n < 16 := (List.getElem?_eq_some_iff.mp h).1
    have hvalue := hlower n hn
    rw [h] at hvalue
    exact ⟨hvalue, hn⟩
  · have hn : n < 16 := (List.getElem?_eq_some_iff.mp h).1
    have hvalue := hupper n hn
    rw [h] at hvalue
    exact ⟨hvalue, hn⟩

/-- Four hexadecimal digits are read as their value. -/
theorem codeUnit_of_hex4 (h : Hex4 cs n) (rest : List Char) :
    codeUnit (cs ++ rest) = .ok (n, rest) := by
  cases h with
  | digits ha hb hc hd =>
    have ha := (hexDigit?_of_hex ha).1
    have hb := (hexDigit?_of_hex hb).1
    have hc := (hexDigit?_of_hex hc).1
    have hd := (hexDigit?_of_hex hd).1
    simp only [List.cons_append, List.nil_append, codeUnit, ha, hb, hc, hd]

/-! ### Escapes -/

theorem shortEscape?_of_mem :
    ∀ p ∈ shortEscapes, p.1 ≠ 'u' ∧ shortEscape? p.1 = some p.2 := by
  decide

theorem escape_short {letter : Char} (h : (letter, c) ∈ shortEscapes) (rest : List Char) :
    escape (letter :: rest) = .ok (c, rest) := by
  obtain ⟨hu, hc⟩ := shortEscape?_of_mem _ h
  simp only [escape, if_neg hu, hc]

/-- No character is a surrogate. -/
theorem toNat_range (c : Char) : c.toNat < 0xD800 ∨ 0xDFFF < c.toNat ∧ c.toNat < 0x110000 :=
  c.valid

theorem escape_unit (h : Hex4 cs c.toNat) (rest : List Char) :
    escape ('u' :: (cs ++ rest)) = .ok (c, rest) := by
  have hrange := toNat_range c
  have hlow : ¬(0xDC00 ≤ c.toNat ∧ c.toNat ≤ 0xDFFF) := by omega
  have hhigh : ¬(0xD800 ≤ c.toNat ∧ c.toNat ≤ 0xDBFF) := by omega
  simp only [escape, if_true, codeUnit_of_hex4 h, bind, Except.bind, if_neg hlow, if_neg hhigh,
    Char.ofNat_toNat]
  rfl

theorem escape_pair {ds : List Char} (h : 0x10000 ≤ c.toNat)
    (high : Hex4 cs (0xD800 + (c.toNat - 0x10000) / 0x400))
    (low : Hex4 ds (0xDC00 + (c.toNat - 0x10000) % 0x400)) (rest : List Char) :
    escape ('u' :: (cs ++ '\\' :: 'u' :: (ds ++ rest))) = .ok (c, rest) := by
  have hrange := toNat_range c
  generalize hfirst : 0xD800 + (c.toNat - 0x10000) / 0x400 = first at high
  generalize hsecond : 0xDC00 + (c.toNat - 0x10000) % 0x400 = second at low
  have hjoined : 0x10000 + (first - 0xD800) * 0x400 + (second - 0xDC00) = c.toNat := by omega
  have htrailing : trailing first ('\\' :: 'u' :: (ds ++ rest)) = .ok (c, rest) := by
    have hlow : 0xDC00 ≤ second ∧ second ≤ 0xDFFF := by omega
    simp only [trailing, word, if_true, codeUnit_of_hex4 low, bind, Except.bind, if_pos hlow,
      hjoined, Char.ofNat_toNat]
    rfl
  have hlow : ¬(0xDC00 ≤ first ∧ first ≤ 0xDFFF) := by omega
  have hhigh : 0xD800 ≤ first ∧ first ≤ 0xDBFF := by omega
  simp only [escape, if_true, codeUnit_of_hex4 high, bind, Except.bind, if_neg hlow, if_pos hhigh,
    htrailing]

/-! ### Names -/

theorem textFrom_plain {name : List Char} (h : Plain c) (hrest : textFrom n cs = .ok (name, rest)) :
    textFrom (n + 1) (c :: cs) = .ok (c :: name, rest) := by
  obtain ⟨hcontrol, hquote, hbackslash⟩ := h
  have hcontrol : ¬c < ' ' := Char.not_lt.mpr hcontrol
  simp only [textFrom, if_neg hquote, if_neg hbackslash, if_neg hcontrol, hrest, bind, Except.bind]
  rfl

theorem textFrom_escape {name : List Char} (h : escape i = .ok (c, cs))
    (hrest : textFrom n cs = .ok (name, rest)) :
    textFrom (n + 1) ('\\' :: i) = .ok (c :: name, rest) := by
  have hquote : '\\' ≠ '"' := by decide
  simp only [textFrom, if_neg hquote, if_true, h, hrest, bind, Except.bind]
  rfl

/-- A written character is read. -/
theorem textFrom_spelled {name : List Char} (h : Spelled c i)
    (hrest : textFrom n cs = .ok (name, rest)) :
    textFrom (n + 1) (i ++ cs) = .ok (c :: name, rest) := by
  cases h with
  | plain h => exact textFrom_plain h hrest
  | short h => exact textFrom_escape (escape_short h cs) hrest
  | unit h => exact textFrom_escape (escape_unit h cs) hrest
  | pair h high low =>
    simp only [List.cons_append, List.append_assoc]
    exact textFrom_escape (escape_pair h high low cs) hrest

theorem length_pos_of_spelled (h : Spelled c i) : 0 < i.length := by
  cases h <;> simp

/-- A name is read as its characters, given a step for every character. -/
theorem textFrom_of_named {name : List Char} (h : Named name cs) (hn : cs.length ≤ n) :
    textFrom n (cs ++ rest) = .ok (name, rest) := by
  induction h generalizing n with
  | close =>
    obtain ⟨m, rfl⟩ := Nat.exists_eq_add_of_le' hn
    simp [textFrom]
  | @char c i name cs h hrest ih =>
    have hi := length_pos_of_spelled h
    rw [List.length_append] at hn
    obtain ⟨m, rfl⟩ := Nat.exists_eq_add_of_le' (show 1 ≤ n by omega)
    rw [List.append_assoc]
    exact textFrom_spelled h (ih (by omega))

theorem text_of_named {name : List Char} (h : Named name cs) (rest : List Char) :
    text (cs ++ rest) = .ok (name, rest) :=
  textFrom_of_named h (by simp)

/-! ### Texts of no interest -/

theorem skipTextFrom_plain (h : Plain c) : skipTextFrom (n + 1) (c :: cs) = skipTextFrom n cs := by
  obtain ⟨hcontrol, hquote, hbackslash⟩ := h
  have hcontrol : ¬c < ' ' := Char.not_lt.mpr hcontrol
  simp only [skipTextFrom, if_neg hquote, if_neg hbackslash, if_neg hcontrol]

theorem skipTextFrom_escape (h : skipEscape i = .ok cs) :
    skipTextFrom (n + 1) ('\\' :: i) = skipTextFrom n cs := by
  have hquote : '\\' ≠ '"' := by decide
  simp only [skipTextFrom, if_neg hquote, if_true, h, bind, Except.bind]

/-- Every item takes one step. -/
theorem skipTextFrom_item (h : Item i) : skipTextFrom (n + 1) (i ++ cs) = skipTextFrom n cs := by
  cases h with
  | plain h => exact skipTextFrom_plain h
  | @short letter c h =>
    obtain ⟨hu, hc⟩ := shortEscape?_of_mem _ h
    apply skipTextFrom_escape
    simp [skipEscape, hu, hc]
  | unit h =>
    apply skipTextFrom_escape
    simp [skipEscape, codeUnit_of_hex4 h, Except.map]

theorem length_pos_of_item (h : Item i) : 0 < i.length := by
  cases h <;> simp

theorem skipTextFrom_of_quoted (h : Quoted cs) (hn : cs.length ≤ n) :
    skipTextFrom n (cs ++ rest) = .ok rest := by
  induction h generalizing n with
  | close =>
    obtain ⟨m, rfl⟩ := Nat.exists_eq_add_of_le' hn
    simp [skipTextFrom]
  | @item i cs h hrest ih =>
    have hi := length_pos_of_item h
    rw [List.length_append] at hn
    obtain ⟨m, rfl⟩ := Nat.exists_eq_add_of_le' (show 1 ≤ n by omega)
    rw [List.append_assoc, skipTextFrom_item h]
    exact ih (by omega)

theorem skipText_of_quoted (h : Quoted cs) (rest : List Char) : skipText (cs ++ rest) = .ok rest :=
  skipTextFrom_of_quoted h (by simp)

end HubAuth.Json
