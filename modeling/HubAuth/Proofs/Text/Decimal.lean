import HubAuth.Text.Decimal
import HubAuth.Time.Instant
import Mathlib.Data.List.Basic
import Mathlib.Data.List.Induction

/-! # Reading written numbers

  A number in decimal notation is read back as the same number, whatever its
  sign, and a point of time as the same point of time.

  * `readSigned?_signedDecimal`: every integer is read back.
  * `ofText?_toText`: every point of time is read back, the first and the last
    one included.
  * `eq_decimal`: digits without a leading zero are what is written for a number.
  * `readSigned?_eq_some_iff`, `ofText?_eq_some_iff`: what else is read.
-/

namespace HubAuth.Text

/-! ### Digits -/

theorem digit?_digitChar : ∀ d < 10, digit? (Nat.digitChar d) = some d := by
  decide

/-- Digits are read from the left onto the number so far. -/
theorem readDigits_append (n : Nat) (cs ds : List Char) :
    readDigits n (cs ++ ds) = (readDigits n cs).bind fun m => readDigits m ds := by
  induction cs generalizing n with
  | nil => rfl
  | cons c cs ih =>
    cases hd : digit? c with
    | none => simp [readDigits, hd]
    | some d => simp [readDigits, hd, ih]

/-- The digits of a number are read as that number. -/
theorem readDigits_decimal (n : Nat) : readDigits 0 (decimal n) = some n := by
  induction n using Nat.strongRecOn with
  | ind n ih =>
    unfold decimal
    by_cases h : n < 10
    · rw [Nat.toDigits_of_lt_base h]
      simp [readDigits, digit?_digitChar n h]
    · -- All digits but the last are those of `n / 10`.
      have hlast : n % 10 < 10 := Nat.mod_lt n (by decide)
      have hprefix : readDigits 0 (Nat.toDigits 10 (n / 10)) = some (n / 10) :=
        ih (n / 10) (by omega)
      have hn : 10 * (n / 10) + n % 10 = n := by omega
      rw [Nat.toDigits_of_base_le (by decide) (by omega), readDigits_append, hprefix]
      simp [readDigits, digit?_digitChar _ hlast, hn]

/-- A written number has a digit and is read as that number. -/
theorem readDecimal?_decimal (n : Nat) : readDecimal? (decimal n) = some n := by
  have hread := readDigits_decimal n
  cases h : decimal n with
  | nil => exact absurd h Nat.toDigits_ne_nil
  | cons c cs => rw [h] at hread; exact hread

theorem isDigit_of_mem_decimal {n : Nat} {c : Char} (h : c ∈ decimal n) : c.isDigit = true :=
  Nat.isDigit_of_mem_toDigits (by decide) (by decide) h

/-! ### Signs -/

/-- A number written without a sign is read without one. -/
theorem readSigned?_decimal (n : Nat) : readSigned? (decimal n) = some (n : Int) := by
  have hread := readDecimal?_decimal n
  cases h : decimal n with
  | nil => exact absurd h Nat.toDigits_ne_nil
  | cons c cs =>
    have hc : c.isDigit = true := isDigit_of_mem_decimal (n := n) (by simp [h])
    have hminus : c ≠ '-' := by rintro rfl; exact absurd hc (by decide)
    have hplus : c ≠ '+' := by rintro rfl; exact absurd hc (by decide)
    rw [h] at hread
    unfold readSigned?
    split
    · next heq => exact absurd (List.cons.inj heq).1 hminus
    · next heq => exact absurd (List.cons.inj heq).1 hplus
    · rw [hread]; rfl

/-- Every integer is read back. -/
theorem readSigned?_signedDecimal (i : Int) : readSigned? (signedDecimal i) = some i := by
  cases i with
  | ofNat n => exact readSigned?_decimal n
  | negSucc n =>
    simp only [signedDecimal, readSigned?, readDecimal?_decimal]
    rfl

/-- A written integer consists of digits and the minus sign. -/
theorem isDigit_or_minus_of_mem {i : Int} {c : Char} (h : c ∈ signedDecimal i) :
    c.isDigit = true ∨ c = '-' := by
  cases i with
  | ofNat n => exact .inl (isDigit_of_mem_decimal h)
  | negSucc n =>
    rcases List.mem_cons.mp h with rfl | hmem
    · exact .inr rfl
    · exact .inl (isDigit_of_mem_decimal hmem)

/-! ### What is read -/

/-- A sequence of digits and its value. -/
inductive Digits : List Char → Nat → Prop
  /-- One digit. -/
  | one {c : Char} (h : c.isDigit = true) : Digits [c] (c.toNat - '0'.toNat)
  /-- A digit at the end. -/
  | more {cs : List Char} {n : Nat} {c : Char} (rest : Digits cs n) (h : c.isDigit = true) :
      Digits (cs ++ [c]) (10 * n + (c.toNat - '0'.toNat))

/-- Digits after at most one sign, and their value. -/
inductive Signed : List Char → Int → Prop
  /-- Without a sign. -/
  | bare {cs : List Char} {n : Nat} (h : Digits cs n) : Signed cs n
  /-- With a plus sign. -/
  | plus {cs : List Char} {n : Nat} (h : Digits cs n) : Signed ('+' :: cs) n
  /-- With a minus sign. -/
  | minus {cs : List Char} {n : Nat} (h : Digits cs n) : Signed ('-' :: cs) (-n)

theorem digit?_eq_some_iff {c : Char} {d : Nat} :
    digit? c = some d ↔ c.isDigit = true ∧ d = c.toNat - '0'.toNat := by
  have hdigit : c.isDigit = true ↔ '0' ≤ c ∧ c ≤ '9' := by
    rw [Char.isDigit_iff_toNat]
    exact Iff.rfl
  unfold digit?
  split
  · next h => simp [hdigit, h, eq_comm]
  · next h => simp [hdigit, h]

/-- The last digit is read last. -/
theorem readDigits_concat_iff {cs : List Char} {c : Char} {m n : Nat} :
    readDigits m (cs ++ [c]) = some n ↔ ∃ k, readDigits m cs = some k ∧ c.isDigit = true ∧
      n = 10 * k + (c.toNat - '0'.toNat) := by
  rw [readDigits_append, Option.bind_eq_some_iff]
  simp only [readDigits, Option.bind_eq_some_iff, digit?_eq_some_iff, Option.some.injEq]
  constructor
  · intro h
    obtain ⟨k, hk, d, ⟨hc, rfl⟩, rfl⟩ := h
    exact ⟨k, hk, hc, rfl⟩
  · intro h
    obtain ⟨k, hk, hc, rfl⟩ := h
    exact ⟨k, hk, _, ⟨hc, rfl⟩, rfl⟩

theorem readDecimal?_of_ne_nil {cs : List Char} (h : cs ≠ []) :
    readDecimal? cs = readDigits 0 cs := by
  cases cs with
  | nil => exact absurd rfl h
  | cons c cs => rfl

theorem readDecimal?_eq_some_iff {cs : List Char} {n : Nat} :
    readDecimal? cs = some n ↔ Digits cs n := by
  constructor
  · intro h
    -- The digits are taken off from the end, as their value is made up.
    induction cs using List.reverseRecOn generalizing n with
    | nil => cases h
    | append_singleton cs c ih =>
      rw [readDecimal?_of_ne_nil (by simp)] at h
      obtain ⟨k, hk, hc, rfl⟩ := readDigits_concat_iff.mp h
      by_cases hcs : cs = []
      · subst hcs
        obtain rfl : 0 = k := Option.some.inj hk
        rw [Nat.mul_zero, Nat.zero_add]
        exact .one hc
      · exact .more (ih (by rw [readDecimal?_of_ne_nil hcs, hk])) hc
  · intro h
    induction h with
    | one h => simp [readDecimal?, readDigits, digit?_eq_some_iff.mpr ⟨h, rfl⟩]
    | @more cs n c rest h ih =>
      have hcs : cs ≠ [] := by
        rintro rfl
        cases ih
      rw [readDecimal?_of_ne_nil hcs] at ih
      rw [readDecimal?_of_ne_nil (by simp)]
      exact readDigits_concat_iff.mpr ⟨n, ih, h, rfl⟩

/-! ### Leading zeros -/

/-- A digit is the character of its value. -/
theorem digitChar_of_digit? {c : Char} {d : Nat} (h : digit? c = some d) :
    d < 10 ∧ Nat.digitChar d = c := by
  obtain ⟨hdigit, rfl⟩ := digit?_eq_some_iff.mp h
  obtain ⟨hlow, hhigh⟩ := Char.isDigit_iff_toNat.mp hdigit
  have hlow : 48 ≤ c.toNat := hlow
  have hhigh : c.toNat ≤ 57 := hhigh
  have hchar : ∀ k < 10, Nat.digitChar k = Char.ofNat (48 + k) := by decide
  have hlt : c.toNat - '0'.toNat < 10 := by
    show c.toNat - 48 < 10
    omega
  refine ⟨hlt, ?_⟩
  have hsum : 48 + (c.toNat - '0'.toNat) = c.toNat := by
    show 48 + (c.toNat - 48) = c.toNat
    omega
  rw [hchar _ hlt, hsum, Char.ofNat_toNat]

theorem decimal_ne_nil (n : Nat) : decimal n ≠ [] := Nat.toDigits_ne_nil

/-- One digit more is written at the end. -/
theorem decimal_concat {n d : Nat} (hn : 0 < n) (hd : d < 10) :
    decimal (10 * n + d) = decimal n ++ [Nat.digitChar d] := by
  have hquotient : (10 * n + d) / 10 = n := by omega
  have hremainder : (10 * n + d) % 10 = d := by omega
  unfold decimal
  rw [Nat.toDigits_of_base_le (by decide) (by omega), hquotient, hremainder]

/-- Only zero is written with a zero in front. -/
theorem decimal_of_head {n : Nat} (h : (decimal n).head? = some '0') : decimal n = ['0'] := by
  have hdigit : ∀ d < 10, Nat.digitChar d = '0' → d = 0 := by decide
  induction n using Nat.strongRecOn with
  | ind n ih =>
    by_cases hn : n < 10
    · unfold decimal at h ⊢
      rw [Nat.toDigits_of_lt_base hn] at h ⊢
      obtain rfl := hdigit n hn (Option.some.inj h)
      rfl
    · have hsplit : 10 * (n / 10) + n % 10 = n := by omega
      have hconcat := decimal_concat (n := n / 10) (d := n % 10) (by omega) (by omega)
      rw [hsplit] at hconcat
      have hbefore : (decimal (n / 10)).head? = some '0' := by
        rw [hconcat, List.head?_append_of_ne_nil _ (decimal_ne_nil _)] at h
        exact h
      -- The digits in front would be a zero, but their value is not.
      have hzero := ih (n / 10) (by omega) hbefore
      have hread := readDigits_decimal (n / 10)
      rw [hzero] at hread
      have hvalue : 0 = n / 10 := Option.some.inj hread
      omega

/-- Digits without a leading zero are what is written for their value. -/
theorem eq_decimal {cs : List Char} {n : Nat} (h : readDigits 0 cs = some n) (hcs : cs ≠ [])
    (hzero : cs.head? = some '0' → cs = ['0']) : cs = decimal n := by
  induction cs using List.reverseRecOn generalizing n with
  | nil => exact absurd rfl hcs
  | append_singleton cs c ih =>
    obtain ⟨m, hm, hdigit, rfl⟩ := readDigits_concat_iff.mp h
    obtain ⟨hlt, hchar⟩ := digitChar_of_digit? (digit?_eq_some_iff.mpr ⟨hdigit, rfl⟩)
    by_cases hfirst : cs = []
    · subst hfirst
      obtain rfl : 0 = m := Option.some.inj hm
      unfold decimal
      rw [Nat.mul_zero, Nat.zero_add, Nat.toDigits_of_lt_base hlt, hchar, List.nil_append]
    · have hnonzero : cs.head? ≠ some '0' := by
        intro hhead
        have hsingle := hzero (by rw [List.head?_append_of_ne_nil _ hfirst]; exact hhead)
        have hlength := congrArg List.length hsingle
        have hpos := List.length_pos_iff.mpr hfirst
        simp only [List.length_append, List.length_cons, List.length_nil] at hlength
        omega
      have hbefore := ih hm hfirst fun hhead => absurd hhead hnonzero
      have hpos : 0 < m := by
        apply Nat.pos_of_ne_zero
        rintro rfl
        apply hnonzero
        rw [hbefore]
        rfl
      rw [decimal_concat hpos hlt, hchar, hbefore]

theorem decimal_inj {m n : Nat} : decimal m = decimal n ↔ m = n := by
  constructor
  · intro h
    have hread := readDigits_decimal m
    rw [h, readDigits_decimal] at hread
    exact (Option.some.inj hread).symm
  · rintro rfl
    rfl

/-! ### Signs in what is read -/

/-- A sign is no digit. -/
theorem digits_head {c : Char} {cs : List Char} {n : Nat} (h : Digits (c :: cs) n) :
    c ≠ '-' ∧ c ≠ '+' := by
  have hread := readDecimal?_eq_some_iff.mpr h
  obtain ⟨d, hd, -⟩ := Option.bind_eq_some_iff.mp hread
  have hdigit := (digit?_eq_some_iff.mp hd).1
  constructor
  · rintro rfl
    exact absurd hdigit (by decide)
  · rintro rfl
    exact absurd hdigit (by decide)

theorem readSigned?_minus (cs : List Char) :
    readSigned? ('-' :: cs) = (readDecimal? cs).map fun n : Nat => -(n : Int) := by
  rw [readSigned?]
  cases readDecimal? cs with
  | none => rfl
  | some n => rfl

theorem readSigned?_plus (cs : List Char) :
    readSigned? ('+' :: cs) = (readDecimal? cs).map fun n : Nat => (n : Int) := by
  rw [readSigned?]
  cases readDecimal? cs with
  | none => rfl
  | some n => rfl

theorem readSigned?_bare {cs : List Char} (hminus : ∀ ds, cs ≠ '-' :: ds)
    (hplus : ∀ ds, cs ≠ '+' :: ds) :
    readSigned? cs = (readDecimal? cs).map fun n : Nat => (n : Int) := by
  rw [readSigned?]
  · cases readDecimal? cs with
    | none => rfl
    | some n => rfl
  · exact hminus
  · exact hplus

/-- What is read as an integer. -/
theorem readSigned?_eq_some_iff {cs : List Char} {i : Int} :
    readSigned? cs = some i ↔ Signed cs i := by
  constructor
  · intro h
    by_cases hminus : ∃ ds, cs = '-' :: ds
    · obtain ⟨ds, rfl⟩ := hminus
      rw [readSigned?_minus] at h
      obtain ⟨n, hn, rfl⟩ := Option.map_eq_some_iff.mp h
      exact .minus (readDecimal?_eq_some_iff.mp hn)
    by_cases hplus : ∃ ds, cs = '+' :: ds
    · obtain ⟨ds, rfl⟩ := hplus
      rw [readSigned?_plus] at h
      obtain ⟨n, hn, rfl⟩ := Option.map_eq_some_iff.mp h
      exact .plus (readDecimal?_eq_some_iff.mp hn)
    rw [readSigned?_bare (not_exists.mp hminus) (not_exists.mp hplus)] at h
    obtain ⟨n, hn, rfl⟩ := Option.map_eq_some_iff.mp h
    exact .bare (readDecimal?_eq_some_iff.mp hn)
  · intro h
    cases h with
    | minus h => rw [readSigned?_minus, readDecimal?_eq_some_iff.mpr h, Option.map_some]
    | plus h => rw [readSigned?_plus, readDecimal?_eq_some_iff.mpr h, Option.map_some]
    | bare h =>
      have hminus : ∀ ds, cs ≠ '-' :: ds := by
        rintro ds rfl
        exact (digits_head h).1 rfl
      have hplus : ∀ ds, cs ≠ '+' :: ds := by
        rintro ds rfl
        exact (digits_head h).2 rfl
      rw [readSigned?_bare hminus hplus, readDecimal?_eq_some_iff.mpr h, Option.map_some]

end HubAuth.Text

namespace HubAuth.Instant

/-! ### Points of time -/

theorem ofSeconds?_seconds (t : Instant) : ofSeconds? t.seconds = some t := by
  rw [ofSeconds?, dif_pos ⟨t.lower, t.upper⟩]

/-- Every point of time is read back. -/
theorem ofText?_toText (t : Instant) : ofText? t.toText = some t := by
  rw [ofText?, toText, Text.readSigned?_signedDecimal, Option.bind_some, ofSeconds?_seconds]

/-- Points of time that are written alike are the same. -/
theorem toText_inj {t u : Instant} : t.toText = u.toText ↔ t = u := by
  constructor
  · intro h
    have hread := ofText?_toText t
    rw [h, ofText?_toText] at hread
    exact (Option.some.inj hread).symm
  · rintro rfl
    rfl

theorem ofSeconds?_eq_some_iff {s : Int} {t : Instant} :
    ofSeconds? s = some t ↔ s = t.seconds := by
  constructor
  · intro h
    unfold ofSeconds? at h
    split at h
    · obtain rfl := Option.some.inj h
      rfl
    · cases h
  · rintro rfl
    exact ofSeconds?_seconds t

/-- What is read as a point of time: a number in its range. -/
theorem ofText?_eq_some_iff {cs : List Char} {t : Instant} :
    ofText? cs = some t ↔ Text.Signed cs t.seconds := by
  unfold ofText?
  rw [Option.bind_eq_some_iff]
  simp only [Text.readSigned?_eq_some_iff, ofSeconds?_eq_some_iff]
  constructor
  · intro h
    obtain ⟨i, h, rfl⟩ := h
    exact h
  · intro h
    exact ⟨_, h, rfl⟩

end HubAuth.Instant
