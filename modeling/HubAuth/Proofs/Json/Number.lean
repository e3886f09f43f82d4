import HubAuth.Json.Number
import HubAuth.Proofs.Json.Grammar
import HubAuth.Proofs.Text.Decimal

/-! # Reading numbers in JSON

  A well-formed number is skipped up to where it ends. Where a natural number is
  needed, what is read is just the decimal notation of a number that fits a word:
  no sign, point or exponent, and no leading zero.

  * `skipNumber_of_parts`: every number is skipped.
  * `natural_eq_ok_iff`: which natural numbers are read.
-/

namespace HubAuth.Json

variable {ds fs es cs rest : List Char} {n : Nat}

/-! ### Digits in front of a text -/

/-- A number cannot go on with this text. -/
def Ends (rest : List Char) : Prop :=
  ∀ c ∈ rest.head?, c.isDigit = false ∧ c ≠ '.' ∧ c ≠ 'e' ∧ c ≠ 'E'

theorem isDigit_eq (c : Char) : isDigit c = c.isDigit := by
  rw [Bool.eq_iff_iff, isDigit, Option.isSome_iff_exists]
  simp only [Text.digit?_eq_some_iff]
  constructor
  · intro h
    obtain ⟨d, hc, -⟩ := h
    exact hc
  · intro hc
    exact ⟨_, hc, rfl⟩

theorem dropWhile_of_not_digit (hrest : ∀ c ∈ rest.head?, c.isDigit = false) :
    rest.dropWhile isDigit = rest := by
  cases rest with
  | nil => rfl
  | cons c rest =>
    have hc : isDigit c = false := by
      rw [isDigit_eq]
      exact hrest c rfl
    exact List.dropWhile_cons_of_neg (by simp [hc])

theorem takeWhile_of_not_digit (hrest : ∀ c ∈ rest.head?, c.isDigit = false) :
    rest.takeWhile isDigit = [] := by
  cases rest with
  | nil => rfl
  | cons c rest =>
    have hc : isDigit c = false := by
      rw [isDigit_eq]
      exact hrest c rfl
    exact List.takeWhile_cons_of_neg (by simp [hc])

theorem not_any_of_not_digit (hrest : ∀ c ∈ rest.head?, c.isDigit = false) :
    ¬rest.head?.any isDigit = true := by
  rw [Option.any_eq_true]
  rintro ⟨c, hc, hdigit⟩
  rw [isDigit_eq, hrest c hc] at hdigit
  cases hdigit

theorem not_digit_of_takeWhile (h : rest.takeWhile isDigit = []) :
    ∀ c ∈ rest.head?, c.isDigit = false := by
  intro c hc
  obtain ⟨rest, rfl⟩ := List.head?_eq_some_iff.mp hc
  rw [List.takeWhile_cons] at h
  split at h
  · cases h
  · next hdigit =>
    rw [isDigit_eq] at hdigit
    simpa using hdigit

/-- Digits are dropped up to the first other character. -/
theorem dropWhile_digits (hds : ∀ c ∈ ds, c.isDigit = true)
    (hrest : ∀ c ∈ rest.head?, c.isDigit = false) : (ds ++ rest).dropWhile isDigit = rest := by
  have hall : ∀ c ∈ ds, isDigit c = true := fun c hc => by rw [isDigit_eq]; exact hds c hc
  rw [List.dropWhile_append_of_pos hall, dropWhile_of_not_digit hrest]

theorem takeWhile_digits (hds : ∀ c ∈ ds, c.isDigit = true)
    (hrest : ∀ c ∈ rest.head?, c.isDigit = false) : (ds ++ rest).takeWhile isDigit = ds := by
  have hall : ∀ c ∈ ds, isDigit c = true := fun c hc => by rw [isDigit_eq]; exact hds c hc
  rw [List.takeWhile_append_of_pos hall, takeWhile_of_not_digit hrest, List.append_nil]

theorem not_digit_of_ends (h : Ends rest) : ∀ c ∈ rest.head?, c.isDigit = false :=
  fun c hc => (h c hc).1

/-- What follows the digits before the point is no digit. -/
theorem not_digit_after_whole (hfraction : Fraction fs) (hexponent : Exponent es)
    (hrest : Ends rest) : ∀ c ∈ (fs ++ (es ++ rest)).head?, c.isDigit = false := by
  intro c hc
  cases hfraction with
  | point h =>
    obtain rfl : '.' = c := Option.some.inj hc
    decide
  | none =>
    cases hexponent with
    | none => exact (hrest c hc).1
    | power hletter hsign h =>
      obtain rfl := Option.some.inj hc
      rcases hletter with rfl | rfl
      · decide
      · decide

/-- What follows the digits after the point is neither a digit nor another
    point. -/
theorem not_digit_after_fraction (hexponent : Exponent es) (hrest : Ends rest) :
    ∀ c ∈ (es ++ rest).head?, c.isDigit = false ∧ c ≠ '.' := by
  intro c hc
  cases hexponent with
  | none => exact ⟨(hrest c hc).1, (hrest c hc).2.1⟩
  | power hletter hsign h =>
    obtain rfl := Option.some.inj hc
    rcases hletter with rfl | rfl
    · decide
    · decide

/-! ### Skipping -/

theorem skipDigits_of_digits (h : SomeDigits ds) (hrest : ∀ c ∈ rest.head?, c.isDigit = false) :
    skipDigits (ds ++ rest) = .ok rest := by
  obtain ⟨hne, hds⟩ := h
  cases ds with
  | nil => exact absurd rfl hne
  | cons d ds =>
    have hd : isDigit d = true := by
      rw [isDigit_eq]
      exact hds d List.mem_cons_self
    have hds : ∀ c ∈ ds, c.isDigit = true := fun c hc => hds c (List.mem_cons_of_mem d hc)
    rw [List.cons_append, skipDigits, if_pos hd, dropWhile_digits hds hrest]

theorem skipWhole_of_whole (h : Whole ds) (hrest : ∀ c ∈ rest.head?, c.isDigit = false) :
    skipWhole (ds ++ rest) = .ok rest := by
  obtain ⟨hdigits, hzero⟩ := h
  cases ds with
  | nil => exact absurd rfl hdigits.1
  | cons d ds =>
    by_cases hd : d = '0'
    · subst hd
      obtain rfl : ds = [] := (List.cons.inj (hzero rfl)).2
      rw [List.cons_append, List.nil_append, skipWhole, if_pos rfl,
        if_neg (not_any_of_not_digit hrest)]
    · rw [List.cons_append, skipWhole, if_neg hd, ← List.cons_append]
      exact skipDigits_of_digits hdigits hrest

theorem skipFraction_of_fraction (h : Fraction fs)
    (hrest : ∀ c ∈ rest.head?, c.isDigit = false ∧ c ≠ '.') :
    skipFraction (fs ++ rest) = .ok rest := by
  cases h with
  | none =>
    rw [List.nil_append, skipFraction]
    rintro cs rfl
    exact (hrest '.' rfl).2 rfl
  | point h =>
    rw [List.cons_append, skipFraction]
    exact skipDigits_of_digits h fun c hc => (hrest c hc).1

/-- A letter without a sign after it. -/
theorem skipExponent_of_digit {letter d : Char} (hletter : letter = 'e' ∨ letter = 'E')
    (hd : d.isDigit = true) : skipExponent (letter :: d :: cs) = skipDigits (d :: cs) := by
  have hplus : ∀ ds, d :: cs ≠ '+' :: ds := by
    intro ds h
    obtain ⟨rfl, -⟩ := List.cons.inj h
    exact absurd hd (by decide)
  have hminus : ∀ ds, d :: cs ≠ '-' :: ds := by
    intro ds h
    obtain ⟨rfl, -⟩ := List.cons.inj h
    exact absurd hd (by decide)
  rcases hletter with rfl | rfl
  · rw [skipExponent]
    · exact hplus
    · exact hminus
  · rw [skipExponent]
    · exact hplus
    · exact hminus

theorem skipExponent_of_exponent (h : Exponent es) (hrest : Ends rest) :
    skipExponent (es ++ rest) = .ok rest := by
  cases h with
  | none =>
    have he : ∀ cs, rest ≠ 'e' :: cs := by
      rintro cs rfl
      exact (hrest 'e' rfl).2.2.1 rfl
    have hE : ∀ cs, rest ≠ 'E' :: cs := by
      rintro cs rfl
      exact (hrest 'E' rfl).2.2.2 rfl
    rw [List.nil_append, skipExponent]
    · exact fun cs => he _
    · exact fun cs => hE _
    · exact fun cs => he _
    · exact fun cs => hE _
    · exact he
    · exact hE
  | @power letter sign ds hletter hsign h =>
    have hskip := skipDigits_of_digits h (not_digit_of_ends hrest)
    rw [List.cons_append, List.append_assoc]
    rcases hsign with rfl | hsign
    · cases ds with
      | nil => exact absurd rfl h.1
      | cons d ds => exact (skipExponent_of_digit hletter (h.2 d List.mem_cons_self)).trans hskip
    · rcases hsign with rfl | rfl
      · rcases hletter with rfl | rfl <;> exact hskip
      · rcases hletter with rfl | rfl <;> exact hskip

/-- Every number is skipped, after its sign. -/
theorem skipNumber_of_parts (hwhole : Whole ds) (hfraction : Fraction fs)
    (hexponent : Exponent es) (hrest : Ends rest) :
    skipNumber (ds ++ (fs ++ (es ++ rest))) = .ok rest := by
  have hskip := skipWhole_of_whole hwhole (not_digit_after_whole hfraction hexponent hrest)
  have hskip' := skipFraction_of_fraction hfraction (not_digit_after_fraction hexponent hrest)
  simp only [skipNumber, hskip, hskip', skipExponent_of_exponent hexponent hrest, bind, Except.bind]

/-! ### Natural numbers -/

/-- Reading digits stops at another character or at the limit. What was read has
    the value and does not exceed the limit. -/
theorem absorb_sound {limit value count value' count' : Nat}
    (h : absorb limit value count cs = (value', count', rest)) (hlimit : value ≤ limit) :
    value' ≤ limit ∧ ∃ ds, cs = ds ++ rest ∧ Text.readDigits value ds = some value' := by
  induction cs generalizing value count with
  | nil =>
    obtain ⟨rfl, -, rfl⟩ := h
    exact ⟨hlimit, [], rfl, rfl⟩
  | cons c cs ih =>
    rw [absorb] at h
    split at h
    · obtain ⟨rfl, -, rfl⟩ := h
      exact ⟨hlimit, [], rfl, rfl⟩
    · next d hd =>
      split at h
      · next hle =>
        obtain ⟨hvalue, ds, rfl, hread⟩ := ih h hle
        refine ⟨hvalue, c :: ds, rfl, ?_⟩
        rw [Text.readDigits, hd, Option.bind_some, Nat.mul_comm, hread]
      · obtain ⟨rfl, -, rfl⟩ := h
        exact ⟨hlimit, [], rfl, rfl⟩

/-- The value only grows with more digits. -/
theorem le_of_readDigits {m : Nat} (h : Text.readDigits m ds = some n) : m ≤ n := by
  induction ds generalizing m with
  | nil =>
    obtain rfl := Option.some.inj h
    exact Nat.le_refl _
  | cons c ds ih =>
    obtain ⟨d, -, hread⟩ := Option.bind_eq_some_iff.mp h
    have hle := ih hread
    omega

/-- Digits that stay within the limit are all read. -/
theorem absorb_of_readDigits {limit m : Nat} (count : Nat) (h : Text.readDigits m ds = some n)
    (hlimit : n ≤ limit) (hrest : ∀ c ∈ rest.head?, c.isDigit = false) :
    ∃ count', absorb limit m count (ds ++ rest) = (n, count', rest) := by
  induction ds generalizing m count with
  | nil =>
    obtain rfl := Option.some.inj h
    refine ⟨count, ?_⟩
    cases rest with
    | nil => rfl
    | cons c rest =>
      have hc : Text.digit? c = none := by
        have hdigit := isDigit_eq c
        rw [hrest c rfl] at hdigit
        exact Option.isNone_iff_eq_none.mp (by rw [← Option.not_isSome, ← isDigit, hdigit]; rfl)
      rw [List.nil_append, absorb, hc]
  | cons c ds ih =>
    obtain ⟨d, hd, hread⟩ := Option.bind_eq_some_iff.mp h
    have hle := le_of_readDigits hread
    rw [Nat.mul_comm] at hread
    obtain ⟨count', hstep⟩ := ih (count + 1) hread
    refine ⟨count', ?_⟩
    rw [List.cons_append, absorb, hd]
    show (if m * 10 + d ≤ limit then _ else _) = _
    rw [if_pos (by omega), hstep]

/-- Digits that fit a word are read if the number ends after them. -/
theorem naturalFrom_of_readDigits (h : Text.readDigits 0 ds = some n) (hn : n ≤ maxWord)
    (hrest : Ends rest) : naturalFrom (ds ++ rest) = .ok (n, rest) := by
  obtain ⟨count, habsorb⟩ := absorb_of_readDigits 0 h hn (not_digit_of_ends hrest)
  unfold naturalFrom
  rw [habsorb]
  simp only [takeWhile_of_not_digit (not_digit_of_ends hrest),
    dropWhile_of_not_digit (not_digit_of_ends hrest)]
  split
  · exact absurd rfl (hrest _ rfl).2.1
  · exact absurd rfl (hrest _ rfl).2.2.1
  · exact absurd rfl (hrest _ rfl).2.2.2
  · rfl

/-- No other digits are, and no other numbers. -/
theorem readDigits_of_naturalFrom (h : naturalFrom cs = .ok (n, rest)) :
    n ≤ maxWord ∧ Ends rest ∧ ∃ ds, cs = ds ++ rest ∧ Text.readDigits 0 ds = some n := by
  unfold naturalFrom at h
  obtain ⟨m, count, tail, habsorb⟩ : ∃ m count tail, absorb maxWord 0 0 cs = (m, count, tail) :=
    ⟨_, _, _, rfl⟩
  obtain ⟨hm, ds, hcs, hread⟩ := absorb_sound habsorb (Nat.zero_le _)
  rw [habsorb] at h
  simp only at h
  split at h
  · cases h
  · cases h
  · cases h
  · next hpoint he hE =>
    split at h
    · next hnone =>
      obtain ⟨rfl, hrest⟩ := Prod.mk.inj (Except.ok.inj h)
      -- No digit is left over, so nothing is dropped.
      have hall : tail = rest := by
        have hsplit := List.takeWhile_append_dropWhile (p := isDigit) (l := tail)
        rw [List.isEmpty_iff.mp hnone, List.nil_append, hrest] at hsplit
        exact hsplit.symm
      subst hall
      rw [hrest] at hpoint he hE
      refine ⟨hm, ?_, ds, hcs, hread⟩
      intro c hc
      refine ⟨not_digit_of_takeWhile (List.isEmpty_iff.mp hnone) c hc, ?_⟩
      obtain ⟨tail, rfl⟩ := List.head?_eq_some_iff.mp hc
      refine ⟨?_, ?_, ?_⟩
      · rintro rfl
        exact hpoint _ rfl
      · rintro rfl
        exact he _ rfl
      · rintro rfl
        exact hE _ rfl
    · cases h

/-- Where digits are read, there are only digits. -/
theorem isDigit_of_readDigits {m : Nat} (h : Text.readDigits m ds = some n) :
    ∀ c ∈ ds, c.isDigit = true := by
  induction ds generalizing m with
  | nil => simp
  | cons c ds ih =>
    obtain ⟨d, hd, hread⟩ := Option.bind_eq_some_iff.mp h
    rw [List.forall_mem_cons]
    exact ⟨(Text.digit?_eq_some_iff.mp hd).1, ih hread⟩

theorem unsigned_eq_ok_iff :
    unsigned cs = .ok (n, rest) ↔ cs = Text.decimal n ++ rest ∧ n ≤ maxWord ∧ Ends rest := by
  constructor
  · intro h
    cases cs with
    | nil => cases h
    | cons c cs =>
      -- Either branch has seen a digit, and no digit after a zero.
      have hread : c.isDigit = true ∧ (c = '0' → ¬cs.head?.any isDigit = true) ∧
          naturalFrom (c :: cs) = .ok (n, rest) := by
        rw [unsigned] at h
        split at h
        · next hzero =>
          split at h
          · cases h
          · next hnone => exact ⟨by rw [hzero]; decide, fun _ => hnone, h⟩
        · next hzero =>
          split at h
          · next hc => exact ⟨by rw [← isDigit_eq]; exact hc, fun h => absurd h hzero, h⟩
          · cases h
      obtain ⟨hc, hzero, hfrom⟩ := hread
      obtain ⟨hn, hrest, ds, hsplit, hvalue⟩ := readDigits_of_naturalFrom hfrom
      cases ds with
      | nil =>
        rw [List.nil_append] at hsplit
        subst hsplit
        rw [(hrest c rfl).1] at hc
        cases hc
      | cons d ds =>
        rw [List.cons_append] at hsplit
        obtain ⟨rfl, rfl⟩ := List.cons.inj hsplit
        have hdecimal : c :: ds = Text.decimal n := by
          refine Text.eq_decimal hvalue (List.cons_ne_nil _ _) ?_
          intro hhead
          obtain rfl := Option.some.inj hhead
          cases ds with
          | nil => rfl
          | cons e ds =>
            have he := isDigit_of_readDigits hvalue e (by simp)
            rw [← isDigit_eq] at he
            exact absurd (by simpa using he) (hzero rfl)
        rw [← hdecimal]
        exact ⟨rfl, hn, hrest⟩
  · intro h
    obtain ⟨rfl, hn, hrest⟩ := h
    have hfrom := naturalFrom_of_readDigits (Text.readDigits_decimal n) hn hrest
    cases hdecimal : Text.decimal n with
    | nil => exact absurd hdecimal (Text.decimal_ne_nil n)
    | cons d ds =>
      rw [hdecimal] at hfrom
      have hd : d.isDigit = true := Text.isDigit_of_mem_decimal (n := n) (by simp [hdecimal])
      rw [List.cons_append] at hfrom ⊢
      by_cases hzero : d = '0'
      · subst hzero
        have hsingle := Text.decimal_of_head (n := n) (by rw [hdecimal]; rfl)
        rw [hdecimal] at hsingle
        obtain rfl : ds = [] := (List.cons.inj hsingle).2
        have hnone := not_any_of_not_digit (not_digit_of_ends hrest)
        rw [List.nil_append] at hfrom ⊢
        rw [unsigned, if_pos rfl, if_neg hnone, hfrom]
      · rw [unsigned, if_neg hzero, if_pos (by rw [isDigit_eq]; exact hd), hfrom]

/-- The natural numbers that are read are those in decimal notation that fit a
    word. -/
theorem natural_eq_ok_iff :
    natural cs = .ok (n, rest) ↔ cs = Text.decimal n ++ rest ∧ n ≤ maxWord ∧ Ends rest := by
  by_cases hminus : ∃ ds, cs = '-' :: ds
  · obtain ⟨ds, rfl⟩ := hminus
    constructor
    · intro h
      cases hunsigned : unsigned ds with
      | error e => simp [natural, hunsigned, bind, Except.bind] at h
      | ok r => simp [natural, hunsigned, bind, Except.bind, throw, throwThe, MonadExceptOf.throw] at h
    · intro h
      obtain ⟨hsplit, -, -⟩ := h
      cases hdecimal : Text.decimal n with
      | nil => exact absurd hdecimal (Text.decimal_ne_nil n)
      | cons d ds =>
        have hd : d.isDigit = true := Text.isDigit_of_mem_decimal (n := n) (by simp [hdecimal])
        rw [hdecimal] at hsplit
        obtain ⟨rfl, -⟩ := List.cons.inj hsplit
        exact absurd hd (by decide)
  · rw [natural, unsigned_eq_ok_iff]
    rintro ds rfl
    exact hminus ⟨ds, rfl⟩

end HubAuth.Json
