import HubAuth.Config.Document
import HubAuth.Proofs.Json.Skip
import Mathlib.Logic.Function.Basic

/-! # Settings and their values

  A setting has a truth value or a number that fits a word, and there is one way
  to write it. Of all JSON values the reader of a setting takes just these. A
  choice gives values for some of the settings, and overrides a configuration
  with them.

  * `readSetting_spell`: a value in its notation is read into the configuration.
  * `spell_of_readSetting`: no other JSON value is.
  * `override_update`: one setting more.
-/

namespace HubAuth.Config

open Json (Space Ends isDigit_eq)

/-! ### Values and their notation -/

namespace Setting

/-- The values that a setting can have. -/
abbrev Value : Setting → Type
  | .websocket => Bool
  | _ => UInt64

/-- How a value is written. -/
def spell : (s : Setting) → s.Value → List Char
  | .tokenValidity, n => Text.decimal (UInt64.toNat n)
  | .renewalSkew, n => Text.decimal (UInt64.toNat n)
  | .readTimeout, n => Text.decimal (UInt64.toNat n)
  | .messageLock, n => Text.decimal (UInt64.toNat n)
  | .websocket, b => if b then "true".toList else "false".toList

theorem ofName?_eq_some_iff {name : List Char} {s : Setting} :
    ofName? name = some s ↔ name = s.name.toList := by
  constructor
  · intro h
    have hname := List.find?_some h
    exact (eq_of_beq hname).symm
  · rintro rfl
    cases s <;> decide

theorem ofName?_eq_none_iff {name : List Char} :
    ofName? name = none ↔ ∀ s : Setting, name ≠ s.name.toList := by
  rw [Option.eq_none_iff_forall_ne_some]
  exact forall_congr' fun s => not_congr ofName?_eq_some_iff

/-- Settings of one name are the same. -/
theorem name_inj {s t : Setting} (h : s.name.toList = t.name.toList) : s = t := by
  have hs := ofName?_eq_some_iff.mpr h
  rw [ofName?_eq_some_iff.mpr rfl] at hs
  exact Option.some.inj hs

end Setting

/-- The configuration with another value of a setting. -/
def put (c : Config) : (s : Setting) → s.Value → Config
  | .tokenValidity, n => { c with tokenValiditySecs := UInt64.toNat n }
  | .renewalSkew, n => { c with renewalSkewSecs := UInt64.toNat n }
  | .readTimeout, n => { c with readTimeoutMillis := UInt64.toNat n }
  | .messageLock, n => { c with messageLockSecs := UInt64.toNat n }
  | .websocket, b => { c with useWebsocket := b }

variable {a v rest : List Char} {c : Config} {s : Setting} {n : Nat}

/-! ### Values that are read -/

/-- Numbers that fit a word are read. -/
theorem number_decimal (hn : n ≤ Json.maxWord) (ha : Space a) (hends : Ends rest) :
    number (a ++ (Text.decimal n ++ rest)) = .ok (n, rest) := by
  have hread := Json.natural_eq_ok_iff.mpr ⟨rfl, hn, hends⟩
  unfold number
  rw [Json.skipSpace_append ha]
  cases hdecimal : Text.decimal n with
  | nil => exact absurd hdecimal (Text.decimal_ne_nil n)
  | cons d ds =>
    have hd : d.isDigit = true := Text.isDigit_of_mem_decimal (n := n) (by simp [hdecimal])
    rw [hdecimal] at hread
    rw [List.cons_append, Json.skipSpace_of_head (Json.isSpace_of_digit hd)]
    show (if d = '-' ∨ Json.isDigit d then _ else _) = _
    rw [if_pos (.inr (by rw [isDigit_eq]; exact hd))]
    exact hread

theorem truth_spell (b : Bool) (ha : Space a) (rest : List Char) :
    truth (a ++ (Setting.spell .websocket b ++ rest)) = .ok (b, rest) := by
  unfold truth
  rw [Json.skipSpace_append ha]
  cases b with
  | true => rfl
  | false => rfl

theorem toNat_le_maxWord (n : UInt64) : n.toNat ≤ Json.maxWord := by
  have h := n.toNat_lt
  unfold Json.maxWord
  omega

/-- A value in its notation is read into the configuration. -/
theorem readSetting_spell (c : Config) (s : Setting) (x : s.Value) (ha : Space a)
    (hends : Ends rest) : readSetting c s (a ++ (s.spell x ++ rest)) = .ok (c.put s x, rest) := by
  cases s with
  | websocket =>
    rw [readSetting, truth_spell x ha]
    rfl
  | tokenValidity | renewalSkew | readTimeout | messageLock =>
    rw [readSetting, Setting.spell, number_decimal (toNat_le_maxWord x) ha hends]
    rfl

/-! ### No others are -/

/-- A value that begins with a digit is a number without a sign. -/
theorem parts_of_digit {d : Char} (h : Json.Value v) (hv : v.head? = some d)
    (hd : d.isDigit = true) : ∃ whole fs es, v = whole ++ (fs ++ es) ∧ Json.Whole whole ∧
      Json.Fraction fs ∧ Json.Exponent es := by
  rcases Json.value_cases h with hword | hnumber | ⟨c, hc, hhead⟩
  · have hwords : ∀ w ∈ ["null".toList, "true".toList, "false".toList],
        ∀ c ∈ w.head?, c.isDigit = false := by simp
    rw [hwords v hword d hv] at hd
    cases hd
  · cases hnumber with
    | @parts sign whole fs es hsign hwhole hfraction hexponent =>
      rcases hsign with rfl | rfl
      · exact ⟨whole, fs, es, rfl, hwhole, hfraction, hexponent⟩
      · obtain rfl := Option.some.inj hv
        exact absurd hd (by decide)
  · have hmarks : ∀ c ∈ ['"', '[', '\x7b'], c.isDigit = false := by simp
    obtain rfl := Option.some.inj (hv.symm.trans hhead)
    rw [hmarks d hc] at hd
    cases hd

/-- If the decimal notation of a number is read from a value, it is all of it. -/
theorem decimal_of_append {rest' : List Char} (hv : Json.Value v)
    (hsplit : v ++ rest = Text.decimal n ++ rest') (hends : Ends rest) (hother : Ends rest') :
    v = Text.decimal n := by
  obtain ⟨d, ds, hdecimal⟩ := List.exists_cons_of_ne_nil (Text.decimal_ne_nil n)
  have hd : d.isDigit = true := Text.isDigit_of_mem_decimal (n := n) (by simp [hdecimal])
  obtain ⟨e, es, rfl, -⟩ := Json.head_of_value hv
  have hhead : e = d := by
    rw [hdecimal] at hsplit
    exact (List.cons.inj hsplit).1
  obtain ⟨whole, fs, es', hparts, hwhole, hfraction, hexponent⟩ :=
    parts_of_digit hv rfl (by rw [hhead]; exact hd)
  rw [hparts] at hsplit ⊢
  -- Both begin with the same digits, and a point or a letter after them would
  -- have to follow the number that was read.
  have hdigits : ∀ c ∈ Text.decimal n, c.isDigit = true := fun c hc => Text.isDigit_of_mem_decimal hc
  have hafter := Json.not_digit_after_whole hfraction hexponent hends
  have hsame := congrArg (List.takeWhile Json.isDigit) hsplit
  simp only [List.append_assoc] at hsplit hsame
  rw [Json.takeWhile_digits hwhole.1.2 hafter,
    Json.takeWhile_digits hdigits (Json.not_digit_of_ends hother)] at hsame
  subst hsame
  have hrest := List.append_cancel_left hsplit
  cases hfraction with
  | point h =>
    rw [← hrest] at hother
    exact absurd rfl (hother '.' rfl).2.1
  | none =>
    cases hexponent with
    | none => rw [List.nil_append, List.append_nil]
    | power hletter hsign h =>
      rw [← hrest] at hother
      obtain ⟨-, -, he, hE⟩ := hother _ rfl
      rcases hletter with rfl | rfl
      · exact absurd rfl he
      · exact absurd rfl hE

/-- What is read as a number is the decimal notation of one that fits a word. -/
theorem decimal_of_number {r : Nat × List Char} (hv : Json.Value v) (ha : Space a)
    (hends : Ends rest) (h : number (a ++ (v ++ rest)) = .ok r) :
    ∃ n ≤ Json.maxWord, v = Text.decimal n := by
  unfold number at h
  rw [Json.skipSpace_of_begins (Json.value_begins hv) ha] at h
  split at h
  · next d ds hsplit =>
    split at h
    · rw [← hsplit] at h
      obtain ⟨hread, hn, hother⟩ := Json.natural_eq_ok_iff.mp h
      exact ⟨r.1, hn, decimal_of_append hv hread hends hother⟩
    · cases h
  · cases h

/-- A value that begins with a small letter is a word. -/
theorem word_of_head {d : Char} (h : Json.Value v) (hv : v.head? = some d) (hd : d ∈ ['t', 'f']) :
    v ∈ ["null".toList, "true".toList, "false".toList] := by
  have hletters : ∀ e ∈ ['t', 'f'], e ≠ '-' ∧ e.isDigit = false ∧ e ∉ ['"', '[', '\x7b'] := by simp
  obtain ⟨hminus, hdigit, hmark⟩ := hletters d hd
  rcases Json.value_cases h with hword | hnumber | ⟨c, hc, hhead⟩
  · exact hword
  · obtain ⟨c, hhead, hc⟩ := Json.head_of_number hnumber
    obtain rfl := Option.some.inj (hv.symm.trans hhead)
    rcases hc with hc | hc
    · exact absurd hc hminus
    · rw [hdigit] at hc
      cases hc
  · obtain rfl := Option.some.inj (hv.symm.trans hhead)
    exact absurd hc hmark

/-- What is read as a truth value is one of the two words. -/
theorem spell_of_truth {r : Bool × List Char} (hv : Json.Value v) (ha : Space a)
    (h : truth (a ++ (v ++ rest)) = .ok r) : ∃ b : Bool, v = Setting.spell .websocket b := by
  obtain ⟨d, ds, rfl, -⟩ := Json.head_of_value hv
  unfold truth at h
  rw [Json.skipSpace_of_begins (Json.value_begins hv) ha] at h
  have hd : d ∈ ['t', 'f'] := by
    split at h
    · next hsplit => simp [(List.cons.inj hsplit).1]
    · next hsplit => simp [(List.cons.inj hsplit).1]
    · cases h
  have hword := word_of_head hv rfl hd
  simp only [List.mem_cons, List.not_mem_nil, or_false] at hword hd
  rcases hword with hnull | htrue | hfalse
  · obtain ⟨rfl, -⟩ := List.cons.inj hnull
    exact absurd hd (by decide)
  · exact ⟨true, htrue⟩
  · exact ⟨false, hfalse⟩

/-- No other value is read. -/
theorem spell_of_readSetting {r : Config × List Char} (hv : Json.Value v) (ha : Space a)
    (hends : Ends rest) (h : readSetting c s (a ++ (v ++ rest)) = .ok r) :
    ∃ x : s.Value, v = s.spell x := by
  cases s with
  | websocket =>
    cases htruth : truth (a ++ (v ++ rest)) with
    | error e =>
      rw [readSetting, htruth] at h
      cases h
    | ok b => exact spell_of_truth hv ha htruth
  | tokenValidity | renewalSkew | readTimeout | messageLock =>
    cases hnumber : number (a ++ (v ++ rest)) with
    | error e =>
      rw [readSetting, hnumber] at h
      cases h
    | ok m =>
      obtain ⟨n, hn, rfl⟩ := decimal_of_number hv ha hends hnumber
      refine ⟨UInt64.ofNat n, ?_⟩
      unfold Json.maxWord at hn
      have hword : (UInt64.ofNat n).toNat = n := UInt64.toNat_ofNat_of_lt' (by
        rw [UInt64.size]
        omega)
      rw [Setting.spell, hword]

/-! ### Choices -/

/-- Values for some of the settings. -/
abbrev Choice : Type :=
  (s : Setting) → Option s.Value

namespace Choice

/-- The configuration with the chosen values in the place of its own. -/
def override (ch : Choice) (c : Config) : Config :=
  { tokenValiditySecs := ((ch .tokenValidity).map UInt64.toNat).getD c.tokenValiditySecs
    renewalSkewSecs := ((ch .renewalSkew).map UInt64.toNat).getD c.renewalSkewSecs
    readTimeoutMillis := ((ch .readTimeout).map UInt64.toNat).getD c.readTimeoutMillis
    messageLockSecs := ((ch .messageLock).map UInt64.toNat).getD c.messageLockSecs
    useWebsocket := (ch .websocket).getD c.useWebsocket }

/-- The defaults with the chosen values in their place. -/
def config (ch : Choice) : Config :=
  ch.override {}

variable {ch : Choice}

/-- A value that is added and dropped leaves no trace. -/
theorem update_update_none (h : ch s = none) (x : s.Value) :
    Function.update (Function.update ch s (some x)) s none = ch := by
  rw [Function.update_idem, ← h, Function.update_eq_self]

/-- Settings without a value have none after another one has changed. -/
theorem update_eq_none {settings : List Setting} (hs : s ∉ settings)
    (h : ∀ t ∈ settings, ch t = none) (o : Option s.Value) :
    ∀ t ∈ settings, Function.update ch s o t = none := by
  intro t ht
  have hne : t ≠ s := by
    rintro rfl
    exact hs ht
  rw [Function.update_of_ne hne]
  exact h t ht

/-- Without a value the configuration stays. -/
theorem override_of_none (h : ∀ s, ch s = none) : ch.override c = c := by
  simp only [override, h, Option.map_none, Option.getD_none]

/-- It is possible to choose nothing. -/
theorem exists_empty (c : Config) : ∃ ch : Choice, (∀ s, ch s = none) ∧ c = ch.override c :=
  ⟨fun _ => none, fun _ => rfl, (override_of_none fun _ => rfl).symm⟩

/-- A further value may be put into the configuration first. -/
theorem override_update (h : ch s = none) (x : s.Value) :
    override (Function.update ch s (some x)) c = ch.override (c.put s x) := by
  cases s <;> simp [override, put, h, Function.update]

/-- A chosen value may be put into the configuration first. -/
theorem override_of_some {x : s.Value} (h : ch s = some x) (c : Config) :
    ch.override c = override (Function.update ch s none) (c.put s x) := by
  rw [← override_update (Function.update_self s none ch) x, Function.update_idem, ← h,
    Function.update_eq_self]

end Choice

end HubAuth.Config
