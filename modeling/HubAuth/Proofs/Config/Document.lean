import HubAuth.Proofs.Config.Array
import HubAuth.Proofs.Config.Object

/-! # Reading configuration documents

  A document is an object or an array with white space around it. It says which
  values are chosen, and gives the defaults with the chosen values in their
  place. An object is refused if it names a setting twice, or has a value under
  the name of a number that is not the decimal notation of a word.

  * `ofJson_object_iff`, `ofJson_array_iff`: which documents are read, and as
    which configurations.
  * `not_spell_of_unfit`: what is no value of a numeric setting.
  * `documents_read`: the documents of every choice, and documents that are
    refused.
-/

namespace HubAuth.Config

open Json (Space Number Enclosed)
open Text (valuesOf)

variable {a b body v : List Char} {c : Config} {s : Setting} {text : String}
  {stated : List (List Char × List Char)} {values : List (List Char)}

/-! ### Whole documents -/

/-- The text is a body with white space around it. -/
def Spaced (body : List Char) (text : String) : Prop :=
  ∃ a b, Space a ∧ Space b ∧ text.toList = a ++ (body ++ b)

/-- The text is an object of which the members have the given names and values. -/
def IsObject (stated : List (List Char × List Char)) (text : String) : Prop :=
  ∃ body, Json.Object stated body ∧ Spaced body text

/-- The text is an array of the given values. -/
def IsArray (values : List (List Char)) (text : String) : Prop :=
  ∃ body, Enclosed '[' ']' values body ∧ Spaced body text

theorem finish_of_space (hb : Space b) : Json.finish b = .ok () := by
  have hskip := Json.skipSpace_append hb []
  rw [List.append_nil] at hskip
  rw [Json.finish, hskip]
  rfl

/-- Only white space follows what was read. -/
theorem finished_iff {x : Except Json.Fault (Config × List Char)} {P : Config → Prop}
    (hb : Space b) (hx : ∀ d r, x = .ok (d, r) ↔ P d ∧ r = b) :
    (do
      let (config, rest) ← x
      Json.finish rest
      return config) = .ok c ↔ P c := by
  constructor
  · intro h
    obtain ⟨⟨d, r⟩, hread, hfinish⟩ := Except.bind_eq_ok_iff.mp h
    obtain ⟨hd, rfl⟩ := (hx d r).mp hread
    obtain ⟨-, -, hsame⟩ := Except.bind_eq_ok_iff.mp hfinish
    obtain rfl := Except.ok.inj hsame
    exact hd
  · intro h
    refine Except.bind_eq_ok_iff.mpr ⟨(c, b), (hx c b).mpr ⟨h, rfl⟩, ?_⟩
    exact Except.bind_eq_ok_iff.mpr ⟨(), finish_of_space hb, rfl⟩

/-- An object is read exactly if its members state a choice, and then as the
    defaults overridden with it. -/
theorem ofJson_object_iff (h : IsObject stated text) :
    ofJson text = .ok c ↔ ∃ ch : Choice, ch.Stated stated ∧ c = ch.config := by
  obtain ⟨body, hbody, a, b, ha, hb, htext⟩ := h
  obtain ⟨ds, rfl⟩ : ∃ ds, body = '\x7b' :: ds := by
    obtain ⟨members, -, henclosed⟩ := hbody
    exact List.head?_eq_some_iff.mp (Json.head_of_enclosed henclosed)
  have hlength : ds.length ≤ (ds ++ b).length := by
    rw [List.length_append]
    exact Nat.le_add_right _ _
  rw [ofJson, htext, Json.skipSpace_append ha, List.cons_append,
    Json.skipSpace_of_head (by decide)]
  exact finished_iff hb fun d r => readObject_eq_ok_iff hbody hlength

/-- An array is read exactly if it has the values that are chosen for the first
    settings, and then as the defaults overridden with them. -/
theorem ofJson_array_iff (h : IsArray values text) (hvalues : ∀ v ∈ values, Json.Value v) :
    ofJson text = .ok c ↔ ∃ ch : Choice, ch.Lists Setting.all values ∧ c = ch.config := by
  obtain ⟨body, hbody, a, b, ha, hb, htext⟩ := h
  obtain ⟨ds, rfl⟩ := List.head?_eq_some_iff.mp (Json.head_of_enclosed hbody)
  rw [ofJson, htext, Json.skipSpace_append ha, List.cons_append,
    Json.skipSpace_of_head (by decide)]
  exact finished_iff hb fun d r => readArray_eq_ok_iff hbody hvalues (by decide)

/-! ### Values of settings -/

/-- The decimal notation is a number. -/
theorem number_of_decimal (n : Nat) : Number (Text.decimal n) := by
  have hwhole : Json.Whole (Text.decimal n) :=
    ⟨⟨Text.decimal_ne_nil n, fun c hc => Text.isDigit_of_mem_decimal hc⟩, Text.decimal_of_head⟩
  have hnumber := Number.parts (.inl rfl) hwhole .none .none
  simpa only [List.nil_append, List.append_nil] using hnumber

theorem value_of_spell (s : Setting) (x : s.Value) : Json.Value (s.spell x) := by
  cases s with
  | websocket => cases x <;> exact .word (by decide)
  | tokenValidity | renewalSkew | readTimeout | messageLock => exact .number (number_of_decimal _)

/-- What cannot stand for a number that is needed. -/
inductive Unfit : List Char → Prop
  /-- A number with a minus sign. -/
  | negative {cs : List Char} (h : Number ('-' :: cs)) : Unfit ('-' :: cs)
  /-- A number with a point. -/
  | fractional {v : List Char} (h : Number v) (hpoint : '.' ∈ v) : Unfit v
  /-- A number with a power of ten. -/
  | exponent {v : List Char} (h : Number v) (hletter : 'e' ∈ v ∨ 'E' ∈ v) : Unfit v
  /-- A number that does not fit a word. -/
  | large {n : Nat} (h : 18446744073709551615 < n) : Unfit (Text.decimal n)
  /-- Anything that is not a number. -/
  | other {v : List Char} (h : ¬Number v) : Unfit v

theorem not_mem_decimal {e : Char} (he : e.isDigit = false) (n : Nat) : e ∉ Text.decimal n := by
  intro hmem
  rw [Text.isDigit_of_mem_decimal hmem] at he
  cases he

/-- It is not the notation of any value of a numeric setting. -/
theorem not_spell_of_unfit (h : Unfit v) (hs : s ≠ .websocket) (x : s.Value) : v ≠ s.spell x := by
  -- The notation is made of digits alone, and a word has a limit.
  have hword : ∃ n : UInt64, s.spell x = Text.decimal n.toNat := by
    cases s with
    | websocket => exact absurd rfl hs
    | tokenValidity | renewalSkew | readTimeout | messageLock => exact ⟨x, rfl⟩
  obtain ⟨n, hspell⟩ := hword
  rw [hspell]
  intro hv
  cases h with
  | negative h =>
    apply not_mem_decimal (e := '-') (by decide) n.toNat
    rw [← hv]
    exact List.mem_cons_self
  | fractional h hpoint =>
    rw [hv] at hpoint
    exact not_mem_decimal (by decide) _ hpoint
  | exponent h hletter =>
    rw [hv] at hletter
    rcases hletter with he | hE
    · exact not_mem_decimal (by decide) _ he
    · exact not_mem_decimal (by decide) _ hE
  | large h =>
    have hn := n.toNat_lt
    rw [Text.decimal_inj.mp hv] at h
    omega
  | other h =>
    rw [hv] at h
    exact h (number_of_decimal _)

/-! ### Refused documents -/

/-- Where no choice is stated, the document is refused. -/
theorem refused_of_not_stated (h : IsObject stated text) (hnot : ∀ ch : Choice, ¬ch.Stated stated) :
    ∃ e, ofJson text = .error e := by
  cases hread : ofJson text with
  | error e => exact ⟨e, rfl⟩
  | ok c =>
    obtain ⟨ch, hch, -⟩ := (ofJson_object_iff h).mp hread
    exact absurd hch (hnot ch)

/-- What is read of a text. -/
structure Documents (text : String) : Prop where
  /-- An object that states a choice gives the defaults overridden with it. -/
  objects : ∀ (ch : Choice) (stated : List (List Char × List Char)), IsObject stated text →
    ch.Stated stated → ofJson text = .ok ch.config
  /-- So does the array of the values, if they are for the first settings. -/
  arrays : ∀ (ch : Choice) (values : List (List Char)), IsArray values text →
    ch.Lists Setting.all values → ofJson text = .ok ch.config
  /-- An object that names a setting twice is refused. -/
  repeated : ∀ (s : Setting) (stated : List (List Char × List Char)), IsObject stated text →
    2 ≤ (valuesOf s.name.toList stated).length → ∃ e, ofJson text = .error e
  /-- An object that has something else for a number is refused. -/
  unfit : ∀ (s : Setting) (stated : List (List Char × List Char)) (v : List Char),
    IsObject stated text → s ≠ .websocket → v ∈ valuesOf s.name.toList stated → Unfit v →
    ∃ e, ofJson text = .error e

/-- **Documents give the defaults overridden by what they state.** -/
theorem documents_read (text : String) : Documents text := by
  constructor
  · intro ch stated h hstated
    exact (ofJson_object_iff h).mpr ⟨ch, hstated, rfl⟩
  · intro ch values h hlists
    -- Values of settings are values of JSON.
    have hvalues : ∀ v ∈ values, Json.Value v := by
      obtain ⟨k, -, rfl⟩ := hlists
      intro v hv
      obtain ⟨s, -, hs⟩ := List.mem_filterMap.mp hv
      obtain ⟨x, -, rfl⟩ := Option.map_eq_some_iff.mp hs
      exact value_of_spell s x
    exact (ofJson_array_iff h hvalues).mpr ⟨ch, hlists, rfl⟩
  · intro s stated h htwice
    refine refused_of_not_stated h fun ch hstated => ?_
    rw [hstated s] at htwice
    -- A choice has one value for a setting at most.
    have hone := Option.length_toList_le (o := (ch s).map s.spell)
    omega
  · intro s stated v h hs hv hunfit
    refine refused_of_not_stated h fun ch hstated => ?_
    rw [hstated s, Option.mem_toList] at hv
    obtain ⟨x, -, rfl⟩ := Option.map_eq_some_iff.mp hv
    exact not_spell_of_unfit hunfit hs x rfl

/-- A setting with an escape in its name, and a member of another name in front. -/
theorem documents_read_escaped :
    ofJson " \x7b\"other\": [-1.5e3, null],\"use\\u005fwebsocket\" :true\x7d\n"
      = .ok { useWebsocket := true } := by
  have hnone : Space [] := by simp [Space]
  have hone : Space [' '] := by simp [Space]
  have hnumber : Json.Value "-1.5e3".toList := by
    have hdigit : ∀ d ∈ ['1', '5', '3'], Json.SomeDigits [d] := by
      simp [Json.SomeDigits]
    exact .number (.parts (.inr rfl) ⟨hdigit '1' (by decide), fun h => absurd h (by decide)⟩
      (.point (hdigit '5' (by decide))) (.power (.inl rfl) (.inl rfl) (hdigit '3' (by decide))))
  have harray : Json.Value "[-1.5e3, null]".toList := by
    have hvalues : ∀ v ∈ ["-1.5e3".toList, "null".toList], Json.Value v := by
      simp only [List.forall_mem_cons]
      exact ⟨hnumber, .word (by decide), by simp⟩
    exact .array hvalues (.parts (.more hnone hnone (.last hone hnone)))
  have hplain : ∀ w ∈ ["other", "use", "websocket"], ∀ c ∈ w.toList, Json.Plain c := by
    simp [Json.Plain]
  have hother : Json.Named "other".toList "other\"".toList :=
    Json.named_append_of_plain (hplain "other" (by decide)) .close
  have hescaped : Json.Named "use_websocket".toList "use\\u005fwebsocket\"".toList := by
    have hunit : Json.Spelled '_' "\\u005f".toList :=
      .unit (.digits (k := 0) (l := 0) (m := 5) (n := 15) (.inl rfl) (.inl rfl) (.inl rfl) (.inl rfl))
    have htail : Json.Named "websocket".toList "websocket\"".toList :=
      Json.named_append_of_plain (hplain "websocket" (by decide)) .close
    exact Json.named_append_of_plain (hplain "use" (by decide)) (.char hunit htail)
  have hobject : IsObject
      [("other".toList, "[-1.5e3, null]".toList), ("use_websocket".toList, "true".toList)]
      " \x7b\"other\": [-1.5e3, null],\"use\\u005fwebsocket\" :true\x7d\n" := by
    refine ⟨_, ⟨[⟨"other\"".toList, [], [' '], "[-1.5e3, null]".toList⟩,
      ⟨"use\\u005fwebsocket\"".toList, [' '], [], "true".toList⟩], ?_,
      .parts (.more hnone hnone (.last hnone hnone))⟩, [' '], ['\n'], hone, by simp [Space], rfl⟩
    exact .cons ⟨hother, hnone, hone, rfl, harray⟩
      (.cons ⟨hescaped, hone, hnone, rfl, .word (by decide)⟩ .nil)
  exact (documents_read _).objects (Function.update (fun _ => none) .websocket (some true)) _ hobject
    (fun s => by cases s <;> decide)

end HubAuth.Config
