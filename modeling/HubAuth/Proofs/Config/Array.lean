import HubAuth.Proofs.Config.Setting
import HubAuth.Proofs.Except

/-! # Reading the array form

  What an array says about a configuration. Its values are taken up in order, the
  first by the first setting and so on, and each must be a value of its setting.
  So an array is read exactly if it has the values that are chosen for the first
  settings, of which there may be any number.

  * `readItems_eq_ok_iff`: what the values of an array do.
  * `takesFirst_iff`: which choice they state.
  * `readArray_eq_ok_iff`: which arrays are read, and as which configurations.
-/

namespace HubAuth.Config

open Json (Space Ends Row Enclosed)

variable {a b cs rest r v : List Char} {c d : Config} {s : Setting} {settings : List Setting}
  {values : List (List Char)} {ch : Choice}

/-! ### One value -/

/-- White space in front of a value does not matter. -/
theorem readSetting_skipSpace (c : Config) (s : Setting) (cs : List Char) :
    readSetting c s (Json.skipSpace cs) = readSetting c s cs := by
  have hrefuse : refuse (Json.skipSpace cs) = refuse cs := by
    rw [refuse, refuse, Json.skipSpace_skipSpace]
  have hnumber : number (Json.skipSpace cs) = number cs := by
    rw [number, number, Json.skipSpace_skipSpace, hrefuse]
  have htruth : truth (Json.skipSpace cs) = truth cs := by
    rw [truth, truth, Json.skipSpace_skipSpace, hrefuse]
  cases s with
  | websocket => rw [readSetting, readSetting, htruth]
  | tokenValidity | renewalSkew | readTimeout | messageLock =>
    rw [readSetting, readSetting, hnumber]

/-- Reads the value of the first setting and then the remaining ones. -/
def readItems (c : Config) (settings : List Setting) (cs : List Char) :
    Except Json.Fault (Config × List Char) :=
  match settings with
  | [] => .error .malformed
  | s :: settings => do
    let (c, rest) ← readSetting c s cs
    readArray c false settings rest

theorem readItems_skipSpace (c : Config) (settings : List Setting) (cs : List Char) :
    readItems c settings (Json.skipSpace cs) = readItems c settings cs := by
  cases settings with
  | nil => rfl
  | cons s settings => rw [readItems, readItems, readSetting_skipSpace]

theorem readArray_close (c : Config) (first : Bool) (settings : List Setting) (ha : Space a)
    (rest : List Char) : readArray c first settings (a ++ ']' :: rest) = .ok (c, rest) := by
  rw [readArray, Json.skipSpace_append ha, Json.skipSpace_of_head (by decide)]
  rfl

/-- The first value is as any other. -/
theorem readArray_first {e : Char} {es : List Char} (h : Json.skipSpace cs = e :: es)
    (he : e ≠ ']') : readArray c true settings cs = readItems c settings cs := by
  rw [← readItems_skipSpace, readArray, h]
  split
  · next heq => cases heq
  · next heq => exact absurd (List.cons.inj heq).1 he
  · next heq =>
    obtain ⟨rfl, rfl⟩ := List.cons.inj heq
    cases settings <;> rfl

/-- A comma promises a value. -/
theorem readArray_comma {e : Char} {es : List Char} (ha : Space a)
    (h : Json.skipSpace cs = e :: es) (he : e ≠ ']') :
    readArray c false settings (a ++ ',' :: cs) = readItems c settings cs := by
  rw [← readItems_skipSpace, readArray, Json.skipSpace_append ha,
    Json.skipSpace_of_head (by decide)]
  split
  · next heq => cases heq
  · next heq => exact absurd (List.cons.inj heq).1 (by decide)
  · next heq =>
    obtain ⟨rfl, rfl⟩ := List.cons.inj heq
    cases settings with
    | nil => rfl
    | cons s settings =>
      -- What follows the comma does not close the array.
      simp only [Bool.false_eq_true, if_false, if_true, h]
      split
      · next hsplit => cases hsplit
      · next hsplit => exact absurd (List.cons.inj hsplit).1 he
      · rfl

/-- A value is taken up, and then what follows it. -/
theorem readItems_value (hv : Json.Value v) (ha : Space a) (hends : Ends rest) :
    readItems c (s :: settings) (a ++ (v ++ rest)) = .ok (d, r) ↔
      ∃ x, v = s.spell x ∧ readArray (c.put s x) false settings rest = .ok (d, r) := by
  constructor
  · intro h
    obtain ⟨⟨c', tail⟩, hread, hothers⟩ := Except.bind_eq_ok_iff.mp h
    obtain ⟨x, rfl⟩ := spell_of_readSetting hv ha hends hread
    rw [readSetting_spell c s x ha hends] at hread
    obtain ⟨rfl, rfl⟩ := Prod.mk.inj (Except.ok.inj hread)
    exact ⟨x, rfl, hothers⟩
  · intro h
    obtain ⟨x, rfl, h⟩ := h
    exact Except.bind_eq_ok_iff.mpr ⟨(c.put s x, rest), readSetting_spell c s x ha hends, h⟩

/-! ### The values of an array -/

/-- The settings take up the values in order, until there are no more values. -/
inductive TakesFirst : Config → List Setting → List (List Char) → Config → Prop
  /-- There are no more. -/
  | nil {c : Config} {settings : List Setting} : TakesFirst c settings [] c
  /-- One value and then the others. -/
  | cons {c d : Config} {s : Setting} {settings : List Setting} {values : List (List Char)}
      (x : s.Value) (rest : TakesFirst (c.put s x) settings values d) :
      TakesFirst c (s :: settings) (s.spell x :: values) d

theorem takesFirst_nil_iff : TakesFirst c settings [] d ↔ d = c := by
  constructor
  · intro h
    cases h
    rfl
  · rintro rfl
    exact .nil

theorem takesFirst_cons_iff :
    TakesFirst c settings (v :: values) d ↔ ∃ s others, settings = s :: others ∧
      ∃ x, v = s.spell x ∧ TakesFirst (c.put s x) others values d := by
  constructor
  · intro h
    cases h with
    | cons x hrest => exact ⟨_, _, rfl, x, rfl, hrest⟩
  · rintro ⟨s, others, rfl, x, rfl, hrest⟩
    exact .cons x hrest

/-- The values of a row are taken up, or the row is refused. -/
theorem readItems_eq_ok_iff (h : Row ']' values cs) (hvalues : ∀ v ∈ values, Json.Value v) :
    readItems c settings (cs ++ rest) = .ok (d, r) ↔ TakesFirst c settings values d ∧ r = rest := by
  induction h generalizing c settings with
  | @last a v b ha hb =>
    have hv := hvalues v List.mem_cons_self
    have hends := Json.ends_append hb (Json.ends_of_mark (m := ']') (by simp) rest)
    simp only [List.append_assoc, List.singleton_append]
    cases settings with
    | nil => simp [readItems, takesFirst_cons_iff]
    | cons s others =>
      rw [readItems_value hv ha hends]
      simp only [takesFirst_cons_iff, takesFirst_nil_iff, readArray_close _ false others hb rest]
      constructor
      · rintro ⟨x, rfl, h⟩
        obtain ⟨rfl, rfl⟩ := Prod.mk.inj (Except.ok.inj h)
        exact ⟨⟨s, others, rfl, x, rfl, rfl⟩, rfl⟩
      · rintro ⟨⟨s', others', hsame, x, rfl, rfl⟩, rfl⟩
        obtain ⟨rfl, rfl⟩ := List.cons.inj hsame
        exact ⟨x, rfl, rfl⟩
  | @more a v b cs values ha hb hrest ih =>
    obtain ⟨hv, hothers⟩ := List.forall_mem_cons.mp hvalues
    have hends := Json.ends_append hb (Json.ends_of_mark (m := ',') (by simp) (cs ++ rest))
    obtain ⟨e, es, hhead, he⟩ :=
      Json.row_begins hrest (fun w hw => Json.value_begins (hothers w hw)) rest
    simp only [List.append_assoc, List.cons_append]
    cases settings with
    | nil => simp [readItems, takesFirst_cons_iff]
    | cons s others =>
      rw [readItems_value hv ha hends]
      simp only [takesFirst_cons_iff, readArray_comma hb hhead he, ih hothers]
      constructor
      · rintro ⟨x, rfl, h, rfl⟩
        exact ⟨⟨s, others, rfl, x, rfl, h⟩, rfl⟩
      · rintro ⟨⟨s', others', hsame, x, rfl, h⟩, rfl⟩
        obtain ⟨rfl, rfl⟩ := List.cons.inj hsame
        exact ⟨x, rfl, h, rfl⟩

/-! ### What the values say -/

namespace Choice

/-- Values are chosen for the first of the settings, any number of them, and these
    are the values in order. -/
def Lists (ch : Choice) (settings : List Setting) (values : List (List Char)) : Prop :=
  ∃ k, (∀ s, (ch s).isSome ↔ s ∈ settings.take k) ∧
    values = settings.filterMap fun s => (ch s).map s.spell

theorem lists_nil_iff : ch.Lists [] values ↔ (∀ s, ch s = none) ∧ values = [] := by
  simp [Lists]

/-- Nothing is chosen, or a value for the first setting at least, which is the
    first of the values. -/
theorem lists_cons_iff (hnew : s ∉ settings) :
    ch.Lists (s :: settings) values ↔ (∀ t, ch t = none) ∧ values = [] ∨
      ∃ x others, ch s = some x ∧ values = s.spell x :: others ∧
        Lists (Function.update ch s none) settings others := by
  -- The first setting is not among the others, so its value does not matter there.
  have hothers : settings.filterMap (fun t => (Function.update ch s none t).map t.spell) =
      settings.filterMap fun t => (ch t).map t.spell := by
    refine List.filterMap_congr fun t ht => ?_
    have hne : t ≠ s := by
      rintro rfl
      exact hnew ht
    rw [Function.update_of_ne hne]
  constructor
  · rintro ⟨k, hk, rfl⟩
    cases k with
    | zero =>
      have hnone : ∀ t, ch t = none := by simpa using hk
      exact .inl ⟨hnone, by simp [hnone]⟩
    | succ k =>
      obtain ⟨x, hx⟩ := Option.isSome_iff_exists.mp ((hk s).mpr (by simp))
      refine .inr ⟨x, _, hx, by rw [List.filterMap_cons, hx]; rfl, k, ?_, hothers.symm⟩
      intro t
      by_cases ht : t = s
      · subst ht
        simp [mt List.mem_of_mem_take hnew]
      · rw [Function.update_of_ne ht, hk t]
        simp [ht]
  · rintro (⟨hnone, rfl⟩ | ⟨x, others, hx, rfl, k, hk, rfl⟩)
    · exact ⟨0, by simp [hnone], by simp [hnone]⟩
    · refine ⟨k + 1, ?_, by rw [hothers, List.filterMap_cons, hx]; rfl⟩
      intro t
      have ht' := hk t
      by_cases ht : t = s
      · subst ht
        simp [hx]
      · rw [Function.update_of_ne ht] at ht'
        rw [ht', List.take_succ_cons]
        simp [ht]

end Choice

/-- The values are taken up exactly if they are those that are chosen for the
    first settings, and the configuration is overridden with them. -/
theorem takesFirst_iff (hnodup : settings.Nodup) :
    TakesFirst c settings values d ↔ ∃ ch : Choice, ch.Lists settings values ∧ d = ch.override c := by
  induction settings generalizing c values with
  | nil =>
    simp only [Choice.lists_nil_iff]
    constructor
    · intro h
      cases h
      obtain ⟨ch, hnone, hsame⟩ := Choice.exists_empty d
      exact ⟨ch, ⟨hnone, rfl⟩, hsame⟩
    · rintro ⟨ch, ⟨hnone, rfl⟩, rfl⟩
      rw [Choice.override_of_none hnone]
      exact .nil
  | cons s settings ih =>
    obtain ⟨hnew, hnodup⟩ := List.nodup_cons.mp hnodup
    simp only [Choice.lists_cons_iff hnew]
    constructor
    · intro h
      cases h with
      | nil =>
        obtain ⟨ch, hnone, hsame⟩ := Choice.exists_empty d
        exact ⟨ch, .inl ⟨hnone, rfl⟩, hsame⟩
      | cons x hrest =>
        obtain ⟨ch, hch, rfl⟩ := (ih hnodup).mp hrest
        -- The choice for the other settings has no value for this one.
        have hnone : ch s = none := by
          obtain ⟨k, hk, -⟩ := hch
          rw [← Option.not_isSome_iff_eq_none, hk]
          exact mt List.mem_of_mem_take hnew
        refine ⟨Function.update ch s (some x), .inr ⟨x, _, Function.update_self .., rfl, ?_⟩, ?_⟩
        · rw [Choice.update_update_none hnone]
          exact hch
        · rw [Choice.override_update hnone]
    · rintro ⟨ch, ⟨hnone, rfl⟩ | ⟨x, others, hx, rfl, hch⟩, rfl⟩
      · rw [Choice.override_of_none hnone]
        exact .nil
      · exact .cons x ((ih hnodup).mpr ⟨_, hch, Choice.override_of_some hx c⟩)

/-! ### Arrays -/

/-- An array of values is read exactly if it has the values that are chosen for
    the first settings, and the configuration is overridden with them. -/
theorem readArray_eq_ok_iff {body : List Char} (h : Enclosed '[' ']' values ('[' :: body))
    (hvalues : ∀ v ∈ values, Json.Value v) (hnodup : settings.Nodup) :
    readArray c true settings (body ++ rest) = .ok (d, r) ↔
      (∃ ch : Choice, ch.Lists settings values ∧ d = ch.override c) ∧ r = rest := by
  rw [← takesFirst_iff hnodup]
  cases h with
  | empty ha =>
    rw [List.append_assoc, List.singleton_append, readArray_close c true settings ha rest,
      takesFirst_nil_iff, Except.ok.injEq, Prod.mk.injEq]
    exact and_congr eq_comm eq_comm
  | parts hrow =>
    obtain ⟨e, es, hhead, he⟩ :=
      Json.row_begins hrow (fun v hv => Json.value_begins (hvalues v hv)) rest
    rw [readArray_first hhead he]
    exact readItems_eq_ok_iff hrow hvalues

end HubAuth.Config
