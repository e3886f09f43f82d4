import HubAuth.Proofs.Config.Setting
import HubAuth.Proofs.Except
import HubAuth.Proofs.Text.Named

/-! # Reading the object form

  What an object says about a configuration. Its members are taken up in order:
  those of other names pass, whatever their values are, and each setting is taken
  up at most once, with a value of its own. So an object is read exactly if under
  the name of each setting it has nothing or one value of that setting, and these
  values override the configuration, wherever the members stand.

  * `readMember_eq_ok_iff`: what one member does.
  * `readRow_eq_ok_iff`: what the members of an object do.
  * `exists_takesAll_iff`: how that depends on the values under each name.
  * `readObject_eq_ok_iff`: which objects are read, and as which configurations.
-/

namespace HubAuth.Config

open Json (Space Ends Row Member)
open Text (valuesOf valuesOf_nil valuesOf_cons_self valuesOf_cons_ne)

variable {a b cs rest r : List Char} {c d : Config} {p q : Progress} {n : Nat} {ch : Choice}
  {stated : List (List Char × List Char)} {name v : List Char}

/-! ### One member -/

/-- What becomes of the progress when a member with this name and this value is
    taken up. -/
inductive Takes (p : Progress) : List Char × List Char → Progress → Prop
  /-- A member of another name changes nothing. -/
  | other {name v : List Char} (h : ∀ s : Setting, name ≠ s.name.toList) : Takes p (name, v) p
  /-- A setting that has not been named gets its value. -/
  | setting {s : Setting} (x : s.Value) (h : s ∉ p.named) :
      Takes p (s.name.toList, s.spell x) { config := p.config.put s x, named := s :: p.named }

/-- The name of a member decides what is done with its value. -/
theorem readMember_written {m : Member} {pair : List Char × List Char} (hm : m.States pair)
    (ha : Space a) (hends : Ends rest) :
    readMember p (a ++ (m.written ++ rest)) =
      match Setting.ofName? pair.1 with
      | none => .ok (p, rest)
      | some s =>
        if s ∈ p.named then .error .unsuitable
        else (readSetting p.config s (m.after ++ (pair.2 ++ rest))).map fun x =>
          ({ config := x.1, named := s :: p.named }, x.2) := by
  have hquote := Json.mark_of_space ha (show Json.isSpace '"' = false by decide)
    (m.name ++ (m.before ++ ':' :: (m.after ++ (m.value ++ rest))))
  have hcolon := Json.mark_of_space hm.before (show Json.isSpace ':' = false by decide)
    (m.after ++ (m.value ++ rest))
  have hname := Json.text_of_named hm.name (m.before ++ ':' :: (m.after ++ (m.value ++ rest)))
  have hskip := Json.skip_of_value hm.value hm.after hends
  unfold Member.written
  simp only [List.cons_append, List.append_assoc]
  simp only [readMember, hquote, hname, hcolon, bind, Except.bind]
  cases Setting.ofName? pair.1 with
  | none =>
    simp only [hm.same, hskip]
    rfl
  | some s =>
    simp only [hm.same]
    split
    · rfl
    · cases readSetting p.config s (m.after ++ (pair.2 ++ rest)) with
      | error e => rfl
      | ok x => rfl

/-- A member is taken up, or it is refused. -/
theorem readMember_eq_ok_iff {m : Member} {pair : List Char × List Char} (hm : m.States pair)
    (ha : Space a) (hends : Ends rest) :
    readMember p (a ++ (m.written ++ rest)) = .ok (q, r) ↔ Takes p pair q ∧ r = rest := by
  obtain ⟨name, v⟩ := pair
  rw [readMember_written hm ha hends]
  constructor
  · intro h
    cases hname : Setting.ofName? name with
    | none =>
      rw [hname] at h
      obtain ⟨rfl, rfl⟩ := Prod.mk.inj (Except.ok.inj h)
      exact ⟨.other (Setting.ofName?_eq_none_iff.mp hname), rfl⟩
    | some s =>
      simp only [hname] at h
      obtain rfl := Setting.ofName?_eq_some_iff.mp hname
      split at h
      · cases h
      · next hnew =>
        cases hread : readSetting p.config s (m.after ++ (v ++ rest)) with
        | error e =>
          rw [hread] at h
          cases h
        | ok x =>
          obtain ⟨y, rfl⟩ := spell_of_readSetting hm.value hm.after hends hread
          rw [readSetting_spell p.config s y hm.after hends] at h
          obtain ⟨rfl, rfl⟩ := Prod.mk.inj (Except.ok.inj h)
          exact ⟨.setting y hnew, rfl⟩
  · intro h
    obtain ⟨htakes, rfl⟩ := h
    cases htakes with
    | other h => simp only [Setting.ofName?_eq_none_iff.mpr h]
    | @setting s x hnew =>
      simp only [Setting.ofName?_eq_some_iff.mpr rfl, if_neg hnew,
        readSetting_spell p.config s x hm.after hends]
      rfl

/-! ### The members of an object -/

/-- All members are taken up in order. -/
inductive TakesAll : Progress → List (List Char × List Char) → Progress → Prop
  /-- There are no more. -/
  | nil {p : Progress} : TakesAll p [] p
  /-- One member and then the others. -/
  | cons {p q q' : Progress} {pair : List Char × List Char} {stated : List (List Char × List Char)}
      (h : Takes p pair q) (rest : TakesAll q stated q') : TakesAll p (pair :: stated) q'

/-- Reads a member and then the remaining ones. -/
def readRow (n : Nat) (p : Progress) (cs : List Char) : Except Json.Fault (Config × List Char) := do
  let (p, rest) ← readMember p cs
  readObject n false p rest

theorem readObject_close (first : Bool) (ha : Space a) (rest : List Char) :
    readObject (n + 1) first p (a ++ '\x7d' :: rest) = .ok (p.config, rest) := by
  rw [readObject, Json.skipSpace_append ha, Json.skipSpace_of_head (by decide)]
  rfl

theorem readObject_comma (ha : Space a) (rest : List Char) :
    readObject (n + 1) false p (a ++ ',' :: rest) = readRow n p rest := by
  rw [readObject, Json.skipSpace_append ha, Json.skipSpace_of_head (by decide)]
  rfl

theorem readMember_skipSpace (p : Progress) (cs : List Char) :
    readMember p (Json.skipSpace cs) = readMember p cs := by
  rw [readMember, readMember, Json.mark, Json.mark, Json.skipSpace_skipSpace]

/-- The first member is as any other. -/
theorem readObject_first {d : Char} {ds : List Char} (h : Json.skipSpace cs = d :: ds)
    (hd : d ≠ '\x7d') : readObject (n + 1) true p cs = readRow n p cs := by
  unfold readRow
  rw [← readMember_skipSpace p cs, readObject, h]
  split
  · next heq => cases heq
  · next heq => exact absurd (List.cons.inj heq).1 hd
  · next heq =>
    obtain ⟨rfl, rfl⟩ := List.cons.inj heq
    rfl

/-- A member is taken up, and then what follows it. -/
theorem readRow_member {m : Member} {pair : List Char × List Char} (hm : m.States pair)
    (ha : Space a) (hends : Ends rest) :
    readRow n p (a ++ (m.written ++ rest)) = .ok (c, r) ↔
      ∃ q, Takes p pair q ∧ readObject n false q rest = .ok (c, r) := by
  constructor
  · intro h
    obtain ⟨⟨q, tail⟩, hread, hothers⟩ := Except.bind_eq_ok_iff.mp h
    obtain ⟨htakes, rfl⟩ := (readMember_eq_ok_iff hm ha hends).mp hread
    exact ⟨q, htakes, hothers⟩
  · intro h
    obtain ⟨q, htakes, h⟩ := h
    have hread := (readMember_eq_ok_iff hm ha hends).mpr ⟨htakes, rfl⟩
    exact Except.bind_eq_ok_iff.mpr ⟨(q, rest), hread, h⟩

theorem takesAll_nil_iff : TakesAll p [] q ↔ q = p := by
  constructor
  · intro h
    cases h
    rfl
  · rintro rfl
    exact .nil

theorem takesAll_cons_iff {q' : Progress} {pair : List Char × List Char} :
    TakesAll p (pair :: stated) q' ↔ ∃ q, Takes p pair q ∧ TakesAll q stated q' := by
  constructor
  · intro h
    cases h with
    | cons hfirst hrest => exact ⟨_, hfirst, hrest⟩
  · intro h
    obtain ⟨q, hfirst, hrest⟩ := h
    exact .cons hfirst hrest

/-- The members of a row are taken up, or the row is refused. -/
theorem readRow_eq_ok_iff {parts : List (List Char)} {members : List Member}
    (h : Row '\x7d' parts cs) (hparts : members.map Member.written = parts)
    (hm : List.Forall₂ Member.States members stated) (hn : parts.length ≤ n) :
    readRow n p (cs ++ rest) = .ok (c, r) ↔ (∃ q, TakesAll p stated q ∧ c = q.config) ∧ r = rest := by
  -- The members, what they state and the bound all go down with the row.
  induction h generalizing members stated p n with
  | @last a part b ha hb =>
    obtain ⟨m, rfl, rfl⟩ := List.map_eq_singleton_iff.mp hparts
    obtain ⟨pair, hpair, rfl⟩ : ∃ pair, m.States pair ∧ stated = [pair] := by
      cases hm with
      | cons hpair hnil =>
        cases hnil
        exact ⟨_, hpair, rfl⟩
    obtain ⟨k, rfl⟩ := Nat.exists_eq_add_one.mpr hn
    have hends := Json.ends_append hb (Json.ends_of_mark (m := '\x7d') (by simp) rest)
    simp only [List.append_assoc, List.singleton_append]
    rw [readRow_member hpair ha hends]
    simp only [takesAll_cons_iff, takesAll_nil_iff, readObject_close false hb rest]
    constructor
    · rintro ⟨q, htakes, h⟩
      obtain ⟨rfl, rfl⟩ := Prod.mk.inj (Except.ok.inj h)
      exact ⟨⟨q, ⟨q, htakes, rfl⟩, rfl⟩, rfl⟩
    · rintro ⟨⟨q, ⟨q', htakes, rfl⟩, rfl⟩, rfl⟩
      exact ⟨q, htakes, rfl⟩
  | @more a part b cs parts ha hb hrest ih =>
    obtain ⟨m, members, rfl, rfl, hmembers⟩ := List.map_eq_cons_iff.mp hparts
    obtain ⟨pair, stated, hpair, hstated, rfl⟩ := List.forall₂_cons_left_iff.mp hm
    obtain ⟨k, rfl⟩ := Nat.exists_eq_add_one.mpr (Nat.lt_of_lt_of_le (Nat.succ_pos _) hn)
    have hends := Json.ends_append hb (Json.ends_of_mark (m := ',') (by simp) (cs ++ rest))
    simp only [List.append_assoc, List.cons_append]
    rw [readRow_member hpair ha hends]
    simp only [takesAll_cons_iff, readObject_comma hb,
      ih hmembers hstated (Nat.le_of_succ_le_succ hn)]
    constructor
    · rintro ⟨q, hfirst, ⟨q', hothers, rfl⟩, rfl⟩
      exact ⟨⟨q', ⟨q, hfirst, hothers⟩, rfl⟩, rfl⟩
    · rintro ⟨⟨q', ⟨q, hfirst, hothers⟩, rfl⟩, rfl⟩
      exact ⟨q, hfirst, ⟨q', hothers, rfl⟩, rfl⟩

/-! ### What the members say -/

namespace Choice

/-- Under the name of each setting stands the chosen value and nothing else. -/
def Stated (ch : Choice) (stated : List (List Char × List Char)) : Prop :=
  ∀ s : Setting, valuesOf s.name.toList stated = ((ch s).map s.spell).toList

theorem stated_nil_iff : ch.Stated [] ↔ ∀ s, ch s = none := by
  unfold Stated
  refine forall_congr' fun s => ?_
  cases ch s with
  | none => simp [valuesOf_nil]
  | some x => simp [valuesOf_nil]

theorem stated_cons_other (h : ∀ s : Setting, name ≠ s.name.toList) :
    ch.Stated ((name, v) :: stated) ↔ ch.Stated stated := by
  unfold Stated
  refine forall_congr' fun s => ?_
  rw [valuesOf_cons_ne (h s)]

/-- A setting that is stated first has this value, and no other is stated. -/
theorem stated_cons_setting {s : Setting} :
    ch.Stated ((s.name.toList, v) :: stated) ↔
      ∃ x, ch s = some x ∧ v = s.spell x ∧ Stated (Function.update ch s none) stated := by
  constructor
  · intro h
    have hs := h s
    rw [valuesOf_cons_self] at hs
    cases hch : ch s with
    | none =>
      rw [hch] at hs
      cases hs
    | some x =>
      rw [hch] at hs
      obtain ⟨hv, hnil⟩ := List.cons.inj hs
      refine ⟨x, rfl, hv, ?_⟩
      intro t
      by_cases ht : t = s
      · subst ht
        rw [Function.update_self, hnil]
        rfl
      · rw [Function.update_of_ne ht, ← h t, valuesOf_cons_ne fun hname => ht (Setting.name_inj hname).symm]
  · rintro ⟨x, hch, rfl, h⟩ t
    have ht' := h t
    by_cases ht : t = s
    · subst ht
      rw [Function.update_self] at ht'
      rw [valuesOf_cons_self, ht', hch]
      rfl
    · rw [Function.update_of_ne ht] at ht'
      rw [valuesOf_cons_ne fun hname => ht (Setting.name_inj hname).symm, ht']

end Choice

/-- All members are taken up exactly if they state a choice of settings that have
    not been named, and the configuration is overridden with it. -/
theorem exists_takesAll_iff :
    (∃ q, TakesAll p stated q ∧ c = q.config) ↔
      ∃ ch : Choice, ch.Stated stated ∧ (∀ s ∈ p.named, ch s = none) ∧ c = ch.override p.config := by
  induction stated generalizing p with
  | nil =>
    simp only [takesAll_nil_iff, Choice.stated_nil_iff]
    constructor
    · rintro ⟨q, rfl, rfl⟩
      obtain ⟨ch, hnone, hsame⟩ := Choice.exists_empty q.config
      exact ⟨ch, hnone, fun s _ => hnone s, hsame⟩
    · rintro ⟨ch, hch, -, rfl⟩
      exact ⟨p, rfl, Choice.override_of_none hch⟩
  | cons pair stated ih =>
    constructor
    · rintro ⟨q', htakes, rfl⟩
      obtain ⟨q, hfirst, hothers⟩ := takesAll_cons_iff.mp htakes
      obtain ⟨ch, hch, hnamed, hover⟩ := ih.mp ⟨q', hothers, rfl⟩
      cases hfirst with
      | other h => exact ⟨ch, (Choice.stated_cons_other h).mpr hch, hnamed, hover⟩
      | @setting s x hnew =>
        obtain ⟨hnone, hnamed⟩ := List.forall_mem_cons.mp hnamed
        -- The others may not state this setting again, so it can be added to
        -- their choice.
        refine ⟨Function.update ch s (some x), ?_, ?_, ?_⟩
        · rw [Choice.stated_cons_setting]
          refine ⟨x, Function.update_self .., rfl, ?_⟩
          rw [Choice.update_update_none hnone]
          exact hch
        · exact Choice.update_eq_none hnew hnamed _
        · rw [hover, Choice.override_update hnone]
    · rintro ⟨ch, hch, hnamed, rfl⟩
      obtain ⟨name, v⟩ := pair
      cases hname : Setting.ofName? name with
      | none =>
        have hother := Setting.ofName?_eq_none_iff.mp hname
        rw [Choice.stated_cons_other hother] at hch
        obtain ⟨q, hothers, hover⟩ := ih.mpr ⟨ch, hch, hnamed, rfl⟩
        exact ⟨q, .cons (.other hother) hothers, hover⟩
      | some s =>
        obtain rfl := Setting.ofName?_eq_some_iff.mp hname
        obtain ⟨x, hx, rfl, hrest⟩ := Choice.stated_cons_setting.mp hch
        have hnew : s ∉ p.named := by
          intro hs
          rw [hnamed s hs] at hx
          cases hx
        -- What remains of the choice is for settings that have not been named.
        have hnamed' : ∀ t ∈ s :: p.named, Function.update ch s none t = none := by
          rw [List.forall_mem_cons]
          exact ⟨Function.update_self .., Choice.update_eq_none hnew hnamed _⟩
        obtain ⟨q, hothers, hover⟩ := (ih (p := ⟨p.config.put s x, s :: p.named⟩)).mpr
          ⟨_, hrest, hnamed', Choice.override_of_some hx p.config⟩
        exact ⟨q, .cons (.setting x hnew) hothers, hover⟩

/-! ### Objects -/

theorem length_le_of_row {closing : Char} {parts : List (List Char)} (h : Row closing parts cs) :
    parts.length ≤ cs.length := by
  induction h with
  | last ha hb =>
    simp only [List.length_append, List.length_cons, List.length_nil]
    omega
  | more ha hb hrest ih =>
    simp only [List.length_append, List.length_cons]
    omega

/-- An object is read exactly if its members state a choice, and the configuration
    is overridden with it. -/
theorem readObject_eq_ok_iff {body : List Char} (h : Json.Object stated ('\x7b' :: body))
    (hn : body.length ≤ n) :
    readObject (n + 1) true { config := c, named := [] } (body ++ rest) = .ok (d, r) ↔
      (∃ ch : Choice, ch.Stated stated ∧ d = ch.override c) ∧ r = rest := by
  obtain ⟨members, hmembers, hbody⟩ := h
  have hsays : (∃ q, TakesAll ⟨c, []⟩ stated q ∧ d = q.config) ↔
      ∃ ch : Choice, ch.Stated stated ∧ (∀ s ∈ [], ch s = none) ∧ d = ch.override c :=
    exists_takesAll_iff
  -- At the beginning no setting has been named.
  simp only [List.not_mem_nil, false_implies, implies_true, true_and] at hsays
  rw [← hsays]
  generalize hparts : members.map Member.written = parts at hbody
  cases hbody with
  | @empty a ha =>
    obtain rfl := List.map_eq_nil_iff.mp hparts
    cases hmembers
    rw [List.append_assoc, List.singleton_append, readObject_close true ha rest]
    simp only [takesAll_nil_iff, exists_eq_left, Except.ok.injEq, Prod.mk.injEq]
    exact and_congr eq_comm eq_comm
  | parts hrow =>
    have hbegins : ∀ part ∈ parts, Json.Begins '\x7d' part := by
      rw [← hparts]
      intro part hpart
      obtain ⟨m, -, rfl⟩ := List.mem_map.mp hpart
      exact Json.member_begins m
    -- The first member does not close the object, so no comma is looked for.
    obtain ⟨e, es, hhead, he⟩ := Json.row_begins hrow hbegins rest
    rw [readObject_first hhead he]
    exact readRow_eq_ok_iff hrow hparts hmembers (Nat.le_trans (length_le_of_row hrow) hn)

end HubAuth.Config
