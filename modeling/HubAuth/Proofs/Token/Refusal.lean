import HubAuth.Proofs.Token.Fields
import HubAuth.Proofs.Token.RoundTrip

/-! # Texts that are no tokens

  A text is refused for its beginning, for an expiry that is no point of time,
  or for a field that it lacks, in this order. Where an expiry occurs several
  times each of them must be a point of time, although only the last counts.

  * `parse_error_iff`: when a text is refused, and why.
-/

namespace HubAuth.Token

open Text (valuesOf valuesOf_eq_nil_iff)

namespace Fields

/-! ### Expiries that are no point of time -/

/-- The value of the first expiry among some fields that is no point of time. -/
inductive Unread : List (List Char × List Char) → List Char → Prop
  | here {value : List Char} {ps : List (List Char × List Char)}
      (h : Instant.ofText? value = none) : Unread (("se".toList, value) :: ps) value
  | there {name v value : List Char} {ps : List (List Char × List Char)}
      (h : name = "se".toList → ∃ t, Instant.ofText? v = some t) (rest : Unread ps value) :
      Unread ((name, v) :: ps) value

variable {f g : Fields} {name value : List Char} {ps : List (List Char × List Char)}
  {e : CredentialFault}

theorem put_error (h : f.put name value = .error e) :
    name = "se".toList ∧ Instant.ofText? value = none ∧ e = .tokenExpiry (String.ofList value) := by
  unfold put at h
  split at h
  · cases h
  · split at h
    · cases h
    · split at h
      · next hse =>
        split at h
        · cases h
        · next hvalue => exact ⟨hse, hvalue, (Except.error.inj h).symm⟩
      · cases h

theorem put_unread (h : Instant.ofText? value = none) :
    f.put "se".toList value = .error (.tokenExpiry (String.ofList value)) := by
  simp [put, h]

theorem read_of_put (h : f.put name value = .ok g) (hname : name = "se".toList) :
    ∃ t, Instant.ofText? value = some t := by
  cases hvalue : Instant.ofText? value with
  | some t => exact ⟨t, rfl⟩
  | none =>
    rw [hname, put_unread hvalue] at h
    cases h

/-- Taking up fields stops at the first expiry that is no point of time. -/
theorem putAll_error_iff :
    f.putAll ps = .error e ↔ ∃ value, Unread ps value ∧ e = .tokenExpiry (String.ofList value) := by
  -- The first field is at fault itself, or it is taken up and one of the others is.
  induction ps generalizing f with
  | nil =>
    constructor
    · intro h
      cases h
    · intro h
      obtain ⟨_, hunread, -⟩ := h
      cases hunread
  | cons p ps ih =>
    obtain ⟨name, v⟩ := p
    cases hput : f.put name v with
    | error e' =>
      obtain ⟨hname, hv, he'⟩ := put_error hput
      subst hname
      simp only [putAll, hput]
      constructor
      · intro h
        obtain rfl := Except.error.inj h
        exact ⟨v, .here hv, he'⟩
      · intro h
        obtain ⟨value, hunread, he⟩ := h
        cases hunread with
        | here => rw [he, he']
        | there hread =>
          obtain ⟨t, ht⟩ := hread rfl
          rw [hv] at ht
          cases ht
    | ok f' =>
      simp only [putAll, hput, ih]
      constructor
      · intro h
        obtain ⟨value, hunread, he⟩ := h
        exact ⟨value, .there (read_of_put hput) hunread, he⟩
      · intro h
        obtain ⟨value, hunread, he⟩ := h
        cases hunread with
        | here hnone =>
          obtain ⟨t, ht⟩ := read_of_put hput rfl
          rw [hnone] at ht
          cases ht
        | there _ hrest => exact ⟨value, hrest, he⟩

/-! ### Fields that are lacking -/

/-- Some field that a token needs is not among the given ones. -/
def Lacking (ps : List (List Char × List Char)) : Prop :=
  "sr".toList ∉ ps.map Prod.fst ∨ "sig".toList ∉ ps.map Prod.fst ∨ "se".toList ∉ ps.map Prod.fst

/-- A value is lacking in the end exactly if its name did not occur. -/
theorem lacking_iff (h : putAll {} ps = .ok g) :
    Lacking ps ↔ g.resourceUri = none ∨ g.signature = none ∨ g.expiry = none := by
  have hleaves : Leaves {} ps g := putAll_ok h
  have hresource : g.resourceUri = none ↔ "sr".toList ∉ ps.map Prod.fst := by
    rw [hleaves.resourceUri, Option.or_none, Option.map_eq_none_iff, List.getLast?_eq_none_iff,
      valuesOf_eq_nil_iff]
  have hsignature : g.signature = none ↔ "sig".toList ∉ ps.map Prod.fst := by
    rw [hleaves.signature, Option.or_none, Option.map_eq_none_iff, List.getLast?_eq_none_iff,
      valuesOf_eq_nil_iff]
  have hexpiry : g.expiry = none ↔ "se".toList ∉ ps.map Prod.fst := by
    rw [hleaves.expiry, Option.or_none, ← valuesOf_eq_nil_iff, ← List.getLast?_eq_none_iff]
    cases hlast : (valuesOf "se".toList ps).getLast? with
    | none => simp
    | some v =>
      obtain ⟨t, ht⟩ := hleaves.times v (List.mem_of_getLast? hlast)
      simp [ht]
  rw [hresource, hsignature, hexpiry]
  exact Iff.rfl

end Fields

/-! ### Texts -/

/-- Why a text is no token. -/
inductive Refused (s : String) : CredentialFault → Prop
  /-- It does not begin as tokens do. -/
  | start (h : ¬marker <+: s.toList) : Refused s .tokenStart
  /-- An expiry is no point of time. -/
  | expiry {rest value : List Char} (h : s.toList = marker ++ rest)
      (hunread : Fields.Unread (Text.Form.fields rest) value) :
      Refused s (.tokenExpiry (String.ofList value))
  /-- Every expiry is, but a field is lacking. -/
  | fields {rest : List Char} (h : s.toList = marker ++ rest)
      (hread : ∀ value, ¬Fields.Unread (Text.Form.fields rest) value)
      (hlacking : Fields.Lacking (Text.Form.fields rest)) : Refused s .tokenFields

/-- Without the marker nothing else is looked at. -/
theorem parse_of_not_marker {s : String} (h : ¬marker <+: s.toList) :
    parse s = .error .tokenStart := by
  have hnone : marker.isPrefixOf? s.toList = none := by
    cases hprefix : marker.isPrefixOf? s.toList with
    | none => rfl
    | some rest =>
      have happend := List.isPrefixOf?_eq_some_iff_append_eq.mp hprefix
      exact absurd ⟨rest, happend⟩ h
  unfold parse
  rw [hnone]

/-- A text that begins as tokens do is refused for an expiry, or else for a
    field that is lacking. -/
theorem parse_error_of_marker {s : String} {rest : List Char} {e : CredentialFault}
    (h : s.toList = marker ++ rest) :
    parse s = .error e ↔
      (∃ value, Fields.Unread (Text.Form.fields rest) value ∧
        e = .tokenExpiry (String.ofList value)) ∨
      (∀ value, ¬Fields.Unread (Text.Form.fields rest) value) ∧
        Fields.Lacking (Text.Form.fields rest) ∧ e = .tokenFields := by
  rw [parse_marker h, ← Fields.putAll_error_iff (f := {})]
  cases hput : Fields.putAll {} (Text.Form.fields rest) with
  | error e' =>
    obtain ⟨value, hunread, -⟩ := Fields.putAll_error_iff.mp hput
    simp only [Except.error.injEq]
    constructor
    · intro he
      exact .inl he
    · intro he
      rcases he with he | ⟨hread, -⟩
      · exact he
      · exact absurd hunread (hread value)
  | ok g =>
    have hread : ∀ value, ¬Fields.Unread (Text.Form.fields rest) value := by
      intro value hunread
      have herror := Fields.putAll_error_iff (f := {}).mpr ⟨value, hunread, rfl⟩
      rw [hput] at herror
      cases herror
    rw [Fields.lacking_iff hput]
    obtain ⟨resourceUri, signature, expiry⟩ := g
    -- Without all three values there is no token.
    cases resourceUri with
    | none => simp [hread, eq_comm]
    | some resourceUri =>
      cases signature with
      | none => simp [hread, eq_comm]
      | some signature =>
        cases expiry with
        | none => simp [hread, eq_comm]
        | some expiry => simp

/-- When a text is refused, and why. -/
theorem parse_error_iff {s : String} {e : CredentialFault} :
    parse s = .error e ↔ Refused s e := by
  constructor
  · intro h
    by_cases hstart : marker <+: s.toList
    · obtain ⟨rest, hrest⟩ := hstart
      rcases (parse_error_of_marker hrest.symm).mp h with
        ⟨value, hunread, rfl⟩ | ⟨hread, hlacking, rfl⟩
      · exact .expiry hrest.symm hunread
      · exact .fields hrest.symm hread hlacking
    · rw [parse_of_not_marker hstart] at h
      obtain rfl := Except.error.inj h
      exact .start hstart
  · intro h
    cases h with
    | start hstart => exact parse_of_not_marker hstart
    | expiry hrest hunread => exact (parse_error_of_marker hrest).mpr (.inl ⟨_, hunread, rfl⟩)
    | fields hrest hread hlacking =>
      exact (parse_error_of_marker hrest).mpr (.inr ⟨hread, hlacking, rfl⟩)

end HubAuth.Token
