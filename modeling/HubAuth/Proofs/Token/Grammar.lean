import HubAuth.Proofs.Text.Spelling
import HubAuth.Proofs.Token.Refusal
import Mathlib.Logic.Relation

/-! # The grammar of tokens

  Which texts are tokens, and what each says, as rules on the text. After the
  marker stands a form. Of its fields only the values under three names count,
  in their order: every expiry must be a point of time, and the last value under
  each name is that of the token. So a form may be written in many ways without
  any difference to what is read from it.

  * `parse_eq_iff`: what is read are the rules.
  * `values_of_change`: the ways to write a form keep the values that count.
  * `token_grammar`: all together.
-/

namespace HubAuth.Token

open Text.Form (Respelled Holds field fieldsOf nameOf fieldsOf_append fieldsOf_nil_cons
  fieldsOf_cons fields_eq_iff field_of_respelled nil_of_respelled)
open Text (valuesOf valuesOf_nil valuesOf_cons_self valuesOf_cons_ne valuesOf_append mem_valuesOf
  valuesOf_eq_nil_iff)

/-! ### Expiries -/

/-- A value that is an expiry: a number in the range of points of time. -/
def IsTime (value : List Char) : Prop :=
  ∃ t : Instant, Text.Signed value t.seconds

variable {name value : List Char} {ps : List (List Char × List Char)}

theorem isTime_iff : IsTime value ↔ ∃ t, Instant.ofText? value = some t := by
  simp only [IsTime, Instant.ofText?_eq_some_iff]

namespace Fields

/-- The first expiry that is no point of time stands after others that are. -/
theorem unread_iff : Unread ps value ↔ ∃ before after,
    valuesOf "se".toList ps = before ++ value :: after ∧ (∀ v ∈ before, IsTime v) ∧
      ¬IsTime value := by
  constructor
  · intro h
    induction h with
    | @here value ps h =>
      refine ⟨[], valuesOf "se".toList ps, valuesOf_cons_self _ _ _, by simp, ?_⟩
      rw [isTime_iff, h]
      simp
    | @there name v ps value h rest ih =>
      obtain ⟨before, after, hsplit, hbefore, hvalue⟩ := ih
      by_cases hname : name = "se".toList
      · subst hname
        refine ⟨v :: before, after, ?_, ?_, hvalue⟩
        · rw [valuesOf_cons_self, hsplit]
          rfl
        · rw [List.forall_mem_cons]
          exact ⟨isTime_iff.mpr (h rfl), hbefore⟩
      · refine ⟨before, after, ?_, hbefore, hvalue⟩
        rw [valuesOf_cons_ne hname, hsplit]
  · intro h
    obtain ⟨before, after, hsplit, hbefore, hvalue⟩ := h
    -- A field that is an expiry takes the first of those before the one at fault,
    -- so these are general.
    induction ps generalizing before with
    | nil => simp [valuesOf_nil] at hsplit
    | cons p ps ih =>
      obtain ⟨name, v⟩ := p
      by_cases hname : name = "se".toList
      · subst hname
        rw [valuesOf_cons_self] at hsplit
        cases before with
        | nil =>
          obtain ⟨rfl, -⟩ := List.cons.inj hsplit
          rw [isTime_iff] at hvalue
          exact .here (Option.eq_none_iff_forall_ne_some.mpr fun t ht => hvalue ⟨t, ht⟩)
        | cons b before =>
          rw [List.cons_append] at hsplit
          obtain ⟨rfl, hrest⟩ := List.cons.inj hsplit
          rw [List.forall_mem_cons] at hbefore
          exact .there (fun _ => isTime_iff.mp hbefore.1) (ih before hrest hbefore.2)
      · rw [valuesOf_cons_ne hname] at hsplit
        exact .there (fun h => absurd h hname) (ih before hsplit hbefore)

end Fields

/-! ### Texts -/

/-- The fields have the values of a token. -/
structure Says (ps : List (List Char × List Char)) (t : Token) : Prop where
  /-- Every expiry is a point of time. -/
  times : ∀ v ∈ valuesOf "se".toList ps, IsTime v
  /-- The last resource is that of the token. -/
  resourceUri : (valuesOf "sr".toList ps).getLast? = some t.resourceUri.toList
  /-- The last signature is that of the token. -/
  signature : (valuesOf "sig".toList ps).getLast? = some t.signature.toList
  /-- The last expiry is that of the token. -/
  expiry : ∃ v, (valuesOf "se".toList ps).getLast? = some v ∧ Text.Signed v t.expiry.seconds

/-- What a text is read as. -/
inductive Grammar (text : String) : Except CredentialFault Token → Prop
  /-- It does not begin with the marker. -/
  | start (h : ¬marker <+: text.toList) : Grammar text (.error .tokenStart)
  /-- The first expiry that is no point of time is at fault. -/
  | expiry {rest value : List Char} {ps : List (List Char × List Char)}
      {before after : List (List Char)} (h : text.toList = marker ++ rest)
      (form : Holds rest ps)
      (first : valuesOf "se".toList ps = before ++ value :: after)
      (times : ∀ v ∈ before, IsTime v) (untimely : ¬IsTime value) :
      Grammar text (.error (.tokenExpiry (String.ofList value)))
  /-- A field is lacking. -/
  | fields {rest : List Char} {ps : List (List Char × List Char)}
      (h : text.toList = marker ++ rest) (form : Holds rest ps)
      (times : ∀ v ∈ valuesOf "se".toList ps, IsTime v)
      (lacking : valuesOf "sr".toList ps = [] ∨ valuesOf "sig".toList ps = [] ∨
        valuesOf "se".toList ps = []) : Grammar text (.error .tokenFields)
  /-- It is a token, which keeps the text. -/
  | token {rest : List Char} {ps : List (List Char × List Char)} {t : Token}
      (h : text.toList = marker ++ rest) (form : Holds rest ps) (values : Says ps t)
      (kept : t.text = text) : Grammar text (.ok t)

variable {text : String} {rest : List Char} {t : Token}

/-- Every expiry is a point of time, unless there is a first that is none. -/
theorem times_iff :
    (∀ v ∈ valuesOf "se".toList ps, IsTime v) ↔ ∀ value, ¬Fields.Unread ps value := by
  constructor
  · intro h value hunread
    obtain ⟨before, after, hsplit, -, hvalue⟩ := Fields.unread_iff.mp hunread
    apply hvalue (h value ?_)
    rw [hsplit]
    exact List.mem_append_right _ List.mem_cons_self
  · intro h
    cases hput : Fields.putAll {} ps with
    | error e =>
      obtain ⟨value, hunread, -⟩ := Fields.putAll_error_iff.mp hput
      exact absurd hunread (h value)
    | ok g =>
      intro v hv
      exact isTime_iff.mpr ((Fields.putAll_ok hput).times v hv)

theorem lacking_iff_nil : Fields.Lacking ps ↔ valuesOf "sr".toList ps = [] ∨
    valuesOf "sig".toList ps = [] ∨ valuesOf "se".toList ps = [] := by
  rw [valuesOf_eq_nil_iff, valuesOf_eq_nil_iff, valuesOf_eq_nil_iff]
  exact Iff.rfl

theorem map_ofList_eq_some_iff {o : Option (List Char)} {s : String} :
    o.map String.ofList = some s ↔ o = some s.toList := by
  rw [Option.map_eq_some_iff]
  constructor
  · intro h
    obtain ⟨cs, rfl, rfl⟩ := h
    rw [String.toList_ofList]
  · rintro rfl
    exact ⟨_, rfl, String.ofList_toList⟩

/-- The values that are left are those that the fields have. -/
theorem values_iff {g : Fields} (h : Fields.Leaves {} ps g) :
    g = ⟨some t.resourceUri, some t.signature, some t.expiry⟩ ↔ Says ps t := by
  have hresource : g.resourceUri = some t.resourceUri ↔
      (valuesOf "sr".toList ps).getLast? = some t.resourceUri.toList := by
    rw [h.resourceUri, Option.or_none, map_ofList_eq_some_iff]
  have hsignature : g.signature = some t.signature ↔
      (valuesOf "sig".toList ps).getLast? = some t.signature.toList := by
    rw [h.signature, Option.or_none, map_ofList_eq_some_iff]
  have hexpiry : g.expiry = some t.expiry ↔
      ∃ v, (valuesOf "se".toList ps).getLast? = some v ∧ Text.Signed v t.expiry.seconds := by
    rw [h.expiry, Option.or_none, Option.bind_eq_some_iff]
    simp only [Instant.ofText?_eq_some_iff]
  constructor
  · rintro rfl
    refine ⟨?_, hresource.mp rfl, hsignature.mp rfl, hexpiry.mp rfl⟩
    intro v hv
    exact isTime_iff.mpr (h.times v hv)
  · intro hvalues
    obtain ⟨resourceUri, signature, expiry⟩ := g
    rw [Fields.mk.injEq]
    exact ⟨hresource.mpr hvalues.resourceUri, hsignature.mpr hvalues.signature,
      hexpiry.mpr hvalues.expiry⟩

/-- A text is read as a token exactly if its fields have the values of that
    token, and the token keeps it. -/
theorem parse_ok_of_marker (h : text.toList = marker ++ rest) :
    parse text = .ok t ↔ Says (Text.Form.fields rest) t ∧ t.text = text := by
  rw [parse_marker h]
  cases hput : Fields.putAll {} (Text.Form.fields rest) with
  | error e =>
    obtain ⟨value, hunread, -⟩ := Fields.putAll_error_iff.mp hput
    constructor
    · intro herror
      cases herror
    · intro h
      obtain ⟨hvalues, -⟩ := h
      exact absurd hunread (times_iff.mp hvalues.times value)
  | ok g =>
    rw [← values_iff (Fields.putAll_ok hput)]
    constructor
    · intro hok
      obtain ⟨resourceUri, signature, expiry⟩ := g
      cases resourceUri with
      | none => cases hok
      | some resourceUri =>
        cases signature with
        | none => cases hok
        | some signature =>
          cases expiry with
          | none => cases hok
          | some expiry =>
            obtain rfl := Except.ok.inj hok
            exact ⟨rfl, rfl⟩
    · intro h
      obtain ⟨rfl, rfl⟩ := h
      rfl

/-- Whatever the text is, a rule applies. -/
theorem grammar_parse (text : String) : Grammar text (parse text) := by
  by_cases hstart : marker <+: text.toList
  · obtain ⟨rest, hrest⟩ := hstart
    have h : text.toList = marker ++ rest := hrest.symm
    have hform : Holds rest (Text.Form.fields rest) := fields_eq_iff.mp rfl
    cases hparse : parse text with
    | error e =>
      rcases (parse_error_of_marker h).mp hparse with ⟨value, hunread, rfl⟩ | ⟨hread, hlacking, rfl⟩
      · obtain ⟨before, after, hsplit, hbefore, hvalue⟩ := Fields.unread_iff.mp hunread
        exact .expiry h hform hsplit hbefore hvalue
      · exact .fields h hform (times_iff.mpr hread) (lacking_iff_nil.mp hlacking)
    | ok t =>
      obtain ⟨hvalues, hkept⟩ := (parse_ok_of_marker h).mp hparse
      exact .token h hform hvalues hkept
  · rw [parse_of_not_marker hstart]
    exact .start hstart

/-- **What is read are the rules.** -/
theorem parse_eq_iff {r : Except CredentialFault Token} : parse text = r ↔ Grammar text r := by
  constructor
  · rintro rfl
    exact grammar_parse text
  · intro hrule
    cases hrule with
    | start h => exact parse_of_not_marker h
    | expiry h form first times untimely =>
      obtain rfl := fields_eq_iff.mpr form
      have hunread := Fields.unread_iff.mpr ⟨_, _, first, times, untimely⟩
      exact (parse_error_of_marker h).mpr (.inl ⟨_, hunread, rfl⟩)
    | fields h form times lacking =>
      obtain rfl := fields_eq_iff.mpr form
      have hlacking := lacking_iff_nil.mpr lacking
      exact (parse_error_of_marker h).mpr (.inr ⟨times_iff.mp times, hlacking, rfl⟩)
    | token h form values kept =>
      obtain rfl := fields_eq_iff.mpr form
      exact (parse_ok_of_marker h).mpr ⟨values, kept⟩

/-! ### Other ways to write a form -/

/-- A change to the pieces of a form that changes nothing that counts. -/
inductive Change : List (List Char) → List (List Char) → Prop
  /-- The pieces of each name stay in order. -/
  | reorder {ps qs : List (List Char)}
      (h : ∀ name, (ps.filter fun p => nameOf p = name) = qs.filter fun q => nameOf q = name) :
      Change ps qs
  /-- An empty piece is put in. -/
  | empty {before after : List (List Char)} : Change (before ++ after) (before ++ [] :: after)
  /-- A piece of another name is put in. -/
  | other {before after : List (List Char)} {piece : List Char}
      (h : nameOf piece ∉ ["sr".toList, "sig".toList, "se".toList]) :
      Change (before ++ after) (before ++ piece :: after)
  /-- A name and its value are spelled in another way. -/
  | respell {before after : List (List Char)} {piece piece' : List Char}
      (h : Respelled piece piece') : Change (before ++ piece :: after) (before ++ piece' :: after)

/-- The values under a name are those of its pieces. -/
theorem valuesOf_fieldsOf (name : List Char) (ps : List (List Char)) :
    valuesOf name (fieldsOf ps)
      = ((ps.filter fun p => nameOf p = name).filter fun p => p ≠ []).map
        fun p => (field (Text.Utf8.encode p)).2 := by
  unfold valuesOf fieldsOf
  rw [List.filter_map, List.map_map, List.filter_filter, List.filter_filter]
  congr 1
  apply List.filter_congr
  intro p _
  exact Bool.and_comm _ _

/-- No change touches the values that count. -/
theorem values_of_change {ps qs : List (List Char)} (h : Change ps qs)
    (hname : name ∈ ["sr".toList, "sig".toList, "se".toList]) :
    valuesOf name (fieldsOf ps) = valuesOf name (fieldsOf qs) := by
  cases h with
  | reorder h => rw [valuesOf_fieldsOf, valuesOf_fieldsOf, h]
  | empty => rw [fieldsOf_append, fieldsOf_append, fieldsOf_nil_cons]
  | @other before after piece h =>
    rw [fieldsOf_append, fieldsOf_append, valuesOf_append, valuesOf_append]
    congr 1
    by_cases hpiece : piece = []
    · rw [hpiece, fieldsOf_nil_cons]
    · rw [fieldsOf_cons hpiece]
      symm
      apply valuesOf_cons_ne
      rintro rfl
      exact h hname
  | @respell before after piece piece' h =>
    rw [fieldsOf_append, fieldsOf_append, valuesOf_append, valuesOf_append]
    congr 1
    by_cases hpiece : piece = []
    · rw [hpiece, (nil_of_respelled h).mp hpiece]
    · rw [fieldsOf_cons hpiece, fieldsOf_cons (mt (nil_of_respelled h).mpr hpiece),
        field_of_respelled h]

/-- Nor do any number of them. -/
theorem values_of_changes {ps qs : List (List Char)} (h : Relation.EqvGen Change ps qs)
    (hname : name ∈ ["sr".toList, "sig".toList, "se".toList]) :
    valuesOf name (fieldsOf ps) = valuesOf name (fieldsOf qs) := by
  induction h with
  | rel ps qs h => exact values_of_change h hname
  | refl ps => rfl
  | symm ps qs _ ih => exact ih.symm
  | trans ps qs rs _ _ first second => exact first.trans second

/-! ### Tokens -/

/-- The text is the marker and a form with the given pieces. -/
def Written (text : String) (pieces : List (List Char)) : Prop :=
  ∃ rest, text.toList = marker ++ rest ∧ Text.Divided '&' rest pieces

/-- What is read from a token, apart from its text. -/
def parts (t : Token) : String × String × Instant :=
  (t.resourceUri, t.signature, t.expiry)

/-- How a text is read. -/
structure Read (text : String) : Prop where
  /-- The outcome is that of the rules. -/
  outcome : ∀ r, parse text = r ↔ Grammar text r
  /-- It is a token exactly if it begins with the marker, every expiry is a
      point of time, and each of the three names occurs. -/
  accepted : (∃ t, parse text = .ok t) ↔ ∃ rest ps, text.toList = marker ++ rest ∧
    Holds rest ps ∧ (∀ value, ("se".toList, value) ∈ ps → IsTime value) ∧
      ∀ name ∈ ["sr".toList, "sig".toList, "se".toList], ∃ value, (name, value) ∈ ps
  /-- The token keeps the text. -/
  kept : ∀ t, parse text = .ok t → t.text = text
  /-- The same is read, and the same refused, if the form is written in another
      way. -/
  unchanged : ∀ other ps qs, Written text ps → Written other qs → Relation.EqvGen Change ps qs →
    (parse other).map parts = (parse text).map parts

theorem holds_of_written {pieces : List (List Char)} (h : Text.Divided '&' rest pieces) :
    Holds rest (fieldsOf pieces) := by
  rw [← fields_eq_iff, Text.Form.fields_of_divided h]

/-- What counts of two forms being equal, the same is read from them. -/
theorem parse_of_values {other : String} {rest' : List Char} {qs : List (List Char × List Char)}
    (h : text.toList = marker ++ rest) (form : Holds rest ps)
    (h' : other.toList = marker ++ rest') (form' : Holds rest' qs)
    (values : ∀ name ∈ ["sr".toList, "sig".toList, "se".toList],
      valuesOf name ps = valuesOf name qs) :
    (parse other).map parts = (parse text).map parts := by
  have hsr := values "sr".toList (by simp)
  have hsig := values "sig".toList (by simp)
  have hse := values "se".toList (by simp)
  obtain rfl := fields_eq_iff.mpr form
  cases hparse : parse text with
  | error e =>
    have hother : parse other = .error e := by
      rcases (parse_error_of_marker h).mp hparse with
        ⟨value, hunread, rfl⟩ | ⟨hread, hlacking, rfl⟩
      · obtain ⟨before, after, hsplit, hbefore, hvalue⟩ := Fields.unread_iff.mp hunread
        rw [hse] at hsplit
        exact parse_eq_iff.mpr (.expiry h' form' hsplit hbefore hvalue)
      · have htimes := times_iff.mpr hread
        have hlacking := lacking_iff_nil.mp hlacking
        rw [hse] at htimes
        rw [hsr, hsig, hse] at hlacking
        exact parse_eq_iff.mpr (.fields h' form' htimes hlacking)
    rw [hother]
  | ok t =>
    obtain ⟨hvalues, -⟩ := (parse_ok_of_marker h).mp hparse
    have hother : parse other = .ok { t with text := other } := by
      apply parse_eq_iff.mpr
      refine .token h' form' ⟨?_, ?_, ?_, ?_⟩ rfl
      · rw [← hse]
        exact hvalues.times
      · rw [← hsr]
        exact hvalues.resourceUri
      · rw [← hsig]
        exact hvalues.signature
      · rw [← hse]
        exact hvalues.expiry
    rw [hother]
    rfl

theorem exists_token_iff (h : text.toList = marker ++ rest) (form : Holds rest ps) :
    (∃ t, parse text = .ok t) ↔ (∀ value, ("se".toList, value) ∈ ps → IsTime value) ∧
      ∀ name ∈ ["sr".toList, "sig".toList, "se".toList], ∃ value, (name, value) ∈ ps := by
  obtain rfl := fields_eq_iff.mpr form
  cases hparse : parse text with
  | error e =>
    constructor
    · intro h
      obtain ⟨t, ht⟩ := h
      cases ht
    · intro h
      obtain ⟨htimes, hnames⟩ := h
      rcases (parse_error_of_marker h).mp hparse with ⟨value, hunread, -⟩ | ⟨-, hlacking, -⟩
      · have hread := times_iff.mp fun v hv => htimes v (mem_valuesOf.mp hv)
        exact absurd hunread (hread value)
      · have hoccurs : ∀ name ∈ ["sr".toList, "sig".toList, "se".toList],
            name ∈ (Text.Form.fields rest).map Prod.fst := by
          intro name hname
          obtain ⟨value, hvalue⟩ := hnames name hname
          exact List.mem_map_of_mem (f := Prod.fst) hvalue
        rcases hlacking with hsr | hsig | hse
        · exact absurd (hoccurs _ (by simp)) hsr
        · exact absurd (hoccurs _ (by simp)) hsig
        · exact absurd (hoccurs _ (by simp)) hse
  | ok t =>
    obtain ⟨hvalues, -⟩ := (parse_ok_of_marker h).mp hparse
    have hlast : ∀ {name value : List Char},
        (valuesOf name (Text.Form.fields rest)).getLast? = some value →
          ∃ value, (name, value) ∈ Text.Form.fields rest := by
      intro name value hvalue
      exact ⟨value, mem_valuesOf.mp (List.mem_of_getLast? hvalue)⟩
    constructor
    · intro _
      refine ⟨fun value hvalue => hvalues.times value (mem_valuesOf.mpr hvalue), ?_⟩
      obtain ⟨expiry, hexpiry, -⟩ := hvalues.expiry
      simp only [List.forall_mem_cons, List.not_mem_nil, false_implies, implies_true, and_true]
      exact ⟨hlast hvalues.resourceUri, hlast hvalues.signature, hlast hexpiry⟩
    · intro _
      exact ⟨t, rfl⟩

/-- **The grammar of tokens**: every text is read as the rules say, be it a
    token or not, and however its form is written. -/
theorem token_grammar (text : String) : Read text := by
  have hrule : ∀ r, parse text = r ↔ Grammar text r := fun r => parse_eq_iff
  refine ⟨hrule, ⟨?_, ?_⟩, ?_, ?_⟩
  · intro h
    obtain ⟨t, ht⟩ := h
    cases (hrule _).mp ht with
    | token h form => exact ⟨_, _, h, form, (exists_token_iff h form).mp ⟨t, ht⟩⟩
  · intro h
    obtain ⟨rest, ps, h, form, hfields⟩ := h
    exact (exists_token_iff h form).mpr hfields
  · intro t ht
    exact text_of_parse ht
  · intro other ps qs hwritten hwritten' hchanges
    obtain ⟨rest, h, hdivided⟩ := hwritten
    obtain ⟨rest', h', hdivided'⟩ := hwritten'
    apply parse_of_values h (holds_of_written hdivided) h' (holds_of_written hdivided')
    intro name hname
    exact values_of_changes hchanges hname

/-- A plus sign stands for a space, so as a sign it must be escaped. -/
example : parse "SharedAccessSignature sr=h&sig=x&se=+5" = .error (.tokenExpiry " 5") ∧
    (parse "SharedAccessSignature s%65=%2B5&&sig=x&k&sr=h").map parts
      = .ok ("h", "x", ⟨5, by decide, by decide⟩) := by
  decide +kernel

end HubAuth.Token
