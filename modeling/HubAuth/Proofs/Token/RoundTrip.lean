import HubAuth.Proofs.Except
import HubAuth.Proofs.Text.Decimal
import HubAuth.Proofs.Text.Form
import HubAuth.Token.Basic
import Mathlib.Data.List.Basic

/-! # Tokens and their texts

  The text of a token says everything about it. What signing writes is read
  back field by field, and a token that was read has the text it was read
  from; so a token that a caller can have is the one that its text stands for.

  * `parse_text`: the text of an obtainable token is read as that token.
  * `parse_undoes_sign`: reading undoes signing, and tokens are equal exactly
    if their texts are.
-/

namespace HubAuth.Token

/-- A token as a caller can have one: signed, issued or read. -/
inductive Obtainable : Token → Prop
  /-- A token signed until an expiry. -/
  | sign (resourceUri : String) (key : DeviceKey) (expiry : Instant) :
      Obtainable (sign resourceUri key expiry)
  /-- A token signed for a duration. -/
  | issue (now : Instant) (resourceUri : String) (key : DeviceKey) (validity : Duration) :
      Obtainable (issue now resourceUri key validity)
  /-- A token read from a text. -/
  | parse {s : String} {t : Token} (h : parse s = .ok t) : Obtainable t

/-! ### What signing writes -/

/-- A digit and the minus sign stand for themselves in a form. -/
theorem isPlain_of_digit {c : Char} (h : c.isDigit = true ∨ c = '-') :
    c.toNat < 0x80 ∧ Text.Form.isPlain (Text.Form.byte c) = true := by
  rcases h with h | rfl
  · obtain ⟨hlow, hhigh⟩ := Char.isDigit_iff_toNat.mp h
    change 48 ≤ c.toNat at hlow
    change c.toNat ≤ 57 at hhigh
    have hbyte : (Text.Form.byte c).toNat = c.toNat := Text.Utf8.toNat_byte (by omega)
    refine ⟨by omega, ?_⟩
    simp [Text.Form.isPlain, hbyte, hlow, hhigh]
  · decide

theorem encode_toText (t : Instant) : Text.Form.encode t.toText = t.toText :=
  Text.Form.encode_of_isPlain fun _ hc => isPlain_of_digit (Text.isDigit_or_minus_of_mem hc)

/-- The text of a token is the marker and a form with three fields. -/
theorem write_eq (resourceUri signature : List Char) (expiry : Instant) :
    write resourceUri signature expiry
      = marker ++ Text.Form.written
          [("sr".toList, resourceUri), ("sig".toList, signature), ("se".toList, expiry.toText)] := by
  have hsr : Text.Form.encode "sr".toList = "sr".toList := by decide +kernel
  have hsig : Text.Form.encode "sig".toList = "sig".toList := by decide +kernel
  have hse : Text.Form.encode "se".toList = "se".toList := by decide +kernel
  simp only [write, Text.Form.written, Text.Form.writtenField, List.map_cons, List.map_nil, hsr, hsig,
    hse, encode_toText, List.intercalate_cons_cons, List.intercalate_singleton, List.append_assoc]
  rfl

/-- The text of a token can stand in a connection string. -/
theorem semicolon_not_mem_write (resourceUri signature : List Char) (expiry : Instant) :
    ';' ∉ write resourceUri signature expiry := by
  have hencoded : ∀ cs : List Char, ';' ∉ Text.Form.encode cs := by
    intro cs
    exact Text.Form.not_mem_encode (by decide) cs
  have hexpiry : ';' ∉ expiry.toText := by
    rw [← encode_toText]
    exact hencoded expiry.toText
  simp only [write, List.mem_append, not_or]
  exact ⟨⟨⟨⟨⟨⟨by decide, by decide⟩, hencoded _⟩, by decide⟩, hencoded _⟩, by decide⟩, hexpiry⟩

/-! ### Reading -/

/-- A text that begins with the marker is read by its fields. -/
theorem parse_marker {s : String} {rest : List Char} (h : s.toList = marker ++ rest) :
    parse s =
      match Fields.putAll {} (Text.Form.fields rest) with
      | .error e => .error e
      | .ok ⟨some resourceUri, some signature, some expiry⟩ =>
        .ok { resourceUri, signature, expiry, text := s }
      | .ok _ => .error .tokenFields := by
  have hrest : marker.isPrefixOf? s.toList = some rest :=
    List.isPrefixOf?_eq_some_iff_append_eq.mpr h.symm
  unfold parse
  split
  · next hnone =>
    rw [hrest] at hnone
    cases hnone
  · next rest' hsome =>
    rw [hrest] at hsome
    obtain rfl := Option.some.inj hsome
    rfl

/-- The three fields that signing writes are taken up. -/
theorem putAll_signed (resourceUri signature : List Char) (expiry : Instant) :
    Fields.putAll {}
        [("sr".toList, resourceUri), ("sig".toList, signature), ("se".toList, expiry.toText)]
      = .ok ⟨some (String.ofList resourceUri), some (String.ofList signature), some expiry⟩ := by
  simp [Fields.putAll, Fields.put, Instant.ofText?_toText]

/-- The text of a signed token is read as that token. -/
theorem parse_sign (resourceUri : String) (key : DeviceKey) (expiry : Instant) :
    parse (sign resourceUri key expiry).text = .ok (sign resourceUri key expiry) := by
  have htext : (sign resourceUri key expiry).text.toList
      = marker ++ Text.Form.written [("sr".toList, resourceUri.toList),
          ("sig".toList, key.sign (signedMessage resourceUri expiry)),
          ("se".toList, expiry.toText)] := by
    rw [← write_eq]
    exact String.toList_ofList
  rw [parse_marker htext, Text.Form.fields_written, putAll_signed]
  simp only [String.ofList_toList]
  rfl

/-- A token that was read has the text it was read from. -/
theorem text_of_parse {s : String} {t : Token} (h : parse s = .ok t) : t.text = s := by
  -- Of all ways through the reader only one ends in a token.
  unfold parse at h
  split at h
  · cases h
  · split at h
    · cases h
    · cases h
      rfl
    · cases h

/-- The text of an obtainable token is read as that token. -/
theorem parse_text {t : Token} (h : t.Obtainable) : parse t.text = .ok t := by
  cases h with
  | sign resourceUri key expiry => exact parse_sign resourceUri key expiry
  | issue now resourceUri key validity => exact parse_sign resourceUri key _
  | parse h => rw [text_of_parse h, h]

/-- Obtainable tokens with the same text are the same. -/
theorem eq_of_text_eq {t u : Token} (ht : t.Obtainable) (hu : u.Obtainable)
    (h : t.text = u.text) : t = u := by
  have hread : parse t.text = .ok u := by rw [h]; exact parse_text hu
  rw [parse_text ht] at hread
  exact Except.ok.inj hread

/-! ### A token from elsewhere -/

/-- A token as another program may write it: its fields in another order, a
    sign before the expiry, escapes in lower case, a byte that is not UTF-8
    and a field of its own. -/
def foreign : Token where
  resourceUri := "h/d \uFFFD"
  signature := "x="
  expiry := ⟨5, by decide, by decide⟩
  text := "SharedAccessSignature se=%2b5&sr=h%2fd+%e9&sig=x%3D&skn=z"

theorem parse_foreign : parse foreign.text = .ok foreign :=
  Except.toOption_eq_some_iff.mp (by decide +kernel)

theorem foreign_obtainable : foreign.Obtainable :=
  .parse parse_foreign

/-! ### The format -/

/-- **Reading undoes signing**: for every resource, key and expiry, the text of
    the signed token is read as a token with that resource, that signature,
    that expiry and that text. So a token that was signed, issued or read is
    read back from its text, and two of them are equal exactly if their texts
    are. -/
theorem parse_undoes_sign :
    (∀ (resourceUri : String) (key : DeviceKey) (expiry : Instant),
      parse (sign resourceUri key expiry).text = .ok
        { resourceUri := resourceUri
          signature := String.ofList (key.sign (signedMessage resourceUri expiry))
          expiry := expiry
          text := (sign resourceUri key expiry).text }) ∧
    (∀ t : Token, t.Obtainable → parse t.text = .ok t) ∧
    (∀ t u : Token, t.Obtainable → u.Obtainable → (t = u ↔ t.text = u.text)) := by
  refine ⟨fun resourceUri key expiry => parse_sign resourceUri key expiry,
    fun t ht => parse_text ht, fun t u ht hu => ⟨?_, ?_⟩⟩
  · rintro rfl
    rfl
  · exact eq_of_text_eq ht hu

/-- A resource of separators, blanks and characters outside ASCII, signed until
    the first point of time, beside a token from elsewhere. -/
theorem parse_undoes_sign_separators :
    let t := sign "h/devices/a&b=c%+; é\n" ⟨"QUJD", [65, 66, 67]⟩
      ⟨-9223372036854775808, by decide, by decide⟩
    t.Obtainable ∧ foreign.Obtainable ∧ parse t.text = .ok t ∧ parse foreign.text = .ok foreign ∧
      (t = foreign ↔ t.text = foreign.text) := by
  intro t
  have ht : t.Obtainable := .sign _ _ _
  obtain ⟨hsign, hread, heq⟩ := parse_undoes_sign
  exact ⟨ht, foreign_obtainable, hsign _ _ _, hread _ foreign_obtainable,
    heq t foreign ht foreign_obtainable⟩

end HubAuth.Token
