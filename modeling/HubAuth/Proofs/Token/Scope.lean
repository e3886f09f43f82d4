import HubAuth.Endpoint.Basic
import HubAuth.Proofs.Text.Division
import HubAuth.Proofs.Token.RoundTrip

/-! # Scopes of signatures

  A signature covers a message: the resource in form encoding on one line and
  the expiry on the next. The encoding writes no newline and no separator, so
  the message says which resource it is about, whatever characters the resource
  holds, and the resource says which device at which hub. A token for one device
  can not be passed off as one for another.

  * `signedMessage_inj`: a message is about one resource and one expiry.
  * `deviceResource_inj`: a resource is that of one device at one hub.
  * `scopes_distinct`: so no two scopes share a message or a token.
-/

namespace HubAuth

/-! ### Resources -/

/-- A resource is that of one device at one hub, if the names of hubs have no
    slash. The id of the device may hold anything. -/
theorem deviceResource_inj {host host' device device' : String} (hhost : '/' ∉ host.toList)
    (hhost' : '/' ∉ host'.toList) :
    deviceResource host device = deviceResource host' device' ↔ host = host' ∧ device = device' := by
  have hlist : ∀ h d : String,
      (deviceResource h d).toList = h.toList ++ '/' :: ("devices/".toList ++ d.toList) := by
    intro h d
    simp only [deviceResource, String.toList_append, List.append_assoc]
    rfl
  rw [← String.toList_inj, hlist, hlist, Text.append_sep_inj hhost hhost', List.append_cancel_left_eq,
    String.toList_inj, String.toList_inj]

/-- With a slash in the name of a hub that is not so. -/
example : deviceResource "h/devices/a" "b" = deviceResource "h" "a/devices/b" := by
  decide

namespace Token

variable {u v : String} {e f : Instant}

/-! ### Messages -/

theorem newline_not_mem_encode (cs : List Char) : '\n' ∉ Text.Form.encode cs :=
  Text.Form.not_mem_encode (by decide) cs

/-- A message is about one resource and one expiry. -/
theorem signedMessage_inj : signedMessage u e = signedMessage v f ↔ u = v ∧ e = f := by
  unfold signedMessage
  rw [Text.Utf8.encode_inj,
    Text.append_sep_inj (newline_not_mem_encode u.toList) (newline_not_mem_encode v.toList),
    Text.Form.encode_inj, Instant.toText_inj, String.toList_inj]

/-- The text of a token is about the same, whichever key signed it. -/
theorem scope_of_text {k l : DeviceKey} (h : (sign u k e).text = (sign v l f).text) :
    u = v ∧ e = f := by
  have heq : sign u k e = sign v l f := eq_of_text_eq (.sign u k e) (.sign v l f) h
  exact ⟨congrArg Token.resourceUri heq, congrArg Token.expiry heq⟩

/-- A message has two lines. -/
theorem count_newline (u : String) (e : Instant) :
    (signedMessage u e).count (Text.Form.byte '\n') = 1 := by
  have hwritten : ∀ cs, Text.Form.byte '\n' ∉ Text.Utf8.encode (Text.Form.encode cs) := fun cs =>
    Text.Form.byte_not_mem (by decide) (by decide) cs
  have hexpiry := hwritten e.toText
  rw [encode_toText] at hexpiry
  have hnewline : String.utf8EncodeChar '\n' = [Text.Form.byte '\n'] := rfl
  unfold signedMessage
  rw [Text.Utf8.encode_append, Text.Utf8.encode_cons, hnewline, List.count_append, List.count_append,
    List.count_singleton_self, List.count_eq_zero_of_not_mem (hwritten u.toList),
    List.count_eq_zero_of_not_mem hexpiry]

/-! ### Texts -/

/-- The character may stand in a written value: it is a letter, a digit or one of
    six signs. -/
def IsValueChar (c : Char) : Prop :=
  c.isAlphanum = true ∨ c ∈ ['*', '-', '.', '_', '+', '%']

/-- A token is a form with three values, and its signature covers the first and
    the last of them as they are written there. -/
structure Layout (resourceUri : String) (key : DeviceKey) (expiry : Instant)
    (form sr sig se : List Char) : Prop where
  /-- The message is the first value on one line and the last on the next. -/
  message : signedMessage resourceUri expiry = Text.Utf8.encode (sr ++ '\n' :: se)
  /-- It has no other newline. -/
  newline : (signedMessage resourceUri expiry).count (Text.Form.byte '\n') = 1
  /-- The text is the marker and the form. -/
  text : (sign resourceUri key expiry).text.toList = marker ++ form
  /-- The form has three fields. -/
  fields : Text.Divided '&' form ["sr=".toList ++ sr, "sig=".toList ++ sig, "se=".toList ++ se]
  /-- They stand for the resource, the signature of the message, and the expiry. -/
  decoded : Text.Form.fields form = [("sr".toList, resourceUri.toList),
    ("sig".toList, key.sign (signedMessage resourceUri expiry)), ("se".toList, expiry.toText)]
  /-- Of what the first value consists. -/
  resource : ∀ c ∈ sr, IsValueChar c
  /-- Of what the second value consists. -/
  signature : ∀ c ∈ sig, IsValueChar c

/-- The fields of a token, each as it is written. -/
def writtenFields (resourceUri signature : List Char) (expiry : Instant) : List (List Char) :=
  ["sr=".toList ++ Text.Form.encode resourceUri, "sig=".toList ++ Text.Form.encode signature,
    "se=".toList ++ expiry.toText]

/-- The text of a token is the marker and these fields. -/
theorem write_fields (resourceUri signature : List Char) (expiry : Instant) :
    write resourceUri signature expiry
      = marker ++ ['&'].intercalate (writtenFields resourceUri signature expiry) := by
  simp only [write, writtenFields, List.intercalate_cons_cons, List.intercalate_singleton,
    List.append_assoc]
  rfl

/-- The fields of a token are told apart. -/
theorem divided_fields (resourceUri signature : List Char) (expiry : Instant) :
    Text.Divided '&' (['&'].intercalate (writtenFields resourceUri signature expiry))
      (writtenFields resourceUri signature expiry) := by
  have hseparator : ∀ cs, '&' ∉ Text.Form.encode cs := fun cs =>
    Text.Form.not_mem_encode (by decide) cs
  have hexpiry : '&' ∉ expiry.toText := by
    rw [← encode_toText]
    exact hseparator expiry.toText
  refine ⟨List.cons_ne_nil _ _, rfl, ?_⟩
  intro p hp
  simp only [writtenFields, List.mem_cons, List.not_mem_nil, or_false] at hp
  rcases hp with rfl | rfl | rfl
  · simp [hseparator]
  · simp [hseparator]
  · simp [hexpiry]

/-- Every resource is written so. -/
theorem layout_sign (resourceUri : String) (key : DeviceKey) (expiry : Instant) :
    ∃ form sr sig se, Layout resourceUri key expiry form sr sig se := by
  let signature := key.sign (signedMessage resourceUri expiry)
  have htext : (sign resourceUri key expiry).text.toList
      = write resourceUri.toList signature expiry := String.toList_ofList
  have hform := write_fields resourceUri.toList signature expiry
  have hchars : ∀ cs, ∀ c ∈ Text.Form.encode cs, IsValueChar c := by
    intro cs c hc
    exact Text.Form.sign_of_isWritten (Text.Form.isWritten_of_mem_encode hc)
  refine ⟨['&'].intercalate (writtenFields resourceUri.toList signature expiry),
    Text.Form.encode resourceUri.toList, Text.Form.encode signature, expiry.toText, ?_⟩
  constructor
  case message => rfl
  case newline => exact count_newline resourceUri expiry
  case text => exact htext.trans hform
  case fields => exact divided_fields resourceUri.toList signature expiry
  case decoded =>
    -- The text is also the marker and a form, and after the marker they are the same.
    rw [write_eq] at hform
    rw [← List.append_cancel_left hform]
    exact Text.Form.fields_written _
  case resource => exact hchars resourceUri.toList
  case signature => exact hchars signature

/-- **Scopes are distinct**: two devices, be they at two hubs or at one, and two
    expiries for one device, never have the same message to be signed, nor the
    same token, whichever keys sign. A message has two lines and a token three
    fields, and the resource stands in both of them as the same text. -/
theorem scopes_distinct :
    (∀ (host host' device device' : String) (expiry expiry' : Instant),
      '/' ∉ host.toList → '/' ∉ host'.toList →
      (host, device, expiry) ≠ (host', device', expiry') →
      signedMessage (deviceResource host device) expiry
          ≠ signedMessage (deviceResource host' device') expiry' ∧
        ∀ key key', (sign (deviceResource host device) key expiry).text
          ≠ (sign (deviceResource host' device') key' expiry').text) ∧
    ∀ resourceUri key expiry, ∃ form sr sig se, Layout resourceUri key expiry form sr sig se := by
  refine ⟨?_, layout_sign⟩
  intro host host' device device' expiry expiry' hhost hhost' hne
  have hscope : ¬(deviceResource host device = deviceResource host' device' ∧ expiry = expiry') := by
    rw [deviceResource_inj hhost hhost']
    rintro ⟨⟨rfl, rfl⟩, rfl⟩
    exact hne rfl
  constructor
  · intro h
    exact hscope (signedMessage_inj.mp h)
  · intro key key' h
    exact hscope (scope_of_text h)

/-- The id of a device looks like the message for another one with its expiry, or
    like fields of its token. -/
theorem scopes_distinct_lookalike :
    let e : Instant := ⟨5, by decide, by decide⟩
    let k : DeviceKey := ⟨"QUJD", [65, 66, 67]⟩
    '/' ∉ "h".toList ∧ ("h", "d\n5/devices/d&se=5", e) ≠ ("h", "d", e) ∧
      signedMessage (deviceResource "h" "d\n5/devices/d&se=5") e
        ≠ signedMessage (deviceResource "h" "d") e ∧
      (sign (deviceResource "h" "d\n5/devices/d&se=5") k e).text
        ≠ (sign (deviceResource "h" "d") k e).text ∧
      ∃ form sr sig se, Layout (deviceResource "h" "d\n5/devices/d&se=5") k e form sr sig se := by
  intro e k
  have hhost : '/' ∉ "h".toList := by decide
  have hne : ("h", "d\n5/devices/d&se=5", e) ≠ ("h", "d", e) := by decide
  obtain ⟨hdistinct, hwritten⟩ := scopes_distinct
  obtain ⟨hmessage, htext⟩ := hdistinct "h" "h" _ _ e e hhost hhost hne
  exact ⟨hhost, hne, hmessage, htext k k, hwritten _ k e⟩

end Token

end HubAuth
