import HubAuth.Endpoint.ConnectionString
import HubAuth.Proofs.Except
import HubAuth.Proofs.Text.Division

/-! # Reading connection strings that were written

  A connection string is written by joining segments with semicolons. It is
  read as these segments if the names are as they would be trimmed and no text
  holds a separator in a wrong place. A value may hold signs of equality, as
  padded keys and tokens do.

  * `segments_written`: every list of such segments is read back.
  * `parse_withCredential`: what is read where host, device and one credential
    are written.
-/

namespace HubAuth.ConnectionString

/-! ### Writing -/

/-- The text of one segment. -/
def Segment.written (s : Segment) : List Char :=
  s.name.toList ++ '=' :: s.value.toList

/-- A connection string with the given segments. -/
def written (ss : List Segment) : List Char :=
  [';'].intercalate (ss.map Segment.written)

/-- The segment can be told apart from others and its name from its value. -/
structure Segment.Writable (s : Segment) : Prop where
  /-- The name ends before the first sign of equality. -/
  name : '=' ∉ s.name.toList
  /-- No white space is trimmed from the name. -/
  trimmed : Text.trim s.name.toList = s.name.toList
  /-- The segment ends before the first semicolon. -/
  whole : ';' ∉ s.written

/-! ### Segments -/

variable {s : Segment} {ss : List Segment}

theorem segment_written (h : s.Writable) : segment s.written = .ok s := by
  have hcut : Text.cutAt '=' s.written = some (s.name.toList, s.value.toList) :=
    Text.cutAt_eq_some_iff.mpr ⟨h.name, rfl⟩
  simp only [segment, hcut, h.trimmed, String.ofList_toList]

/-- The sign of equality keeps a segment from being blank. -/
theorem not_blank_written (s : Segment) : s.written.all Text.isBlank = false := by
  have hmem : '=' ∈ s.written := by
    unfold Segment.written
    simp
  rw [List.all_eq_false]
  exact ⟨'=', hmem, by decide⟩

/-- The pieces of a written connection string are its segments. -/
theorem pieces_written (h : ∀ s ∈ ss, s.Writable) : pieces (written ss) = ss.map Segment.written := by
  have hkept : (ss.map Segment.written).filter (fun piece => !piece.all Text.isBlank)
      = ss.map Segment.written := by
    rw [List.filter_eq_self]
    intro piece hpiece
    obtain ⟨s, -, rfl⟩ := List.mem_map.mp hpiece
    rw [not_blank_written]
    rfl
  by_cases hnil : ss = []
  · subst hnil
    rfl
  · have hwhole : ∀ piece ∈ ss.map Segment.written, ';' ∉ piece := by
      intro piece hpiece
      obtain ⟨s, hs, rfl⟩ := List.mem_map.mp hpiece
      exact (h s hs).whole
    have hsplit : (written ss).splitOn ';' = ss.map Segment.written :=
      List.splitOn_intercalate ';' hwhole (by simpa using hnil)
    rw [pieces, hsplit, hkept]

/-- Every list of segments is read back. -/
theorem segments_written (h : ∀ s ∈ ss, s.Writable) :
    segments (String.ofList (written ss)) = .ok ss := by
  rw [segments, String.toList_ofList, pieces_written h, Except.mapM_eq_ok_iff,
    List.forall₂_map_left_iff, List.forall₂_same]
  intro s hs
  exact segment_written (h s hs)

/-! ### A host, a device and a credential -/

/-- The connection string of a device with one credential of the given name. -/
def withCredential (host device name value : String) : String :=
  "HostName=" ++ host ++ ";DeviceId=" ++ device ++ ";" ++ name ++ "=" ++ value

theorem withCredential_eq (host device name value : String) :
    withCredential host device name value
      = String.ofList (written [⟨"HostName", host⟩, ⟨"DeviceId", device⟩, ⟨name, value⟩]) := by
  rw [← String.toList_inj, String.toList_ofList]
  unfold withCredential
  -- Split into characters only where texts are joined: the literals stay as they are.
  repeat rw [String.toList_append]
  simp only [written, Segment.written, List.map_cons, List.map_nil, List.intercalate_cons_cons,
    List.intercalate_singleton, List.append_assoc]
  rfl

variable {host device name value : String}

theorem writable_of_value (hname : '=' ∉ name.toList ∧ ';' ∉ name.toList)
    (htrimmed : Text.trim name.toList = name.toList) (hvalue : ';' ∉ value.toList) :
    Segment.Writable ⟨name, value⟩ where
  name := hname.1
  trimmed := htrimmed
  whole := by
    unfold Segment.written
    rw [List.mem_append, List.mem_cons]
    rintro (h | h | h)
    · exact hname.2 h
    · exact absurd h (by decide)
    · exact hvalue h

/-- The login that a credential of the given name stands for. -/
inductive Credential : String → String → Login → Prop
  | key (value : String) : Credential "SharedAccessKey" value (.sharedKey value)
  | token (value : String) : Credential "SharedAccessSignature" value (.sharedToken value)

/-- What is read where host, device and one credential are written. -/
theorem parse_withCredential {login : Login} (hlogin : Credential name value login)
    (host_ne : host ≠ "") (device_ne : device ≠ "") (hhost : ';' ∉ host.toList)
    (hdevice : ';' ∉ device.toList) (hvalue : ';' ∉ value.toList) :
    parse (withCredential host device name value)
      = .ok { hostName := host, deviceId := device, login, host_ne, device_ne } := by
  have hnamed : Segment.Writable ⟨name, value⟩ := by
    cases hlogin with
    | key => exact writable_of_value (by decide) (by decide) hvalue
    | token => exact writable_of_value (by decide) (by decide) hvalue
  have hwritable : ∀ s ∈ [⟨"HostName", host⟩, ⟨"DeviceId", device⟩, ⟨name, value⟩],
      Segment.Writable s := by
    intro s hs
    simp only [List.mem_cons, List.not_mem_nil, or_false] at hs
    rcases hs with rfl | rfl | rfl
    · exact writable_of_value (by decide) (by decide) hhost
    · exact writable_of_value (by decide) (by decide) hdevice
    · exact hnamed
  have hread : segments (withCredential host device name value)
      = .ok [⟨"HostName", host⟩, ⟨"DeviceId", device⟩, ⟨name, value⟩] := by
    rw [withCredential_eq]
    exact segments_written hwritable
  have hmade : Endpoint.withCertificate host device
      = .ok { hostName := host, deviceId := device, login := .certificate, host_ne, device_ne } := by
    simp only [Endpoint.withCertificate, Endpoint.make, host_ne, device_ne, dite_false]
  unfold parse
  rw [hread]
  cases hlogin with
  | key => simp [lastValue, choose, hmade, Outcome.ofExcept, Except.mapError, Outcome.ok]
  | token => simp [lastValue, choose, hmade, Outcome.ofExcept, Except.mapError, Outcome.ok]

end HubAuth.ConnectionString
