import HubAuth.Proofs.Credentials.History

/-! # Keys with foreign characters

  A character that is no symbol, no blank and no padding makes a device key
  unusable, wherever it stands, with one exception. A lone character over whole
  groups of four is cut off as an incomplete symbol before it is looked up, so
  there a foreign character of ASCII goes unseen.

  * `withToken_error_of_key`: credentials fail exactly as their key does.
  * `foreign_key_refused`: which keys with a foreign character are refused.
  * `foreign_key_accepted`: not all of them are.
-/

namespace HubAuth.Credentials

variable {s : String} {e : Endpoint}

/-- Building credentials for an endpoint with a key fails exactly if reading the
    key does, and for the same reason. -/
theorem withToken_error_of_key (hlogin : e.login = .sharedKey s) (now : Instant) (cfg : Config)
    {f : Failure} :
    (withToken now e cfg).result = .error f ↔ (DeviceKey.ofBase64 s).result = .error f := by
  rw [withToken_error, issuerFor_error, hlogin]
  simp

/-- **Foreign characters in keys**: a key text with a character that is no
    symbol, no blank and no padding is refused as a credential, also where
    credentials are built for an endpoint with this key, except if the foreign
    character is the one that is cut off over whole groups. Then the groups are
    the key, and its text is reported. -/
theorem foreign_key_refused (h : ∃ c ∈ s.toList, DeviceKey.IsForeign c) :
    ((∃ cause, (DeviceKey.ofBase64 s).result = .error (.credential cause)) ↔
      ¬DeviceKey.CutsOff s) ∧
    (∀ now (e : Endpoint) cfg, e.login = .sharedKey s →
      ((∃ cause, (withToken now e cfg).result = .error (.credential cause)) ↔
        ¬DeviceKey.CutsOff s)) ∧
    (∀ group c, group ≠ [] → Base64.LoneForeign (Base64.cleaned s.toList) group c →
      ∃ key, DeviceKey.ofBase64 s = ⟨.ok key, [.keyNotCanonical]⟩ ∧ key.encoded = s ∧
        Base64.Carry group key.bytes) := by
  have hrefused := DeviceKey.refused_iff_of_foreign h
  refine ⟨hrefused, ?_, ?_⟩
  · intro now e cfg hlogin
    rw [← hrefused]
    simp only [withToken_error_of_key hlogin now cfg]
  · intro group c hgroup hlone
    have hcarry := Base64.carry_octets hlone.symbols
    have hok : (DeviceKey.ofBase64 s).result = .ok ⟨s, _⟩ :=
      (DeviceKey.ofBase64_of_foreign h).mpr ⟨rfl, group, c, hgroup, hlone, hcarry⟩
    have hlog := DeviceKey.log_of_foreign h hok
    refine ⟨⟨s, _⟩, ?_, rfl, hcarry⟩
    rw [← hok, ← hlog]

/-- An exclamation mark between symbols. It stands in a whole group, so it is
    not cut off. -/
theorem foreign_key_refused_within :
    (∃ c ∈ "Q U!J=".toList, DeviceKey.IsForeign c) ∧ ¬DeviceKey.CutsOff "Q U!J=" ∧
      ∃ cause, (DeviceKey.ofBase64 "Q U!J=").result = .error (.credential cause) := by
  have hforeign : ∃ c ∈ "Q U!J=".toList, DeviceKey.IsForeign c :=
    ⟨'!', by decide, by decide, by decide, by decide⟩
  have hcut : ¬DeviceKey.CutsOff "Q U!J=" := by
    rintro ⟨group, c, -, hlone⟩
    have hlength : (Base64.cleaned "Q U!J=".toList).length = 4 := by decide
    have hwhole := hlone.whole
    rw [hlone.text, List.length_append, List.length_singleton] at hlength
    omega
  exact ⟨hforeign, hcut, (foreign_key_refused hforeign).1.mpr hcut⟩

/-- An asterisk after a whole group is accepted in a key, and in the key of an
    endpoint. -/
theorem foreign_key_accepted :
    DeviceKey.IsForeign '*' ∧ '*' ∈ "QUJD*".toList ∧
      (DeviceKey.ofBase64 "QUJD*").result = .ok ⟨"QUJD*", [65, 66, 67]⟩ ∧
      ∃ c, (withToken ⟨7, by decide, by decide⟩
        ⟨"h", "d", .sharedKey "QUJD*", by decide, by decide⟩ {}).result = .ok c := by
  let e : Endpoint := ⟨"h", "d", .sharedKey "QUJD*", by decide, by decide⟩
  let now : Instant := ⟨7, by decide, by decide⟩
  have hkey : (DeviceKey.ofBase64 "QUJD*").result = .ok ⟨"QUJD*", [65, 66, 67]⟩ := by rfl
  have hissued : (issuerFor now e {}).result = .ok _ :=
    issuerFor_ok.mpr (.inl ⟨"QUJD*", _, rfl, hkey, rfl⟩)
  obtain ⟨tls, -, hbuilt⟩ := exists_withToken hissued
  exact ⟨⟨by decide, by decide, by decide⟩, by decide, hkey, _, hbuilt⟩

end HubAuth.Credentials
