import HubAuth.Proofs.Base64.Canonical
import HubAuth.Token.Basic

/-! # Device keys and their texts

  What a text gives as a device key. Blanks and padding apart, symbols give the
  octets that they carry, and at least one octet is needed. Where strict
  decoding gives a key too, it is the same key, and only where it does not is
  the key reported.

  * `ofBase64_ok`: which texts are keys, and which keys they are.
  * `key_by_bits`: keys made of symbols, by the bits of these symbols.
  * `strict_extended`: strict decoding, and what is reported beyond it.
-/

namespace HubAuth.DeviceKey

variable {s t : String} {key : DeviceKey} {bs : List UInt8}

/-! ### Reading a key -/

theorem ofBase64_of_error {e : Base64.Fault} (h : Base64.decodeLenient s.toList = .error e) :
    ofBase64 s = .fail (.credential (fault e)) := by
  simp only [ofBase64, h]

theorem ofBase64_of_nil (h : Base64.decodeLenient s.toList = .ok []) :
    ofBase64 s = .fail (.credential .emptyKey) := by
  simp only [ofBase64, h]

/-- Octets are a key, which is reported unless its text is canonical. -/
theorem ofBase64_of_ne_nil (h : Base64.decodeLenient s.toList = .ok bs) (hne : bs ≠ []) :
    ofBase64 s = ⟨.ok ⟨s, bs⟩,
      if (Base64.decodeStrict? s.toList).isNone then [.keyNotCanonical] else []⟩ := by
  cases bs with
  | nil => exact absurd rfl hne
  | cons b bs =>
    simp only [ofBase64, h]
    split
    · rfl
    · rfl

/-- A key has the text it was read from, and the octets that this text is
    decoded to. -/
theorem ofBase64_ok :
    (ofBase64 s).result = .ok key ↔
      key.encoded = s ∧ Base64.decodeLenient s.toList = .ok key.bytes ∧ key.bytes ≠ [] := by
  constructor
  · intro h
    cases hdecode : Base64.decodeLenient s.toList with
    | error e =>
      rw [ofBase64_of_error hdecode] at h
      cases h
    | ok bs =>
      by_cases hne : bs = []
      · subst hne
        rw [ofBase64_of_nil hdecode] at h
        cases h
      · rw [ofBase64_of_ne_nil hdecode hne] at h
        obtain rfl := Except.ok.inj h
        exact ⟨rfl, rfl, hne⟩
  · obtain ⟨encoded, bytes⟩ := key
    rintro ⟨rfl, hdecode, hne⟩
    rw [ofBase64_of_ne_nil hdecode hne]

/-- A text that is no key is refused as a credential, and nothing is reported. -/
theorem refused_of_not_ok (h : ∀ key, (ofBase64 s).result ≠ .ok key) :
    ∃ cause, ofBase64 s = .fail (.credential cause) := by
  cases hdecode : Base64.decodeLenient s.toList with
  | error e => exact ⟨fault e, ofBase64_of_error hdecode⟩
  | ok bs =>
    by_cases hne : bs = []
    · subst hne
      exact ⟨.emptyKey, ofBase64_of_nil hdecode⟩
    · have hok : (ofBase64 s).result = .ok ⟨s, bs⟩ := ofBase64_ok.mpr ⟨rfl, hdecode, hne⟩
      exact absurd hok (h ⟨s, bs⟩)

/-- A device key keeps the text it was read from. -/
theorem encoded_of_ofBase64 (h : (ofBase64 s).result = .ok key) : key.encoded = s :=
  (ofBase64_ok.mp h).1

/-- A key that is accepted is reported unless it is canonical. -/
theorem log_ofBase64 (h : (ofBase64 s).result = .ok key) :
    (ofBase64 s).log
      = if (Base64.decodeStrict? s.toList).isNone then [.keyNotCanonical] else [] := by
  obtain ⟨-, hdecode, hne⟩ := ofBase64_ok.mp h
  rw [ofBase64_of_ne_nil hdecode hne]

/-- Nothing else is reported about a key. -/
theorem eq_of_mem_log_ofBase64 {entry : Entry} (h : entry ∈ (ofBase64 s).log) :
    entry = .keyNotCanonical := by
  by_cases hok : ∃ key, (ofBase64 s).result = .ok key
  · obtain ⟨key, hkey⟩ := hok
    rw [log_ofBase64 hkey] at h
    split at h
    · exact List.mem_singleton.mp h
    · cases h
  · obtain ⟨cause, hfail⟩ := refused_of_not_ok (not_exists.mp hok)
    rw [hfail] at h
    cases h

/-! ### Keys made of symbols -/

/-- What a text gives as a key if `symbols` is what it is made of. -/
structure ReadAs (s : String) (symbols : List Char) : Prop where
  /-- Two symbols are needed. -/
  accepted : (∃ key, (ofBase64 s).result = .ok key) ↔ 2 ≤ symbols.length
  /-- Fewer are refused as an empty key. -/
  refused : symbols.length < 2 → (ofBase64 s).result = .error (.credential .emptyKey)
  /-- The key has the text as it was given. -/
  encoded : ∀ key, (ofBase64 s).result = .ok key → key.encoded = s
  /-- Its octets are the whole octets of the symbols' bits. -/
  bytes : ∀ key, (ofBase64 s).result = .ok key → Base64.Carry symbols key.bytes

theorem readAs_of_symbols (h : ∀ c ∈ Base64.cleaned s.toList, c ∈ Base64.alphabet) :
    ReadAs s (Base64.cleaned s.toList) := by
  have hcarry := Base64.carry_octets h
  have hdecode := (Base64.decodeLenient_of_symbols h).mpr hcarry
  have hcount := hcarry.ne_nil_iff
  have hkey : ∀ key, (ofBase64 s).result = .ok key →
      Base64.Carry (Base64.cleaned s.toList) key.bytes := by
    intro key hkey
    obtain ⟨-, hbytes, -⟩ := ofBase64_ok.mp hkey
    exact (Base64.decodeLenient_of_symbols h).mp hbytes
  refine ⟨?_, ?_, fun key => encoded_of_ofBase64, hkey⟩
  · constructor
    · rintro ⟨key, hok⟩
      obtain ⟨-, -, hne⟩ := ofBase64_ok.mp hok
      exact (hkey key hok).ne_nil_iff.mp hne
    · intro htwo
      exact ⟨⟨s, _⟩, ofBase64_ok.mpr ⟨rfl, hdecode, hcount.mpr htwo⟩⟩
  · intro hfew
    have hempty : Base64.octets ((Base64.cleaned s.toList).map Base64.alphabet.idxOf) = [] := by
      by_contra hne
      have := hcount.mp hne
      omega
    rw [hempty] at hdecode
    rw [ofBase64_of_nil hdecode]
    rfl

/-- The encoding of octets, with its padding left out in part and with padding
    and blanks put in, is a key of these octets. -/
theorem ofBase64_of_respaced (hbs : bs ≠ []) (h : Base64.Respaced (Base64.encode bs) s.toList) :
    (ofBase64 s).result = .ok ⟨s, bs⟩ := by
  have hclean := Base64.cleaned_of_respaced h
  have hdecode : Base64.decodeLenient s.toList = .ok bs := by
    have hencoded := Base64.decodeLenient_encode bs
    rw [Base64.decodeLenient_eq_ok_iff] at hencoded ⊢
    rw [hclean]
    exact hencoded
  exact ofBase64_ok.mpr ⟨rfl, hdecode, hbs⟩

/-- Only the octets of a key sign. -/
theorem sign_of_bytes {k l : DeviceKey} (h : k.bytes = l.bytes) (resourceUri : String)
    (expiry : Instant) : Token.sign resourceUri k expiry = Token.sign resourceUri l expiry := by
  have hsign : k.sign (Token.signedMessage resourceUri expiry)
      = l.sign (Token.signedMessage resourceUri expiry) := by
    rw [DeviceKey.sign, DeviceKey.sign, h]
  rw [Token.sign, Token.sign, hsign]

/-- **Keys by their bits**: a text made of symbols, padding and blanks is a key
    exactly if it has two symbols, its octets are the whole octets of the bits
    that the symbols stand for, and it keeps its text. So the encoding of some
    octets is a key of these octets whatever becomes of its padding and whatever
    blanks are put into it, and keys of the same octets sign the same tokens. -/
theorem key_by_bits :
    (∀ s : String,
      (∀ c ∈ s.toList, Text.isBlank c = true ∨ c = '=' ∨ c ∈ Base64.alphabet) →
        ReadAs s (Base64.cleaned s.toList)) ∧
    CredentialFault.emptyKey.message = "device key cannot be empty" ∧
    (∀ (bs : List UInt8) (s : String), bs ≠ [] → Base64.Respaced (Base64.encode bs) s.toList →
      ∃ key, (ofBase64 s).result = .ok key ∧ key.bytes = bs) ∧
    (∀ (s t : String) (k l : DeviceKey), (ofBase64 s).result = .ok k →
      (ofBase64 t).result = .ok l → k.bytes = l.bytes →
        ∀ resourceUri expiry, Token.sign resourceUri k expiry = Token.sign resourceUri l expiry) := by
  refine ⟨?_, rfl, ?_, ?_⟩
  · intro s h
    apply readAs_of_symbols
    intro c hc
    obtain ⟨hmem, hblank, hpad⟩ := Base64.mem_cleaned_iff.mp hc
    rcases h c hmem with hb | heq | hsymbol
    · rw [hblank] at hb
      cases hb
    · exact absurd heq hpad
    · exact hsymbol
  · intro bs s hbs h
    exact ⟨⟨s, bs⟩, ofBase64_of_respaced hbs h, rfl⟩
  · intro s t k l _ _ hbytes resourceUri expiry
    exact sign_of_bytes hbytes resourceUri expiry

/-- A key with an ideographic space, padding in its midst and a lone last symbol;
    an encoding with its padding moved to the middle; and two texts of one octet,
    of which the second has a bit left over. -/
theorem key_by_bits_respaced :
    ReadAs "\u3000Q=UJ\tDR=" ['Q', 'U', 'J', 'D', 'R'] ∧
    Base64.Respaced (Base64.encode [65]) "Q =Q".toList ∧
    (∃ key, (ofBase64 "Q =Q").result = .ok key ∧ key.bytes = [65]) ∧
    ∀ resourceUri expiry,
      Token.sign resourceUri ⟨"QQ==", [65]⟩ expiry = Token.sign resourceUri ⟨"QR", [65]⟩ expiry := by
  have hmoved : Base64.Respaced (Base64.encode [65]) "Q =Q".toList :=
    .keep 'Q' (.putIn (by decide) (.putIn (.inr rfl) (.keep 'Q' (.leaveOut (.leaveOut .nil)))))
  refine ⟨?_, hmoved, ?_, ?_⟩
  · exact key_by_bits.1 "\u3000Q=UJ\tDR=" (List.forall_iff_forall_mem.mp (by decide))
  · exact key_by_bits.2.2.1 [65] "Q =Q" (by decide) hmoved
  · exact key_by_bits.2.2.2 "QQ==" "QR" ⟨"QQ==", [65]⟩ ⟨"QR", [65]⟩ rfl rfl rfl

/-! ### Keys with foreign characters -/

/-- A character that has no place in a key: no symbol, no blank and no padding. -/
def IsForeign (c : Char) : Prop :=
  Text.isBlank c = false ∧ c ≠ '=' ∧ c ∉ Base64.alphabet

/-- Blanks and padding apart, the text is some whole groups of symbols, and after
    them one character of ASCII that is no symbol. It is cut off as if it were a
    lone symbol, before anything is looked up. -/
def CutsOff (s : String) : Prop :=
  ∃ group c, group ≠ [] ∧ Base64.LoneForeign (Base64.cleaned s.toList) group c

theorem exists_foreign_cleaned (h : ∃ c ∈ s.toList, IsForeign c) :
    ∃ c ∈ Base64.cleaned s.toList, c ∉ Base64.alphabet := by
  obtain ⟨c, hmem, hblank, hpad, hforeign⟩ := h
  exact ⟨c, Base64.mem_cleaned_iff.mpr ⟨hmem, hblank, hpad⟩, hforeign⟩

/-- Whole groups that are not empty carry octets. -/
theorem ne_nil_of_groups {group : List Char} (hne : group ≠ []) (hwhole : group.length % 4 = 0)
    (h : Base64.Carry group bs) : bs ≠ [] := by
  have hpos : 0 < group.length := List.length_pos_iff.mpr hne
  exact h.ne_nil_iff.mpr (by omega)

/-- A text with a foreign character is a key only if that character is cut off.
    Then the key is what stands before it. -/
theorem ofBase64_of_foreign (h : ∃ c ∈ s.toList, IsForeign c) :
    (ofBase64 s).result = .ok key ↔
      key.encoded = s ∧ ∃ group c, group ≠ [] ∧
        Base64.LoneForeign (Base64.cleaned s.toList) group c ∧ Base64.Carry group key.bytes := by
  rw [ofBase64_ok, Base64.decodeLenient_of_foreign (exists_foreign_cleaned h)]
  constructor
  · rintro ⟨hencoded, ⟨group, c, hlone, hcarry⟩, hbytes⟩
    have hgroup : group ≠ [] := by
      rintro rfl
      have htwo := hcarry.ne_nil_iff.mp hbytes
      simp at htwo
    exact ⟨hencoded, group, c, hgroup, hlone, hcarry⟩
  · rintro ⟨hencoded, group, c, hgroup, hlone, hcarry⟩
    exact ⟨hencoded, ⟨group, c, hlone, hcarry⟩, ne_nil_of_groups hgroup hlone.whole hcarry⟩

theorem refused_iff_of_foreign (h : ∃ c ∈ s.toList, IsForeign c) :
    (∃ cause, (ofBase64 s).result = .error (.credential cause)) ↔ ¬CutsOff s := by
  constructor
  · rintro ⟨cause, herror⟩ ⟨group, c, hgroup, hlone⟩
    have hcarry := Base64.carry_octets hlone.symbols
    have hok : (ofBase64 s).result = .ok ⟨s, _⟩ :=
      (ofBase64_of_foreign h).mpr ⟨rfl, group, c, hgroup, hlone, hcarry⟩
    rw [herror] at hok
    cases hok
  · intro hcut
    have hnone : ∀ key, (ofBase64 s).result ≠ .ok key := by
      intro key hok
      obtain ⟨-, group, c, hgroup, hlone, -⟩ := (ofBase64_of_foreign h).mp hok
      exact hcut ⟨group, c, hgroup, hlone⟩
    obtain ⟨cause, hfail⟩ := refused_of_not_ok hnone
    rw [hfail]
    exact ⟨cause, rfl⟩

/-- Such a key is reported, since its text is not canonical. -/
theorem log_of_foreign (h : ∃ c ∈ s.toList, IsForeign c) (hok : (ofBase64 s).result = .ok key) :
    (ofBase64 s).log = [.keyNotCanonical] := by
  have hstrict : Base64.decodeStrict? s.toList = none := by
    rw [Option.eq_none_iff_forall_ne_some]
    intro bs hstrict
    obtain ⟨hcanonical, -⟩ := Base64.decodeStrict?_eq_some_iff.mp hstrict
    obtain ⟨c, hmem, -, hpad, hforeign⟩ := h
    rcases hcanonical.characters c hmem with heq | hsymbol
    · exact hpad heq
    · exact hforeign hsymbol
  rw [log_ofBase64 hok, hstrict]
  rfl

/-! ### Strict decoding -/

/-- How reading a text as a key compares with decoding it strictly. -/
structure ExtendsStrict (s : String) : Prop where
  /-- Strict decoding accepts the canonical texts and gives what their symbols carry. -/
  strict : ∀ bs, Base64.decodeStrict? s.toList = some bs ↔
    Base64.Canonical s.toList ∧ Base64.Carry (Base64.unpadded s.toList) bs
  /-- Octets that strict decoding gives are the key, and nothing is logged. -/
  accepted : ∀ bs, Base64.decodeStrict? s.toList = some bs → bs ≠ [] → ofBase64 s = .ok ⟨s, bs⟩
  /-- If it gives no octets, the key is refused as empty. -/
  empty : Base64.decodeStrict? s.toList = some [] → ofBase64 s = .fail (.credential .emptyKey)
  /-- An accepted key is reported, and by one entry, exactly if strict decoding
      refuses its text. Otherwise nothing is logged. -/
  reported : ∀ key, (ofBase64 s).result = .ok key →
    ((ofBase64 s).log = [.keyNotCanonical] ↔ Base64.decodeStrict? s.toList = none) ∧
    ((ofBase64 s).log = [] ↔ Base64.decodeStrict? s.toList ≠ none)
  /-- Nothing is logged about a key that is refused. -/
  refused : ∀ cause, (ofBase64 s).result = .error cause → (ofBase64 s).log = []
  /-- A key that is not reported signs with the octets of strict decoding. -/
  signs : ∀ key, (ofBase64 s).result = .ok key → (ofBase64 s).log = [] →
    ∃ bs, Base64.decodeStrict? s.toList = some bs ∧
      ∀ message, key.sign message = Base64.encode (Hash.hmac bs message)

theorem ofBase64_of_strict (h : Base64.decodeStrict? s.toList = some bs) (hne : bs ≠ []) :
    ofBase64 s = .ok ⟨s, bs⟩ := by
  rw [ofBase64_of_ne_nil (Base64.decodeLenient_of_strict h) hne, h]
  rfl

theorem not_reported_iff (h : (ofBase64 s).result = .ok key) :
    (ofBase64 s).log = [] ↔ Base64.decodeStrict? s.toList ≠ none := by
  rw [log_ofBase64 h]
  cases Base64.decodeStrict? s.toList with
  | none => simp
  | some bs => simp

/-- **Strict decoding is extended, and the report marks the difference**: what
    strict decoding accepts is the same key without a report, or refused as
    empty; a key that strict decoding refuses is reported. -/
theorem strict_extended (s : String) : ExtendsStrict s where
  strict := fun _ => Base64.decodeStrict?_eq_some_iff
  accepted := fun _ => ofBase64_of_strict
  empty := by
    intro h
    exact ofBase64_of_nil (Base64.decodeLenient_of_strict h)
  reported := by
    intro key h
    refine ⟨?_, not_reported_iff h⟩
    rw [log_ofBase64 h]
    cases Base64.decodeStrict? s.toList with
    | none => simp
    | some bs => simp
  refused := by
    intro cause h
    obtain ⟨cause', hfail⟩ := refused_of_not_ok (s := s) fun key hok => by
      rw [h] at hok
      cases hok
    rw [hfail]
    rfl
  signs := by
    intro key h hlog
    obtain ⟨-, hdecode, hne⟩ := ofBase64_ok.mp h
    obtain ⟨bs, hstrict⟩ := Option.ne_none_iff_exists'.mp ((not_reported_iff h).mp hlog)
    refine ⟨bs, hstrict, ?_⟩
    -- Both ways of decoding give the same octets.
    have hsame := Base64.decodeLenient_of_strict hstrict
    rw [hdecode] at hsame
    intro message
    rw [DeviceKey.sign, Except.ok.inj hsame]

/-- A key with padding before its last symbol, which strict decoding refuses. -/
example : ofBase64 "QQ=Q" = ⟨.ok ⟨"QQ=Q", [65, 4]⟩, [.keyNotCanonical]⟩ := by
  rfl

end HubAuth.DeviceKey
