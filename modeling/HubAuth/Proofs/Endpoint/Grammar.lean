import HubAuth.Endpoint.ConnectionString
import HubAuth.Proofs.Except
import HubAuth.Proofs.Text.Division

/-! # The grammar of connection strings

  What connection strings there are, and what each describes, as rules on the
  text: how it is divided, which pieces are segments, which of several values
  counts, and in which order faults are found. The parser follows these rules,
  so two strings with the same last values of the five known names describe the
  same endpoint or have the same fault.

  * `segment_eq_ok_iff`: a piece is a name, an equals sign and a value.
  * `lastValue_iff`: the value that counts.
  * `parse_eq_iff`: what is read are the rules.
  * `parse_grammar`: and what follows from them.
-/

namespace HubAuth.ConnectionString

/-! ### Segments -/

/-- The piece is a name with white space around it, an equals sign and a value. -/
structure Names (piece : List Char) (s : Segment) : Prop where
  /-- The value begins after an equals sign. -/
  joined : ∃ name, Text.Padded name s.name.toList ∧ '=' ∉ name ∧
    piece = name ++ '=' :: s.value.toList
  /-- All white space around the name is taken away. -/
  tight : Text.Tight s.name.toList

variable {piece : List Char} {s : Segment} {ss : List Segment}

theorem segment_eq_ok_iff : segment piece = .ok s ↔ Names piece s := by
  unfold segment
  cases hcut : Text.cutAt '=' piece with
  | none =>
    have hnone : '=' ∉ piece := Text.cutAt_eq_none_iff.mp hcut
    constructor
    · intro h
      cases h
    · intro h
      obtain ⟨⟨name, -, -, rfl⟩, -⟩ := h
      simp at hnone
  | some cut =>
    obtain ⟨name, value⟩ := cut
    constructor
    · intro h
      obtain rfl := Except.ok.inj h
      obtain ⟨hname, hpiece⟩ := Text.cutAt_eq_some_iff.mp hcut
      have htrimmed : Text.Tight (Text.trim name) ∧ Text.Padded name (Text.trim name) :=
        Text.trim_eq_iff.mp rfl
      obtain ⟨htight, hpadded⟩ := htrimmed
      refine ⟨⟨name, ?_, hname, ?_⟩, ?_⟩
      · rw [String.toList_ofList]
        exact hpadded
      · rw [String.toList_ofList]
        exact hpiece
      · rw [String.toList_ofList]
        exact htight
    · intro h
      obtain ⟨⟨name', hpadded, hname', hpiece⟩, htight⟩ := h
      obtain ⟨hname, hcut⟩ := Text.cutAt_eq_some_iff.mp hcut
      -- There is one first equals sign.
      obtain ⟨rfl, rfl⟩ := (Text.append_sep_inj hname' hname).mp (hpiece.symm.trans hcut)
      have htrim := Text.trim_eq_iff.mpr ⟨htight, hpadded⟩
      simp only [htrim, String.ofList_toList]

theorem segment_eq_error_iff {e : ArgumentFault} :
    segment piece = .error e ↔ '=' ∉ piece ∧ e = .malformedSegment (String.ofList piece) := by
  unfold segment
  cases hcut : Text.cutAt '=' piece with
  | none =>
    have hnone : '=' ∉ piece := Text.cutAt_eq_none_iff.mp hcut
    simp [hnone, eq_comm]
  | some cut =>
    have hsome : '=' ∈ piece := by
      rw [(Text.cutAt_eq_some_iff.mp hcut).2]
      simp
    simp [hsome]

theorem exists_segment_iff : (∃ s, segment piece = .ok s) ↔ '=' ∈ piece := by
  cases h : segment piece with
  | error e =>
    have hnone := (segment_eq_error_iff.mp h).1
    simp [hnone]
  | ok s =>
    obtain ⟨⟨name, -, -, rfl⟩, -⟩ := segment_eq_ok_iff.mp h
    simp

/-- The pieces of a text that are not only white space. -/
inductive Pieces (text : String) : List (List Char) → Prop
  | divided {ps : List (List Char)} (h : Text.Divided ';' text.toList ps) :
      Pieces text (ps.filter fun piece => piece.any fun c => !Text.isBlank c)

theorem pieces_iff {text : String} {ps : List (List Char)} :
    pieces text.toList = ps ↔ Pieces text ps := by
  have hkept : (fun piece : List Char => !piece.all Text.isBlank)
      = fun piece => piece.any fun c => !Text.isBlank c := by
    funext piece
    exact List.not_all_eq_any_not
  unfold pieces
  rw [hkept]
  constructor
  · rintro rfl
    exact .divided (Text.splitOn_eq_iff.mp rfl)
  · intro h
    obtain ⟨h⟩ := h
    rw [Text.splitOn_eq_iff.mpr h]

/-! ### Values that count -/

/-- The last value of a name, if the name occurs. -/
inductive Last (name : String) (ss : List Segment) : Option String → Prop
  /-- After it the name does not occur. -/
  | value {before after : List Segment} {value : String}
      (h : ss = before ++ ⟨name, value⟩ :: after) (last : ∀ s ∈ after, s.name ≠ name) :
      Last name ss (some value)
  /-- The name does not occur. -/
  | absent (h : ∀ s ∈ ss, s.name ≠ name) : Last name ss none

theorem last_lastValue (name : String) (ss : List Segment) : Last name ss (lastValue name ss) := by
  unfold lastValue
  cases hfind : ss.reverse.find? fun s => s.name == name with
  | none =>
    apply Last.absent
    intro s hs
    have h := List.find?_eq_none.mp hfind s (List.mem_reverse.mpr hs)
    simpa using h
  | some found =>
    obtain ⟨hname, after, before, hsplit, hafter⟩ := List.find?_eq_some_iff_append.mp hfind
    obtain rfl : found.name = name := by simpa using hname
    have hss : ss = before.reverse ++ found :: after.reverse := by
      rw [← List.reverse_reverse ss, hsplit]
      simp
    refine Last.value hss ?_
    intro s hs
    have h := hafter s (List.mem_reverse.mp hs)
    simpa using h

/-- The value that counts is found from the end. -/
theorem lastValue_iff {name : String} {value : Option String} :
    lastValue name ss = value ↔ Last name ss value := by
  constructor
  · rintro rfl
    exact last_lastValue name ss
  · intro h
    unfold lastValue
    cases h with
    | absent h =>
      have hnone : (ss.reverse.find? fun s => s.name == name) = none := by
        rw [List.find?_eq_none]
        intro s hs
        have hs' := h s (List.mem_reverse.mp hs)
        simpa using hs'
      rw [hnone]
      rfl
    | @value before after value h last =>
      have hsome : (ss.reverse.find? fun s => s.name == name) = some ⟨name, value⟩ := by
        rw [List.find?_eq_some_iff_append]
        refine ⟨by simp, after.reverse, before.reverse, by simp [h], ?_⟩
        intro s hs
        have hs' := last s (List.mem_reverse.mp hs)
        simpa using hs'
      rw [hsome]
      rfl

/-! ### Faults and endpoints -/

/-- The last values of the names that are known. -/
structure Given where
  /-- The hub. -/
  hostName : Option String
  /-- The device. -/
  deviceId : Option String
  /-- The device key. -/
  key : Option String
  /-- The token. -/
  token : Option String
  /-- Whether the device logs in with a certificate. -/
  x509 : Option String

/-- The values are the last ones under their names. -/
structure Given.LastOf (g : Given) (ss : List Segment) : Prop where
  /-- The last hub. -/
  hostName : Last "HostName" ss g.hostName
  /-- The last device. -/
  deviceId : Last "DeviceId" ss g.deviceId
  /-- The last device key. -/
  key : Last "SharedAccessKey" ss g.key
  /-- The last token. -/
  token : Last "SharedAccessSignature" ss g.token
  /-- The last word on certificates. -/
  x509 : Last "x509" ss g.x509

/-- The device is to log in with a certificate: each letter of the value is the
    one of `true` or its capital. -/
def Given.WantsCertificate (g : Given) : Prop :=
  ∃ value, g.x509 = some value ∧
    List.Forall₂ (fun c d => c = d ∨ c = Char.toUpper d) value.toList "true".toList

/-- What the values describe. The faults are those of the first rule that
    applies. -/
inductive Describes (g : Given) : Outcome Endpoint → Prop
  /-- There is no host. -/
  | noHost (host : g.hostName = none) : Describes g (.fail (.argument (.missingName .host)))
  /-- There is no device. -/
  | noDevice (host : g.hostName ≠ none) (device : g.deviceId = none) :
      Describes g (.fail (.argument (.missingName .device)))
  /-- The host is empty. -/
  | emptyHost (host : g.hostName = some "") (device : g.deviceId ≠ none) :
      Describes g (.fail (.argument (.emptyName .host)))
  /-- The device is empty. -/
  | emptyDevice {hostName : String} (host : g.hostName = some hostName) (host_ne : hostName ≠ "")
      (device : g.deviceId = some "") : Describes g (.fail (.argument (.emptyName .device)))
  /-- There are two credentials or none, and no certificate is wanted. -/
  | count {hostName deviceId : String} (host : g.hostName = some hostName) (host_ne : hostName ≠ "")
      (device : g.deviceId = some deviceId) (device_ne : deviceId ≠ "")
      (unwanted : ¬g.WantsCertificate) (same : g.key.isSome = g.token.isSome) :
      Describes g (.fail (.argument .credentialCount))
  /-- A certificate is wanted. Key and token do not count, which is noted. -/
  | certificate {e : Endpoint} (host : g.hostName = some e.hostName)
      (device : g.deviceId = some e.deviceId) (wanted : g.WantsCertificate)
      (login : e.login = .certificate) :
      Describes g ⟨.ok e, if g.key.isSome || g.token.isSome then [.sharedAccessIgnored] else []⟩
  /-- There is a key and no token. -/
  | key {e : Endpoint} {key : String} (host : g.hostName = some e.hostName)
      (device : g.deviceId = some e.deviceId) (unwanted : ¬g.WantsCertificate)
      (given : g.key = some key) (alone : g.token = none) (login : e.login = .sharedKey key) :
      Describes g (.ok e)
  /-- There is a token and no key. -/
  | token {e : Endpoint} {token : String} (host : g.hostName = some e.hostName)
      (device : g.deviceId = some e.deviceId) (unwanted : ¬g.WantsCertificate)
      (given : g.token = some token) (alone : g.key = none) (login : e.login = .sharedToken token) :
      Describes g (.ok e)

theorem any_isTrue_iff {g : Given} : g.x509.any isTrue = true ↔ g.WantsCertificate := by
  have hsmall : ∀ d ∈ "true".toList, 97 ≤ d.toNat ∧ d.toNat ≤ 122 := by simp
  rw [Option.any_eq_true]
  unfold Given.WantsCertificate isTrue
  simp only [beq_iff_eq, Text.map_toLower_eq_iff hsmall]

/-- What is chosen for the names of an endpoint. -/
theorem choose_endpoint (e : Endpoint) (key token : Option String) (x509 : Bool) :
    choose e.hostName e.deviceId key token x509 =
      if x509 then
        ⟨.ok { e with login := .certificate },
          if key.isSome || token.isSome then [.sharedAccessIgnored] else []⟩
      else
        match key, token with
        | some k, none => .ok { e with login := .sharedKey k }
        | none, some t => .ok { e with login := .sharedToken t }
        | _, _ => .fail (.argument .credentialCount) := by
  have hmade : Endpoint.withCertificate e.hostName e.deviceId
      = .ok { e with login := .certificate } := by
    simp only [Endpoint.withCertificate, Endpoint.make, e.host_ne, e.device_ne, dite_false]
  unfold choose
  rw [hmade]
  cases x509 with
  | true => cases key.isSome || token.isSome with
    | true => rfl
    | false => rfl
  | false => cases key with
    | none => cases token with
      | none => rfl
      | some t => rfl
    | some k => cases token with
      | none => rfl
      | some t => rfl

theorem choose_emptyDevice {host : String} (host_ne : host ≠ "") (key token : Option String)
    (x509 : Bool) : choose host "" key token x509 = .fail (.argument (.emptyName .device)) := by
  have hmade : Endpoint.withCertificate host "" = .error (.emptyName .device) := by
    simp only [Endpoint.withCertificate, Endpoint.make, host_ne, dite_false, dite_true]
  unfold choose
  rw [hmade]
  rfl

variable {text host device : String} {g : Given} {o : Outcome Endpoint}

theorem parse_of_noHost (hss : segments text = .ok ss) (hg : g.LastOf ss)
    (hhost : g.hostName = none) : parse text = .fail (.argument (.missingName .host)) := by
  unfold parse
  simp only [hss, lastValue_iff.mpr hg.hostName, hhost]

theorem parse_of_noDevice (hss : segments text = .ok ss) (hg : g.LastOf ss)
    (hhost : g.hostName = some host) (hdevice : g.deviceId = none) :
    parse text = .fail (.argument (.missingName .device)) := by
  unfold parse
  simp only [hss, lastValue_iff.mpr hg.hostName, lastValue_iff.mpr hg.deviceId, hhost, hdevice]

/-- With both names given it is chosen what they describe. -/
theorem parse_of_names (hss : segments text = .ok ss) (hg : g.LastOf ss)
    (hhost : g.hostName = some host) (hdevice : g.deviceId = some device) :
    parse text = choose host device g.key g.token (g.x509.any isTrue) := by
  unfold parse
  simp only [hss, lastValue_iff.mpr hg.hostName, lastValue_iff.mpr hg.deviceId,
    lastValue_iff.mpr hg.key, lastValue_iff.mpr hg.token, lastValue_iff.mpr hg.x509, hhost, hdevice]

/-- What is chosen is what the rules describe. -/
theorem describes_choose (hhost : g.hostName = some host) (hdevice : g.deviceId = some device) :
    Describes g (choose host device g.key g.token (g.x509.any isTrue)) := by
  by_cases host_ne : host = ""
  · subst host_ne
    exact .emptyHost hhost (by simp [hdevice])
  by_cases device_ne : device = ""
  · subst device_ne
    rw [choose_emptyDevice host_ne]
    exact .emptyDevice hhost host_ne hdevice
  let e (login : Login) : Endpoint := ⟨host, device, login, host_ne, device_ne⟩
  have hchosen : choose host device g.key g.token (g.x509.any isTrue) = _ :=
    choose_endpoint (e .certificate) g.key g.token _
  rw [hchosen]
  by_cases hwanted : g.WantsCertificate
  · rw [if_pos (any_isTrue_iff.mpr hwanted)]
    exact .certificate (e := e .certificate) hhost hdevice hwanted rfl
  · rw [if_neg (mt any_isTrue_iff.mp hwanted)]
    cases hkey : g.key with
    | none =>
      cases htoken : g.token with
      | none => exact .count hhost host_ne hdevice device_ne hwanted (by rw [hkey, htoken])
      | some t => exact .token (e := e (.sharedToken t)) hhost hdevice hwanted htoken hkey rfl
    | some k =>
      cases htoken : g.token with
      | none => exact .key (e := e (.sharedKey k)) hhost hdevice hwanted hkey htoken rfl
      | some t => exact .count hhost host_ne hdevice device_ne hwanted (by simp [hkey, htoken])

/-- Whatever values are given, they are described as the rules say. -/
theorem describes_parse (hss : segments text = .ok ss) (hg : g.LastOf ss) :
    Describes g (parse text) := by
  cases hhost : g.hostName with
  | none =>
    rw [parse_of_noHost hss hg hhost]
    exact .noHost hhost
  | some host =>
    cases hdevice : g.deviceId with
    | none =>
      rw [parse_of_noDevice hss hg hhost hdevice]
      exact .noDevice (by simp [hhost]) hdevice
    | some device =>
      rw [parse_of_names hss hg hhost hdevice]
      exact describes_choose hhost hdevice

/-- An endpoint is chosen as it stands if it is the one with the login chosen. -/
theorem endpoint_eq {e : Endpoint} {login : Login} (h : e.login = login) :
    { e with login := login } = e := by
  rw [← h]

/-- No other outcome is described. -/
theorem eq_of_describes (hss : segments text = .ok ss) (hg : g.LastOf ss) (h : Describes g o) :
    parse text = o := by
  cases h with
  | noHost hhost => exact parse_of_noHost hss hg hhost
  | noDevice host hdevice =>
    obtain ⟨hostName, hhost⟩ := Option.ne_none_iff_exists'.mp host
    exact parse_of_noDevice hss hg hhost hdevice
  | emptyHost hhost device =>
    obtain ⟨deviceId, hdevice⟩ := Option.ne_none_iff_exists'.mp device
    rw [parse_of_names hss hg hhost hdevice]
    rfl
  | emptyDevice hhost host_ne hdevice =>
    rw [parse_of_names hss hg hhost hdevice]
    exact choose_emptyDevice host_ne _ _ _
  | @count hostName deviceId hhost host_ne hdevice device_ne unwanted same =>
    have hchosen := choose_endpoint ⟨hostName, deviceId, .certificate, host_ne, device_ne⟩
      g.key g.token (g.x509.any isTrue)
    rw [if_neg (mt any_isTrue_iff.mp unwanted)] at hchosen
    rw [parse_of_names hss hg hhost hdevice]
    refine hchosen.trans ?_
    cases hkey : g.key with
    | none =>
      cases htoken : g.token with
      | none => rfl
      | some t => simp [hkey, htoken] at same
    | some k =>
      cases htoken : g.token with
      | none => simp [hkey, htoken] at same
      | some t => rfl
  | certificate hhost hdevice wanted login =>
    rw [parse_of_names hss hg hhost hdevice, choose_endpoint, if_pos (any_isTrue_iff.mpr wanted),
      endpoint_eq login]
  | key hhost hdevice unwanted given alone login =>
    rw [parse_of_names hss hg hhost hdevice, choose_endpoint,
      if_neg (mt any_isTrue_iff.mp unwanted), given, alone]
    exact congrArg Outcome.ok (endpoint_eq login)
  | token hhost hdevice unwanted given alone login =>
    rw [parse_of_names hss hg hhost hdevice, choose_endpoint,
      if_neg (mt any_isTrue_iff.mp unwanted), given, alone]
    exact congrArg Outcome.ok (endpoint_eq login)

/-! ### Connection strings -/

/-- The segments of the text give these values. -/
def Gives (text : String) (g : Given) : Prop :=
  ∃ ps ss, Pieces text ps ∧ List.Forall₂ Names ps ss ∧ g.LastOf ss

/-- What a connection string describes. -/
inductive Grammar (text : String) : Outcome Endpoint → Prop
  /-- The first piece without an equals sign is at fault. -/
  | malformed {ps before after : List (List Char)} {piece : List Char} (pieces : Pieces text ps)
      (first : ps = before ++ piece :: after) (whole : ∀ p ∈ before, '=' ∈ p)
      (broken : '=' ∉ piece) :
      Grammar text (.fail (.argument (.malformedSegment (String.ofList piece))))
  /-- All pieces are segments, and their last values describe the outcome. -/
  | described {g : Given} {o : Outcome Endpoint} (given : Gives text g) (h : Describes g o) :
      Grammar text o

theorem exists_lastOf (ss : List Segment) : ∃ g : Given, g.LastOf ss :=
  ⟨⟨_, _, _, _, _⟩, last_lastValue _ ss, last_lastValue _ ss, last_lastValue _ ss,
    last_lastValue _ ss, last_lastValue _ ss⟩

theorem segments_eq_ok_iff : segments text = .ok ss ↔
    ∃ ps, Pieces text ps ∧ List.Forall₂ Names ps ss := by
  unfold segments
  rw [Except.mapM_eq_ok_iff]
  simp only [segment_eq_ok_iff]
  constructor
  · intro h
    exact ⟨_, pieces_iff.mp rfl, h⟩
  · intro h
    obtain ⟨ps, hps, h⟩ := h
    rw [pieces_iff.mpr hps]
    exact h

theorem segments_eq_error_iff {e : ArgumentFault} : segments text = .error e ↔
    ∃ ps before piece after, Pieces text ps ∧ ps = before ++ piece :: after ∧
      (∀ p ∈ before, '=' ∈ p) ∧ '=' ∉ piece ∧ e = .malformedSegment (String.ofList piece) := by
  unfold segments
  rw [Except.mapM_eq_error_iff]
  simp only [exists_segment_iff, segment_eq_error_iff]
  constructor
  · intro h
    obtain ⟨before, piece, after, hps, h⟩ := h
    exact ⟨_, before, piece, after, pieces_iff.mp rfl, hps, h⟩
  · intro h
    obtain ⟨ps, before, piece, after, hps, hsplit, h⟩ := h
    refine ⟨before, piece, after, ?_, h⟩
    rw [pieces_iff.mpr hps, hsplit]

/-- **What is read are the rules.** -/
theorem parse_eq_iff : parse text = o ↔ Grammar text o := by
  constructor
  · rintro rfl
    cases hss : segments text with
    | error e =>
      obtain ⟨ps, before, piece, after, hps, hsplit, hbefore, hpiece, rfl⟩ :=
        segments_eq_error_iff.mp hss
      unfold parse
      rw [hss]
      exact .malformed hps hsplit hbefore hpiece
    | ok ss =>
      obtain ⟨ps, hps, hnames⟩ := segments_eq_ok_iff.mp hss
      obtain ⟨g, hg⟩ := exists_lastOf ss
      exact .described ⟨ps, ss, hps, hnames, hg⟩ (describes_parse hss hg)
  · intro h
    cases h with
    | malformed pieces first whole broken =>
      have hss := segments_eq_error_iff.mpr ⟨_, _, _, _, pieces, first, whole, broken, rfl⟩
      unfold parse
      rw [hss]
    | described given h =>
      obtain ⟨ps, ss, hps, hnames, hg⟩ := given
      exact eq_of_describes (segments_eq_ok_iff.mpr ⟨ps, hps, hnames⟩) hg h

/-! ### What follows -/

/-- The values are those of an endpoint: host and device are there and not
    empty, and a certificate is wanted or exactly one credential is given. -/
structure Given.Complete (g : Given) : Prop where
  /-- There is a hub with a name. -/
  hostName : ∃ host, g.hostName = some host ∧ host ≠ ""
  /-- There is a device with a name. -/
  deviceId : ∃ device, g.deviceId = some device ∧ device ≠ ""
  /-- There is one way to log in. -/
  credential : g.WantsCertificate ∨ g.key.isSome ≠ g.token.isSome

/-- The endpoint has the values as they stand. With a certificate there is
    neither key nor token. -/
structure Given.Of (g : Given) (e : Endpoint) : Prop where
  /-- The hub is that of the endpoint. -/
  hostName : g.hostName = some e.hostName
  /-- The device is that of the endpoint. -/
  deviceId : g.deviceId = some e.deviceId
  /-- A certificate leaves neither key nor token. -/
  certificate : g.WantsCertificate →
    e.usesCertificate = true ∧ e.sharedKey? = none ∧ e.sharedToken? = none
  /-- Otherwise the key and the token are those given. -/
  credential : ¬g.WantsCertificate →
    e.usesCertificate = false ∧ e.sharedKey? = g.key ∧ e.sharedToken? = g.token

theorem of_ok {e : Endpoint} (h : Describes g o) (hok : o.result = .ok e) :
    g.Complete ∧ g.Of e := by
  have names {e : Endpoint} (host : g.hostName = some e.hostName)
      (device : g.deviceId = some e.deviceId)
      (credential : g.WantsCertificate ∨ g.key.isSome ≠ g.token.isSome) : g.Complete :=
    ⟨⟨_, host, e.host_ne⟩, ⟨_, device, e.device_ne⟩, credential⟩
  cases h with
  | noHost | noDevice | emptyHost | emptyDevice | count => cases hok
  | certificate host device wanted login =>
    obtain rfl := Except.ok.inj hok
    refine ⟨names host device (.inl wanted), host, device, ?_, ?_⟩
    · intro _
      simp [Endpoint.usesCertificate, Endpoint.sharedKey?, Endpoint.sharedToken?, login]
    · intro unwanted
      exact absurd wanted unwanted
  | key host device unwanted given alone login =>
    obtain rfl := Except.ok.inj hok
    refine ⟨names host device (.inr (by simp [given, alone])), host, device, ?_, ?_⟩
    · intro wanted
      exact absurd wanted unwanted
    · intro _
      simp [Endpoint.usesCertificate, Endpoint.sharedKey?, Endpoint.sharedToken?, login, given,
        alone]
  | token host device unwanted given alone login =>
    obtain rfl := Except.ok.inj hok
    refine ⟨names host device (.inr (by simp [given, alone])), host, device, ?_, ?_⟩
    · intro wanted
      exact absurd wanted unwanted
    · intro _
      simp [Endpoint.usesCertificate, Endpoint.sharedKey?, Endpoint.sharedToken?, login, given,
        alone]

theorem of_error {f : Failure} (h : Describes g o) (herror : o.result = .error f) :
    ¬g.Complete ∧ ∃ cause, f = .argument cause := by
  cases h with
  | certificate | key | token => cases herror
  | noHost host =>
    refine ⟨?_, _, (Except.error.inj herror).symm⟩
    intro h
    obtain ⟨⟨hostName, hhost, -⟩, -, -⟩ := h
    rw [host] at hhost
    cases hhost
  | noDevice host device =>
    refine ⟨?_, _, (Except.error.inj herror).symm⟩
    intro h
    obtain ⟨-, ⟨deviceId, hdevice, -⟩, -⟩ := h
    rw [device] at hdevice
    cases hdevice
  | emptyHost host device =>
    refine ⟨?_, _, (Except.error.inj herror).symm⟩
    intro h
    obtain ⟨⟨hostName, hhost, host_ne⟩, -, -⟩ := h
    rw [host] at hhost
    exact host_ne (Option.some.inj hhost).symm
  | emptyDevice host host_ne device =>
    refine ⟨?_, _, (Except.error.inj herror).symm⟩
    intro h
    obtain ⟨-, ⟨deviceId, hdevice, device_ne⟩, -⟩ := h
    rw [device] at hdevice
    exact device_ne (Option.some.inj hdevice).symm
  | count host host_ne device device_ne unwanted same =>
    refine ⟨?_, _, (Except.error.inj herror).symm⟩
    intro h
    obtain ⟨-, -, wanted | different⟩ := h
    · exact unwanted wanted
    · exact different same

/-- What a connection string is read as. -/
structure Read (text : String) : Prop where
  /-- The outcome is that of the rules. -/
  outcome : ∀ o, parse text = o ↔ Grammar text o
  /-- There is an endpoint exactly if all pieces are segments and their last
      values are those of an endpoint. -/
  accepted : (∃ e, (parse text).result = .ok e) ↔ ∃ g, Gives text g ∧ g.Complete
  /-- The endpoint has these values. -/
  endpoint : ∀ e g, (parse text).result = .ok e → Gives text g → g.Of e
  /-- What is at fault is the argument. -/
  refused : ∀ f, (parse text).result = .error f → ∃ cause, f = .argument cause
  /-- Nothing counts but the last values. -/
  values : ∀ other g, Gives text g → Gives other g → parse other = parse text

theorem describes_of_gives (h : Gives text g) : Describes g (parse text) := by
  obtain ⟨ps, ss, hps, hnames, hg⟩ := h
  exact describes_parse (segments_eq_ok_iff.mpr ⟨ps, hps, hnames⟩) hg

/-- Reading logs nothing but that credentials do not count. -/
theorem eq_of_mem_log_parse {entry : Entry} (h : entry ∈ (parse text).log) :
    entry = .sharedAccessIgnored := by
  have hgrammar : Grammar text (parse text) := parse_eq_iff.mp rfl
  generalize parse text = o at hgrammar h
  cases hgrammar with
  | malformed => cases h
  | described given described =>
    cases described with
    | @certificate e host device wanted login =>
      show entry = _
      simp only at h
      split at h
      · exact List.mem_singleton.mp h
      · cases h
    | _ => cases h

/-- **The grammar of connection strings**: every text is read as the rules say,
    be it an endpoint or a fault. -/
theorem parse_grammar (text : String) : Read text := by
  have hgrammar : Grammar text (parse text) := parse_eq_iff.mp rfl
  refine ⟨fun o => parse_eq_iff, ⟨?_, ?_⟩, ?_, ?_, ?_⟩
  · intro h
    obtain ⟨e, he⟩ := h
    generalize parse text = o at hgrammar he
    cases hgrammar with
    | malformed => cases he
    | described given h => exact ⟨_, given, (of_ok h he).1⟩
  · intro h
    obtain ⟨g, hgives, hcomplete⟩ := h
    cases hresult : (parse text).result with
    | error f => exact absurd hcomplete (of_error (describes_of_gives hgives) hresult).1
    | ok e => exact ⟨e, rfl⟩
  · intro e g he hgives
    exact (of_ok (describes_of_gives hgives) he).2
  · intro f hf
    generalize parse text = o at hgrammar hf
    cases hgrammar with
    | malformed => exact ⟨_, (Except.error.inj hf).symm⟩
    | described given h => exact (of_error h hf).2
  · intro other g hgives hother
    exact parse_eq_iff.mpr (.described hother (describes_of_gives hgives))

/-- A certificate that is first wanted and then not, a blank piece, white space
    around a name and equals signs in a value. -/
example : (parse "x509=true; ;HostName=h;DeviceId=d; SharedAccessKey =k==;x509=no").result.toOption
    = some ⟨"h", "d", .sharedKey "k==", by decide, by decide⟩ := by
  decide +kernel

end HubAuth.ConnectionString
