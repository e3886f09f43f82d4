import HubAuth.Mqtt.Session
import HubAuth.Proofs.Credentials.Mode

/-! # Packets are read as they were written

  Every part of a CONNECT packet stands after its length, counted in bytes and
  not in characters, and the whole stands after its own length, which takes one,
  two or three bytes. So a broker that reads a packet by the rules of the
  protocol gets back what the client put into it, whatever arrives after it.

  * `readLength_lengthBytes`: a length is read back.
  * `encode_eq_some_iff`: which packets can be written, and how.
  * `read_encode`: what is written is read.
  * `packet_carries_credentials`: the packets of credentials.
-/

namespace HubAuth.Mqtt

/-! ### Lengths -/

/-- A length is read back if it has enough groups. -/
theorem readLength_lengthBytes {groups n : Nat} (h : n < Nat.pow 128 groups) (hpos : 0 < groups)
    (rest : List UInt8) : readLength groups (lengthBytes n ++ rest) = some (n, rest) := by
  induction groups generalizing n with
  | zero => omega
  | succ groups ih =>
    unfold lengthBytes
    split
    · next hsmall =>
      have hbyte : (UInt8.ofNat n).toNat = n := Text.Utf8.toNat_byte (by omega)
      have hlast : UInt8.ofNat n < 128 := by
        rw [UInt8.lt_iff_toNat_lt, hbyte]
        exact hsmall
      rw [List.singleton_append, readLength, if_pos hlast, hbyte]
    · next hlarge =>
      have hbyte : (UInt8.ofNat (128 + n % 128)).toNat = 128 + n % 128 :=
        Text.Utf8.toNat_byte (by omega)
      have hmore : ¬UInt8.ofNat (128 + n % 128) < 128 := by
        rw [UInt8.lt_iff_toNat_lt, hbyte]
        show ¬128 + n % 128 < 128
        omega
      have hhigh : n / 128 < Nat.pow 128 groups := by
        rw [Nat.div_lt_iff_lt_mul (by decide)]
        exact h
      have hgroups : 0 < groups := by
        apply Nat.pos_of_ne_zero
        intro hzero
        subst hzero
        have hsmall : n < 128 := h
        omega
      have hvalue : 128 + n % 128 - 128 + 128 * (n / 128) = n := by omega
      rw [List.cons_append, readLength, if_neg hmore, ih hhigh hgroups, hbyte, Option.map_some,
        hvalue]

/-! ### Texts -/

theorem length_encode (s : String) : (Text.Utf8.encode s.toList).length = s.utf8ByteSize := by
  rw [Text.Utf8.encode_toList]
  rfl

/-- The written form of a text. -/
def block (s : String) : List UInt8 :=
  Binary.bytesOf 2 s.utf8ByteSize ++ Text.Utf8.encode s.toList

theorem textBytes_eq_some_iff {s : String} {bytes : List UInt8} :
    textBytes s = some bytes ↔ s.utf8ByteSize ≤ 65535 ∧ bytes = block s := by
  unfold textBytes
  simp only [length_encode, maxText]
  split
  · next h => simp [h, block, eq_comm]
  · next h => simp [h]

/-- The bytes of a text are told apart from what follows them. -/
theorem readBlock_block {s : String} (h : s.utf8ByteSize ≤ 65535) (rest : List UInt8) :
    readBlock (block s ++ rest) = some (Text.Utf8.encode s.toList, rest) := by
  have hnumber : Binary.natOf (Binary.bytesOf 2 s.utf8ByteSize) = s.utf8ByteSize :=
    Binary.natOf_bytesOf (Nat.lt_of_le_of_lt h (by decide))
  unfold readBlock block
  rw [List.append_assoc, Binary.split?_append (Binary.length_bytesOf 2 _)]
  simp only [Option.bind_eq_bind, Option.bind_some, hnumber]
  exact Binary.split?_append (length_encode s) rest

/-- A text is read back. -/
theorem readText_block {s : String} (h : s.utf8ByteSize ≤ 65535) (rest : List UInt8) :
    readText (block s ++ rest) = some (s, rest) := by
  unfold readText
  rw [readBlock_block h]
  simp only [Option.bind_eq_bind, Option.bind_some, Text.Utf8.decode?_encode, String.ofList_toList]
  rfl

theorem readIf_true {α : Type} {read : List UInt8 → Option (α × List UInt8)} {a : α}
    {bytes rest : List UInt8} (h : read bytes = some (a, rest)) :
    readIf true read bytes = some (some a, rest) := by
  simp [readIf, h]

/-! ### Packets -/

namespace Connect

/-- No text of the packet is too long. -/
structure Fits (c : Connect) : Prop where
  /-- The client id. -/
  clientId : c.clientId.utf8ByteSize ≤ 65535
  /-- The user name. -/
  userName : c.userName.utf8ByteSize ≤ 65535
  /-- The password. -/
  password : ∀ text, c.password = some text → text.utf8ByteSize ≤ 65535

/-- The written form of a password that may be missing. -/
def passwordBlock (c : Connect) : List UInt8 :=
  match c.password with
  | none => []
  | some text => block text

/-- What follows the length. -/
def body (c : Connect) : List UInt8 :=
  protocol ++ flags c :: Binary.bytesOf 2 c.keepAlive.toNat
    ++ (block c.clientId ++ block c.userName ++ passwordBlock c)

variable {c : Connect} {bytes : List UInt8}

/-- Which texts can be written, and how. -/
theorem texts_eq_some_iff {written : List UInt8} :
    c.texts = some written ↔
      c.Fits ∧ written = block c.clientId ++ block c.userName ++ passwordBlock c := by
  unfold texts passwordBlock
  cases hpassword : c.password with
  | none =>
    simp only [Option.bind_eq_bind, Option.bind_eq_some_iff, textBytes_eq_some_iff,
      Option.bind_some, Option.pure_def, Option.some.injEq]
    constructor
    · intro h
      obtain ⟨a, ⟨hclient, rfl⟩, b, ⟨huser, rfl⟩, rfl⟩ := h
      exact ⟨⟨hclient, huser, by simp [hpassword]⟩, rfl⟩
    · intro h
      obtain ⟨hfits, rfl⟩ := h
      exact ⟨_, ⟨hfits.clientId, rfl⟩, _, ⟨hfits.userName, rfl⟩, rfl⟩
  | some text =>
    simp only [Option.bind_eq_bind, Option.bind_eq_some_iff, textBytes_eq_some_iff,
      Option.pure_def, Option.some.injEq]
    constructor
    · intro h
      obtain ⟨a, ⟨hclient, rfl⟩, b, ⟨huser, rfl⟩, w, ⟨htext, rfl⟩, rfl⟩ := h
      exact ⟨⟨hclient, huser, by simp [hpassword, htext]⟩, rfl⟩
    · intro h
      obtain ⟨hfits, rfl⟩ := h
      exact ⟨_, ⟨hfits.clientId, rfl⟩, _, ⟨hfits.userName, rfl⟩, _,
        ⟨hfits.password text hpassword, rfl⟩, rfl⟩

/-- Which packets can be written, and how. -/
theorem encode_eq_some_iff :
    c.encode = some bytes ↔ c.Fits ∧ bytes = packetType :: lengthBytes c.body.length ++ c.body := by
  unfold encode
  simp only [Option.bind_eq_bind, Option.bind_eq_some_iff, texts_eq_some_iff, Option.pure_def,
    Option.some.injEq]
  constructor
  · intro h
    obtain ⟨w, ⟨hfits, rfl⟩, rfl⟩ := h
    exact ⟨hfits, rfl⟩
  · intro h
    obtain ⟨hfits, rfl⟩ := h
    exact ⟨_, ⟨hfits, rfl⟩, rfl⟩

/-- The length of a packet that can be written takes three bytes at most. -/
theorem length_body_lt (h : c.Fits) : c.body.length < 2097152 := by
  have hblock : ∀ s : String, (block s).length = 2 + s.utf8ByteSize := by
    intro s
    rw [block, List.length_append, Binary.length_bytesOf, length_encode]
  have hpassword : (passwordBlock c).length ≤ 65537 := by
    unfold passwordBlock
    split
    · decide
    · next text htext =>
      have := h.password text htext
      rw [hblock]
      omega
  have hclient := h.clientId
  have huser := h.userName
  simp only [body, protocol, List.length_append, List.length_cons, List.length_nil,
    Binary.length_bytesOf, hblock]
  omega

/-! ### What is read -/

/-- There is a user name, perhaps a password and no will, and an earlier session
    is taken up. -/
def loginFlags (password : Bool) : Flags where
  userName := true
  password := password
  willRetain := false
  willQuality := 0
  will := false
  cleanSession := false

/-- What a packet says to a broker. -/
def session (c : Connect) : Session where
  flags := loginFlags c.password.isSome
  keepAlive := c.keepAlive.toNat
  clientId := c.clientId
  will := none
  userName := some c.userName
  password := c.password.map fun text => Text.Utf8.encode text.toList

theorem ofByte?_flags (c : Connect) : Flags.ofByte? c.flags = some c.session.flags := by
  have hbyte : ∀ present : Bool, Flags.ofByte? (if present then 0xC0 else 0x80)
      = some (loginFlags present) := by
    decide
  exact hbyte c.password.isSome

theorem readProtocol_protocol (rest : List UInt8) :
    Session.readProtocol (protocol ++ rest) = some ((), rest) := by
  have hname : protocol ++ rest = block "MQTT" ++ 4 :: rest := by
    have hwritten : protocol = block "MQTT" ++ [4] := by decide +kernel
    rw [hwritten, List.append_assoc, List.singleton_append]
  unfold Session.readProtocol
  rw [hname, readText_block (by decide)]
  rfl

theorem readPassword (h : c.Fits) :
    readIf c.password.isSome readBlock (passwordBlock c)
      = some (c.password.map fun text => Text.Utf8.encode text.toList, []) := by
  have hfits := h.password
  unfold passwordBlock
  cases hpassword : c.password with
  | none => rfl
  | some text =>
    have hread := readBlock_block (hfits text hpassword) []
    rw [List.append_nil] at hread
    exact readIf_true hread

/-- What follows the length is read part by part. -/
theorem ofBody?_body (h : c.Fits) : Session.ofBody? c.body = some c.session := by
  have hkeepAlive : Binary.natOf (Binary.bytesOf 2 c.keepAlive.toNat) = c.keepAlive.toNat :=
    Binary.natOf_bytesOf c.keepAlive.toNat_lt
  have hwill : ∀ bytes, readIf c.session.flags.will readWill bytes = some (none, bytes) :=
    fun _ => rfl
  have huser : readIf c.session.flags.userName readText (block c.userName ++ passwordBlock c)
      = some (some c.userName, passwordBlock c) := readIf_true (readText_block h.userName _)
  have hpassword : readIf c.session.flags.password readBlock (passwordBlock c)
      = some (c.session.password, []) := readPassword h
  unfold Session.ofBody? body
  simp only [List.append_assoc, List.cons_append, readProtocol_protocol, Option.bind_eq_bind,
    Option.bind_some, readByte, ofByte?_flags, Binary.split?_append (Binary.length_bytesOf 2 _),
    readText_block h.clientId, hwill, huser, hpassword, hkeepAlive]
  rfl

/-- **What is written is read**, whatever arrives after it. -/
theorem read_encode (h : c.encode = some bytes) (rest : List UInt8) :
    Session.read (bytes ++ rest) = some (c.session, rest) := by
  obtain ⟨hfits, rfl⟩ := encode_eq_some_iff.mp h
  have hlength : c.body.length < Nat.pow 128 4 := Nat.lt_trans (length_body_lt hfits) (by decide)
  unfold Session.read
  rw [List.cons_append, List.cons_append, List.append_assoc]
  simp only [List.isPrefixOf?, beq_self_eq_true, if_true, Option.bind_eq_bind, Option.bind_some,
    readLength_lengthBytes hlength (by decide), Binary.split?_append rfl, ofBody?_body hfits]
  rfl

end Connect

/-! ### Packets of credentials -/

namespace Options

open Credentials (Built)

variable {e : Endpoint} {cfg : Config} {c : Credentials} {now : Instant} {o : Options}
  {bytes : List UInt8}

/-- The names in options are those of the endpoint. -/
theorem eq_make_of_ok (h : (ofCredentials c now).value = .ok o) :
    o = make c o.password := by
  cases hmode : c.mode with
  | certificate m tls =>
    rw [Credentials.connect_of_certificate hmode] at h
    obtain rfl := Except.ok.inj h
    rfl
  | token i tls =>
    cases hstuck : i.isStuck now with
    | true =>
      rw [Credentials.connect_of_stuck hmode hstuck] at h
      cases h
    | false =>
      rw [Credentials.connect_of_issuer hmode hstuck] at h
      obtain rfl := Except.ok.inj h
      rfl

/-- What a broker learns from the packet of credentials. -/
def sessionFor (e : Endpoint) (password : Option String) : Session where
  flags := Connect.loginFlags password.isSome
  keepAlive := 10
  clientId := e.deviceId
  will := none
  userName := some (e.hostName ++ "/" ++ e.deviceId ++ "/?api-version=2018-06-30")
  password := password.map fun text => Text.Utf8.encode text.toList

/-- The names and the password of a session are those it was made for: the
    user name is the host name between two texts that are known. -/
theorem sessionFor_inj {e' : Endpoint} {password password' : Option String}
    (h : sessionFor e password = sessionFor e' password') :
    e.hostName = e'.hostName ∧ e.deviceId = e'.deviceId ∧ password = password' := by
  have hdevice : e.deviceId = e'.deviceId := congrArg Session.clientId h
  have huser : e.hostName ++ "/" ++ e.deviceId ++ "/?api-version=2018-06-30"
      = e'.hostName ++ "/" ++ e'.deviceId ++ "/?api-version=2018-06-30" :=
    Option.some.inj (congrArg Session.userName h)
  have hpassword : (password.map fun text => Text.Utf8.encode text.toList)
      = password'.map fun text => Text.Utf8.encode text.toList := congrArg Session.password h
  refine ⟨?_, hdevice, ?_⟩
  · rw [hdevice, String.append_assoc, String.append_assoc, String.append_assoc,
      String.append_assoc] at huser
    exact String.append_left_inj _ |>.mp huser
  · apply Option.map_injective _ hpassword
    intro text text' htext
    have hdecode := congrArg Text.Utf8.decode? htext
    simp only [Text.Utf8.decode?_encode, Option.some.injEq] at hdecode
    exact String.toList_inj.mp hdecode

/-- The packet of options says what the credentials have and nothing else. -/
theorem session_packet (hendpoint : c.endpoint = e) (h : (ofCredentials c now).value = .ok o) :
    o.packet.session = sessionFor e o.password := by
  rw [eq_make_of_ok h, ← hendpoint]
  rfl

/-- What the bytes that open a session of a device carry. -/
structure Carried (e : Endpoint) (password : Option String) (bytes : List UInt8) : Prop where
  /-- After the type stands the number of the bytes that follow it. -/
  length : ∃ size body, bytes = 0x10 :: (size ++ body) ∧
    readLength 4 (size ++ body) = some (body.length, body)
  /-- All bytes are used when they are read, and what they say is the device id,
      the user name, the password if there is one, and the keep-alive interval. -/
  read : Session.read bytes = some (sessionFor e password, [])
  /-- No other credentials open a session with these bytes. -/
  unique : ∀ {e' cfg' c' history' now' o'}, Built e' cfg' c' →
    (ofCredentials (c'.after history') now').value = .ok o' → o'.packet.encode = some bytes →
    e'.hostName = e.hostName ∧ e'.deviceId = e.deviceId ∧ o'.password = password

/-- Whatever credentials bytes were written for, they are read from them. -/
theorem read_packet (built : Built e cfg c) (history : List (World × Credentials.Request))
    (h : (ofCredentials (c.after history) now).value = .ok o)
    (hencode : o.packet.encode = some bytes) :
    Session.read bytes = some (sessionFor e o.password, []) := by
  have hendpoint := (Credentials.consistent_after built history).endpoint
  have hread := Connect.read_encode hencode []
  rw [List.append_nil, session_packet hendpoint h] at hread
  exact hread

/-- **The packet carries the credentials without loss**: however credentials
    were built and whatever was asked of them since, the packet that opens a
    session with them can be written if no text is too long for its length. The
    rules of the protocol take it apart to the last byte and give back the
    device id, the user name and the password, so that equal packets are
    those of equal hosts, devices and passwords. -/
theorem packet_carries_credentials (built : Built e cfg c)
    (history : List (World × Credentials.Request))
    (h : (ofCredentials (c.after history) now).value = .ok o) (hfits : o.packet.Fits) :
    ∃ bytes, o.packet.encode = some bytes ∧ Carried e o.password bytes := by
  have hencode := Connect.encode_eq_some_iff.mpr ⟨hfits, rfl⟩
  have hread := read_packet built history h hencode
  refine ⟨_, hencode, ⟨lengthBytes o.packet.body.length, o.packet.body, rfl, ?_⟩, hread, ?_⟩
  · have hshort := Connect.length_body_lt hfits
    exact readLength_lengthBytes (Nat.lt_trans hshort (by decide)) (by decide) _
  · intro e' cfg' c' history' now' o' built' h' hencode'
    have hread' := read_packet built' history' h' hencode'
    rw [hread] at hread'
    obtain ⟨hhost, hdevice, hpassword⟩ :=
      sessionFor_inj (congrArg Prod.fst (Option.some.inj hread')).symm
    exact ⟨hhost, hdevice, hpassword⟩

/-- The packet of a device whose name and hub are not written in ASCII, with a
    token from elsewhere that was put in the place of another. -/
theorem packet_carries_credentials_foreign :
    let e : Endpoint := ⟨"höst", "дом/1", .sharedToken "SharedAccessSignature sr=h&sig=x&se=11",
      by decide, by decide⟩
    let w : World := { now := ⟨4, by decide, by decide⟩ }
    let history : List (World × Credentials.Request) :=
      [(w, .replaceToken Token.foreign.text), (w, .setUseWebsocket true)]
    ∃ c o, Built e {} c ∧ (ofCredentials (c.after history) w.now).value = .ok o ∧ o.packet.Fits ∧
      ∃ bytes, o.packet.encode = some bytes ∧ Carried e (some Token.foreign.text) bytes := by
  intro e w history
  let given : Token := ⟨"h", "x", ⟨11, by decide, by decide⟩,
    "SharedAccessSignature sr=h&sig=x&se=11"⟩
  have hgiven : Token.parse given.text = .ok given :=
    Except.toOption_eq_some_iff.mp (by decide +kernel)
  have hi : (Credentials.issuerFor w.now e {}).result = .ok (.ofToken given (.ofSecs 3600)) :=
    Credentials.issuerFor_ok.mpr (.inr ⟨_, _, rfl, hgiven, rfl⟩)
  obtain ⟨tls, hbuilt⟩ := Credentials.exists_built hi
  let c' : Credentials :=
    { endpoint := e
      config := ({} : Config).withWebsocket true
      mode := .token { Issuer.ofToken given (.ofSecs 3600) with current := .foreign } tls }
  have hvalue : (ofCredentials (Credentials.after
      { endpoint := e, config := {}, mode := .token (.ofToken given (.ofSecs 3600)) tls }
        history) w.now).value = .ok (make c' (some Token.foreign.text)) := by
    show (ofCredentials (Credentials.setUseWebsocket
      (Credentials.replaceToken _ Token.foreign.text).state true) w.now).value = _
    rw [Credentials.replaceToken_of_parse rfl Token.parse_foreign]
    show (ofCredentials c' w.now).value = _
    rw [Credentials.connect_of_issuer rfl (by decide)]
    rfl
  have hfits : Connect.Fits
      { clientId := "дом/1"
        userName := userNameFor "höst" "дом/1"
        password := some Token.foreign.text
        keepAlive := keepAliveSecs } := by
    refine ⟨by decide +kernel, by decide +kernel, ?_⟩
    intro text htext
    obtain rfl := Option.some.inj htext
    decide +kernel
  exact ⟨_, _, hbuilt, hvalue, hfits, packet_carries_credentials hbuilt history hvalue hfits⟩

end Options

end HubAuth.Mqtt
