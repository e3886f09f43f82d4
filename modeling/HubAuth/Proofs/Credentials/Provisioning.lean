import HubAuth.Proofs.Base64.RoundTrip
import HubAuth.Proofs.Credentials.Run
import HubAuth.Proofs.Endpoint.ConnectionString

/-! # Credentials from connection strings

  A token or a key is handed to a device in a connection string. Tokens are
  written in form encoding, and keys in base64 with padding; neither writes a
  semicolon, and signs of equality do no harm in a value. So what the device
  logs in with is what was written, for every resource, key and expiry.

  * `provisioned_token`, `provisioned_key`: credentials from a token and from a key.
  * `connection_string_provisions`: both, with what is handed out later.
-/

namespace HubAuth.Credentials

/-! ### What is written and what is built -/

/-- Credentials that were built from a connection string, for an endpoint that
    can also be made directly. -/
structure Provisioned (s : String) (made : Except ArgumentFault Endpoint) (now : Instant)
    (cfg : Config) (c : Credentials) : Prop where
  /-- The connection string is read without a report. -/
  parsed : ConnectionString.parse s = .ok c.endpoint
  /-- The endpoint is the one that is made of its parts. -/
  made : made = .ok c.endpoint
  /-- The credentials are built for it. -/
  built : (withToken now c.endpoint cfg).result = .ok c

variable {host device : String} {now : Instant} {cfg : Config} {c : Credentials} {i : Issuer}
  {tls : TlsContext}

/-- The endpoint in a connection string has credentials if it has an issuer. -/
theorem exists_provisioned {name value : String} {login : Login}
    (hlogin : ConnectionString.Credential name value login) (host_ne : host ≠ "")
    (device_ne : device ≠ "") (hhost : ';' ∉ host.toList) (hdevice : ';' ∉ device.toList)
    (hvalue : ';' ∉ value.toList)
    (hi : (issuerFor now { hostName := host, deviceId := device, login, host_ne, device_ne } cfg).result
      = .ok i) :
    ∃ c tls, c.mode = .token i tls ∧
      c.endpoint = { hostName := host, deviceId := device, login, host_ne, device_ne } ∧
      Provisioned (ConnectionString.withCredential host device name value)
        (Endpoint.make host device login) now cfg c := by
  let e : Endpoint := { hostName := host, deviceId := device, login, host_ne, device_ne }
  have hparsed : ConnectionString.parse (ConnectionString.withCredential host device name value) = .ok e :=
    ConnectionString.parse_withCredential hlogin host_ne device_ne hhost hdevice hvalue
  have hmade : Endpoint.make host device login = .ok e := by
    simp only [Endpoint.make, host_ne, device_ne, dite_false]
    rfl
  obtain ⟨tls, -, hc⟩ := exists_withToken hi
  let c : Credentials := { endpoint := e, config := cfg, mode := .token i tls }
  exact ⟨c, tls, rfl, rfl, hparsed, hmade, hc⟩

/-! ### A token that is carried -/

/-- The history replaces no token. -/
def Undisturbed (history : List (World × Request)) : Prop :=
  ∀ wr ∈ history, ∀ text, wr.2 ≠ .replaceToken text

/-- Without a key, and while no token is replaced, the current token stays. -/
theorem current_of_undisturbed (hmode : c.mode = .token i tls) (hkeyless : i.deviceKey = none)
    {history : List (World × Request)} (hquiet : Undisturbed history) :
    ∃ j, (c.after history).mode = .token j tls ∧ j.deviceKey = none ∧ j.current = i.current := by
  -- A renewal would need a key, and a replacement would be in the history.
  have hkept : ∀ ev ∈ c.run history, ¬ev.Changes := by
    intro ev hev hchanges
    obtain ⟨before, rest, hrun⟩ := List.append_of_mem hev
    obtain ⟨j, k, l, hcourse, hturn, -, -⟩ := issuer_at hmode hrun
    rcases hchanges with hrenews | ⟨text, hrequest, -⟩
    · obtain ⟨key, hkey, -⟩ := hturn.renewed hrenews
      obtain ⟨-, hsame, -⟩ := hcourse.frame
      rw [hsame, hkeyless] at hkey
      cases hkey
    · obtain ⟨first, w, r, later, rfl, -, rfl⟩ := run_split_cons hrun
      exact hquiet (w, r) (by simp) text hrequest
  obtain ⟨j, hj, hcourse⟩ := issuer_of_run hmode history
  obtain ⟨-, hsame, -⟩ := hcourse.frame
  exact ⟨j, hj, hsame.trans hkeyless, hcourse.kept hkept⟩

/-- The credentials carry a token that they cannot renew. -/
structure Carries (c : Credentials) (t : Token) : Prop where
  /-- There is no key. -/
  keyless : c.sharedKey? = none
  /-- Until another token takes its place, the token is handed out as it was
      written, expired or not. -/
  token : ∀ history, Undisturbed history → ∀ now,
    ((c.after history).token now).value = some t.text
  /-- It needs to be renewed from its expiry on. -/
  needsRenewal : ∀ history, Undisturbed history → ∀ now,
    ((c.after history).needsRenewal now).value = true ↔ t.expiry ≤ now

theorem carries_of_keyless (hmode : c.mode = .token i tls) (hkeyless : i.deviceKey = none) :
    Carries c i.current where
  keyless := by
    have hissuer : c.issuer? = some i := by simp only [issuer?, hmode]
    rw [sharedKey?, hissuer, Option.bind_some, hkeyless]
    rfl
  token := by
    intro history hquiet now
    obtain ⟨j, hj, hkey, hcurrent⟩ := current_of_undisturbed hmode hkeyless hquiet
    rw [token_of_issuer hj, Issuer.token_of_keyless hkey, ← hcurrent]
    rfl
  needsRenewal := by
    intro history hquiet now
    obtain ⟨j, hj, hkey, hcurrent⟩ := current_of_undisturbed hmode hkeyless hquiet
    rw [needsRenewal_of_issuer hj]
    show (j.needsRenewal now).value = true ↔ _
    rw [Issuer.needsRenewal_value, Issuer.isStuck_iff, hcurrent]
    simp [hkey]

/-- A signed token survives the way through a connection string. -/
theorem provisioned_token (host_ne : host ≠ "") (device_ne : device ≠ "")
    (hhost : ';' ∉ host.toList) (hdevice : ';' ∉ device.toList) (uri : String) (key : DeviceKey)
    (expiry : Instant) (cfg : Config) (now : Instant) :
    ∃ c, Provisioned
        (ConnectionString.withCredential host device "SharedAccessSignature"
          (Token.sign uri key expiry).text)
        (Endpoint.withSharedToken host device (Token.sign uri key expiry).text) now cfg c ∧
      Carries c (Token.sign uri key expiry) := by
  have hvalue : ';' ∉ (Token.sign uri key expiry).text.toList := by
    show ';' ∉ (String.ofList _).toList
    rw [String.toList_ofList]
    exact Token.semicolon_not_mem_write _ _ _
  have hparse := Token.parse_sign uri key expiry
  generalize Token.sign uri key expiry = t at hvalue hparse ⊢
  have hi : (issuerFor now ⟨host, device, .sharedToken t.text, host_ne, device_ne⟩ cfg).result
      = .ok (.ofToken t cfg.tokenValidity) :=
    issuerFor_ok.mpr (.inr ⟨_, _, rfl, hparse, rfl⟩)
  obtain ⟨c, tls, hmode, -, hc⟩ :=
    exists_provisioned (.token t.text) host_ne device_ne hhost hdevice hvalue hi
  exact ⟨c, hc, carries_of_keyless hmode rfl⟩

/-! ### A key that signs -/

/-- The expiry of the first token: the validity later, up to the last point of
    time. No more seconds are added than a signed 64-bit word holds, which makes
    a difference only before the epoch. -/
theorem first_expiry (now : Instant) (cfg : Config)
    (h : 0 ≤ now.seconds ∨ cfg.tokenValiditySecs ≤ 9223372036854775807) :
    (now.add cfg.tokenValidity).seconds
      = min 9223372036854775807 (now.seconds + cfg.tokenValiditySecs) := by
  rw [Instant.add_seconds]
  show min _ (now.seconds + ((min cfg.tokenValiditySecs 9223372036854775807 : Nat) : Int)) = _
  omega

/-- The credentials sign with a key, and have signed a first token. -/
structure Signs (c : Credentials) (now : Instant) (cfg : Config) (key : DeviceKey) : Prop where
  /-- The key is shown as it was written. -/
  sharedKey : c.sharedKey? = some key.encoded
  /-- The first token is for the device at its hub. -/
  first : ∃ i, c.issuer? = some i ∧ i.deviceKey = some key ∧
    i.current = Token.sign (deviceResource c.endpoint.hostName c.endpoint.deviceId) key
      (now.add cfg.tokenValidity)
  /-- It is good for the validity. -/
  expiry : 0 ≤ now.seconds ∨ cfg.tokenValiditySecs ≤ 9223372036854775807 →
    (now.add cfg.tokenValidity).seconds
      = min 9223372036854775807 (now.seconds + cfg.tokenValiditySecs)
  /-- While it is good, it is handed out. -/
  token : ∀ later < now.add cfg.tokenValidity,
    (c.token later).value = some (Token.sign
      (deviceResource c.endpoint.hostName c.endpoint.deviceId) key (now.add cfg.tokenValidity)).text

theorem signs_of_key {key : DeviceKey}
    (hmode : c.mode = .token
      (.ofKey now c.endpoint.resourceUri key cfg.tokenValidity cfg.renewalSkew) tls) :
    Signs c now cfg key where
  sharedKey := by
    simp only [sharedKey?, issuer?, hmode]
    rfl
  first := by
    simp only [issuer?, hmode]
    exact ⟨_, rfl, rfl, rfl⟩
  expiry := first_expiry now cfg
  token := by
    intro later hlater
    rw [token_of_issuer hmode, Issuer.token_of_live hlater]
    rfl

/-- A key that is written in base64 survives the way through a connection
    string, and nothing about it is reported. -/
theorem provisioned_key (host_ne : host ≠ "") (device_ne : device ≠ "")
    (hhost : ';' ∉ host.toList) (hdevice : ';' ∉ device.toList) {bytes : List UInt8}
    (hbytes : bytes ≠ []) (cfg : Config) (now : Instant) :
    ∃ c, Provisioned
        (ConnectionString.withCredential host device "SharedAccessKey"
          (String.ofList (Base64.encode bytes)))
        (Endpoint.withSharedKey host device (String.ofList (Base64.encode bytes))) now cfg c ∧
      Signs c now cfg ⟨String.ofList (Base64.encode bytes), bytes⟩ ∧
      ∀ entry ∈ (withToken now c.endpoint cfg).log, entry.level ≠ .warn := by
  have hvalue : ';' ∉ (String.ofList (Base64.encode bytes)).toList := by
    rw [String.toList_ofList]
    exact Base64.semicolon_not_mem_encode bytes
  have hread := DeviceKey.ofBase64_encode hbytes
  generalize String.ofList (Base64.encode bytes) = text at hvalue hread ⊢
  let e : Endpoint := ⟨host, device, .sharedKey text, host_ne, device_ne⟩
  have hi : (issuerFor now e cfg).result
      = .ok (.ofKey now e.resourceUri ⟨text, bytes⟩ cfg.tokenValidity cfg.renewalSkew) :=
    issuerFor_ok.mpr (.inl ⟨text, _, rfl, by rw [hread]; rfl, rfl⟩)
  have hlog : (issuerFor now e cfg).log = [] := by
    show (DeviceKey.ofBase64 text >>= _).log = []
    rw [hread]
    rfl
  obtain ⟨c, tls, hmode, hendpoint, hc⟩ :=
    exists_provisioned (.key text) host_ne device_ne hhost hdevice hvalue hi
  have hsigns : Signs c now cfg ⟨text, bytes⟩ := by
    apply signs_of_key
    rw [hendpoint]
    exact hmode
  refine ⟨c, hc, hsigns, ?_⟩
  intro entry hentry
  rw [hendpoint, log_withToken hi, hlog, List.nil_append] at hentry
  simp only [List.mem_cons, List.not_mem_nil, or_false] at hentry
  rcases hentry with rfl | rfl
  · simp [Entry.level]
  · simp [Entry.level]

/-! ### Both -/

/-- **Connection strings provision devices**: for every host and device that a
    connection string can name, a token that was signed for any resource, with
    any key and until any expiry, is what the device then sends, and needs to be
    renewed exactly from its expiry on; and a key of any bytes is what the device
    then signs with, from a first token for itself on. -/
theorem connection_string_provisions (host_ne : host ≠ "") (device_ne : device ≠ "")
    (hhost : ';' ∉ host.toList) (hdevice : ';' ∉ device.toList) :
    (∀ (uri : String) (key : DeviceKey) (expiry : Instant) (cfg : Config) (now : Instant),
      ∃ c, Provisioned
          (ConnectionString.withCredential host device "SharedAccessSignature"
            (Token.sign uri key expiry).text)
          (Endpoint.withSharedToken host device (Token.sign uri key expiry).text) now cfg c ∧
        Carries c (Token.sign uri key expiry)) ∧
    (∀ bytes : List UInt8, bytes ≠ [] → ∀ (cfg : Config) (now : Instant),
      ∃ c, Provisioned
          (ConnectionString.withCredential host device "SharedAccessKey"
            (String.ofList (Base64.encode bytes)))
          (Endpoint.withSharedKey host device (String.ofList (Base64.encode bytes))) now cfg c ∧
        Signs c now cfg ⟨String.ofList (Base64.encode bytes), bytes⟩ ∧
        ∀ entry ∈ (withToken now c.endpoint cfg).log, entry.level ≠ .warn) := by
  constructor
  · intro uri key expiry cfg now
    exact provisioned_token host_ne device_ne hhost hdevice uri key expiry cfg now
  · intro bytes hbytes cfg now
    exact provisioned_key host_ne device_ne hhost hdevice hbytes cfg now

/-- A token for a resource with separators, expired long ago, and a key of one
    byte, whose encoding is half padding. -/
theorem connection_string_provisions_separators :
    let token := Token.sign "a;b=c&d" ⟨"QUJD", [65, 66, 67]⟩ ⟨-1, by decide, by decide⟩
    let text := String.ofList (Base64.encode [255])
    let now : Instant := ⟨9, by decide, by decide⟩
    "h=" ≠ "" ∧ "d" ≠ "" ∧ ';' ∉ "h=".toList ∧ ';' ∉ "d".toList ∧
      (∃ c, Provisioned
          (ConnectionString.withCredential "h=" "d" "SharedAccessSignature" token.text)
          (Endpoint.withSharedToken "h=" "d" token.text) now {} c ∧ Carries c token) ∧
      ∃ c, Provisioned (ConnectionString.withCredential "h=" "d" "SharedAccessKey" text)
          (Endpoint.withSharedKey "h=" "d" text) now {} c ∧
        Signs c now {} ⟨text, [255]⟩ ∧
        ∀ entry ∈ (withToken now c.endpoint {}).log, entry.level ≠ .warn := by
  intro token text now
  have host_ne : "h=" ≠ "" := by decide
  have device_ne : "d" ≠ "" := by decide
  have hhost : ';' ∉ "h=".toList := by decide
  have hdevice : ';' ∉ "d".toList := by decide
  obtain ⟨htoken, hkey⟩ := connection_string_provisions host_ne device_ne hhost hdevice
  exact ⟨host_ne, device_ne, hhost, hdevice, htoken _ _ _ {} now,
    hkey [255] (by decide) {} now⟩

end HubAuth.Credentials
