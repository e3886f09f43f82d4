import HubAuth.Proofs.Endpoint.Grammar
import Mathlib.Data.List.TakeWhile

/-! # The parts of an endpoint

  A caller sees an endpoint as two names, an optional key, an optional token and
  a flag, side by side. Whoever puts these together has to see to it that just
  one of the last three is there: a certificate takes the place of key and
  token, and otherwise there must be one of the two. All ways to an endpoint go
  through that, also a connection string that gives each of them more than once.

  * `oneForm_of_make`: what is put together has one login.
  * `parts_choose`, `exists_make`: every endpoint is put together like that.
-/

namespace HubAuth.Endpoint

/-! ### Parts -/

/-- An endpoint as it is seen. Nothing in the type says which of the parts go
    together. -/
structure Parts where
  /-- The fully qualified name of the hub. -/
  hostName : String
  /-- The id of the device. -/
  deviceId : String
  /-- The name of the hub. -/
  hubName : String
  /-- The device key. -/
  key : Option String
  /-- The token. -/
  token : Option String
  /-- The device logs in with a certificate. -/
  certificate : Bool
  deriving DecidableEq, Repr

/-- The parts of an endpoint. -/
def parts (e : Endpoint) : Parts where
  hostName := e.hostName
  deviceId := e.deviceId
  hubName := e.hubName
  key := e.sharedKey?
  token := e.sharedToken?
  certificate := e.usesCertificate

/-! ### Logins -/

variable {e : Endpoint} {s : String}

theorem sharedKey?_eq_some_iff : e.sharedKey? = some s ↔ e.login = .sharedKey s := by
  unfold sharedKey?
  cases e.login <;> simp

theorem sharedToken?_eq_some_iff : e.sharedToken? = some s ↔ e.login = .sharedToken s := by
  unfold sharedToken?
  cases e.login <;> simp

theorem usesCertificate_iff : e.usesCertificate = true ↔ e.login = .certificate := by
  unfold usesCertificate
  cases e.login <;> simp

namespace Parts

/-! ### Putting an endpoint together -/

/-- Puts an endpoint together from all that was given. -/
def make (hostName deviceId : String) (key token : Option String) (certificate : Bool) :
    Outcome Parts :=
  let hubName := String.ofList ((hostName.toList.splitOn '.').headD [])
  if hostName = "" then .fail (.argument (.emptyName .host))
  else if deviceId = "" then .fail (.argument (.emptyName .device))
  else if certificate then do
    if key.isSome || token.isSome then
      Outcome.note .sharedAccessIgnored
    return { hostName, deviceId, hubName, key := none, token := none, certificate }
  else
    match key, token with
    | some _, some _ | none, none => .fail (.argument .credentialCount)
    | key, token => return { hostName, deviceId, hubName, key, token, certificate }

/-- The parts are those of one device with one login. -/
structure OneForm (p : Parts) : Prop where
  /-- The hub has a name. -/
  host : p.hostName ≠ ""
  /-- The device has an id. -/
  device : p.deviceId ≠ ""
  /-- The name of the hub begins its full name and has no dot. -/
  hub : p.hubName.toList <+: p.hostName.toList ∧ '.' ∉ p.hubName.toList
  /-- No longer beginning is without a dot. -/
  longest : ∀ cs, cs <+: p.hostName.toList → '.' ∉ cs → cs <+: p.hubName.toList
  /-- Of key, token and certificate there is just one. -/
  form : [p.key.isSome, p.token.isSome, p.certificate].count true = 1

/-! ### The name of the hub -/

/-- The first piece of a text is what stands before the first separator. -/
theorem headD_splitOn (sep : Char) (cs : List Char) :
    (cs.splitOn sep).headD [] = cs.takeWhile (· != sep) := by
  induction cs with
  | nil => rfl
  | cons c cs ih =>
    rw [List.splitOn_cons_eq_if_modifyHead]
    by_cases hc : c = sep
    · simp [hc]
    · obtain ⟨first, rest, hsplit⟩ := List.exists_cons_of_ne_nil (List.splitOn_ne_nil sep cs)
      rw [hsplit] at ih ⊢
      simp only [List.headD_cons] at ih
      simp [hc, ih]

/-- It is the longest beginning without a separator. -/
theorem prefix_takeWhile {sep : Char} {cs ds : List Char} (h : cs <+: ds) (hcs : sep ∉ cs) :
    cs <+: ds.takeWhile (· != sep) := by
  obtain ⟨rest, rfl⟩ := h
  have hall : ∀ c ∈ cs, (c != sep) = true := by
    intro c hc
    rw [bne_iff_ne]
    rintro rfl
    exact hcs hc
  rw [List.takeWhile_append_of_pos hall]
  exact List.prefix_append _ _

theorem not_mem_takeWhile (sep : Char) (cs : List Char) : sep ∉ cs.takeWhile (· != sep) := by
  intro hmem
  have hne := List.mem_takeWhile_imp hmem
  simp at hne

/-! ### What is put together -/

variable {host device : String} {key token : Option String} {certificate : Bool} {p : Parts}

theorem oneForm_of_names (host_ne : p.hostName ≠ "") (device_ne : p.deviceId ≠ "")
    (hubName : p.hubName.toList = p.hostName.toList.takeWhile (· != '.'))
    (form : [p.key.isSome, p.token.isSome, p.certificate].count true = 1) : p.OneForm where
  host := host_ne
  device := device_ne
  hub := by
    rw [hubName]
    exact ⟨List.takeWhile_prefix _, not_mem_takeWhile '.' _⟩
  longest := by
    intro cs hprefix hcs
    rw [hubName]
    exact prefix_takeWhile hprefix hcs
  form := form

/-- With a name for the hub and an id for the device, the rest decides. -/
theorem make_of_ne (host_ne : host ≠ "") (device_ne : device ≠ "") (key token : Option String)
    (certificate : Bool) :
    make host device key token certificate =
      let hubName := String.ofList (host.toList.takeWhile (· != '.'))
      if certificate then
        ⟨.ok ⟨host, device, hubName, none, none, true⟩,
          if key.isSome || token.isSome then [.sharedAccessIgnored] else []⟩
      else
        match key, token with
        | some k, none => .ok ⟨host, device, hubName, some k, none, false⟩
        | none, some t => .ok ⟨host, device, hubName, none, some t, false⟩
        | _, _ => .fail (.argument .credentialCount) := by
  unfold make
  rw [headD_splitOn, if_neg host_ne, if_neg device_ne]
  by_cases hcertificate : certificate = true
  · subst hcertificate
    by_cases hgiven : (key.isSome || token.isSome) = true
    · simp only [hgiven]
      rfl
    · simp only [hgiven]
      rfl
  · rw [if_neg hcertificate, if_neg hcertificate]
    obtain rfl : certificate = false := by simpa using hcertificate
    cases key with
    | none => cases token <;> rfl
    | some k => cases token <;> rfl

/-- What is put together has one login. -/
theorem oneForm_of_make (h : (make host device key token certificate).result = .ok p) :
    p.OneForm := by
  by_cases host_ne : host = ""
  · simp only [make, if_pos host_ne] at h
    cases h
  by_cases device_ne : device = ""
  · simp only [make, if_neg host_ne, if_pos device_ne] at h
    cases h
  rw [make_of_ne host_ne device_ne] at h
  by_cases hcertificate : certificate = true
  · rw [if_pos hcertificate] at h
    obtain rfl := Except.ok.inj h
    exact oneForm_of_names host_ne device_ne String.toList_ofList rfl
  · rw [if_neg hcertificate] at h
    -- One of key and token is there, or nothing is put together.
    split at h
    · obtain rfl := Except.ok.inj h
      exact oneForm_of_names host_ne device_ne String.toList_ofList rfl
    · obtain rfl := Except.ok.inj h
      exact oneForm_of_names host_ne device_ne String.toList_ofList rfl
    · cases h

/-! ### Where endpoints come from -/

/-- The parser puts an endpoint together from all values that it has found. -/
theorem parts_choose (host device : String) (key token : Option String) (certificate : Bool) :
    (ConnectionString.choose host device key token certificate >>= fun e => pure e.parts)
      = make host device key token certificate := by
  by_cases host_ne : host = ""
  · subst host_ne
    rfl
  by_cases device_ne : device = ""
  · subst device_ne
    rw [ConnectionString.choose_emptyDevice host_ne]
    simp only [make, if_neg host_ne, if_pos]
    rfl
  have hchosen := ConnectionString.choose_endpoint ⟨host, device, .certificate, host_ne, device_ne⟩
    key token certificate
  rw [hchosen, make_of_ne host_ne device_ne]
  by_cases hcertificate : certificate = true
  · rw [if_pos hcertificate, if_pos hcertificate]
    simp only [Outcome.pure_eq, Outcome.ok_bind, List.append_nil]
    rfl
  · rw [if_neg hcertificate, if_neg hcertificate]
    cases key with
    | none => cases token <;> rfl
    | some k => cases token <;> rfl

end Parts

/-- An endpoint as a caller can have one. -/
inductive Obtainable : Endpoint → Prop
  /-- For a device with a key. -/
  | sharedKey {host device key : String} {e : Endpoint}
      (made : withSharedKey host device key = .ok e) : Obtainable e
  /-- For a device with a token. -/
  | sharedToken {host device token : String} {e : Endpoint}
      (made : withSharedToken host device token = .ok e) : Obtainable e
  /-- For a device with a certificate. -/
  | certificate {host device : String} {e : Endpoint}
      (made : withCertificate host device = .ok e) : Obtainable e
  /-- Read from a connection string. -/
  | parsed {s : String} {e : Endpoint} (read : (ConnectionString.parse s).result = .ok e) :
      Obtainable e

/-- An endpoint that is made of its parts is put together from them. -/
theorem parts_make {host device : String} {login : Login}
    (h : make host device login = .ok e) :
    Parts.make host device e.sharedKey? e.sharedToken? e.usesCertificate = .ok e.parts := by
  unfold make at h
  split at h
  · cases h
  split at h
  · cases h
  · next host_ne device_ne =>
    obtain rfl := Except.ok.inj h
    rw [Parts.make_of_ne host_ne device_ne]
    cases login <;> rfl

/-- So is one that is read. -/
theorem exists_make_of_parse (h : (ConnectionString.parse s).result = .ok e) :
    ∃ host device key token certificate,
      (Parts.make host device key token certificate).result = .ok e.parts := by
  cases hss : ConnectionString.segments s with
  | error cause =>
    rw [ConnectionString.parse, hss] at h
    cases h
  | ok ss =>
    -- An endpoint is read only if there is a last host and a last device.
    obtain ⟨g, hg⟩ := ConnectionString.exists_lastOf ss
    cases hhost : g.hostName with
    | none =>
      rw [ConnectionString.parse_of_noHost hss hg hhost] at h
      cases h
    | some host =>
      cases hdevice : g.deviceId with
      | none =>
        rw [ConnectionString.parse_of_noDevice hss hg hhost hdevice] at h
        cases h
      | some device =>
        rw [ConnectionString.parse_of_names hss hg hhost hdevice] at h
        refine ⟨host, device, g.key, g.token, g.x509.any ConnectionString.isTrue, ?_⟩
        rw [← Parts.parts_choose]
        exact Outcome.bind_result_ok.mpr ⟨e, h, rfl⟩

/-- Every endpoint a caller can have is put together from something. -/
theorem exists_make (h : e.Obtainable) :
    ∃ host device key token certificate,
      (Parts.make host device key token certificate).result = .ok e.parts := by
  cases h with
  | sharedKey made => exact ⟨_, _, _, _, _, congrArg Outcome.result (parts_make made)⟩
  | sharedToken made => exact ⟨_, _, _, _, _, congrArg Outcome.result (parts_make made)⟩
  | certificate made => exact ⟨_, _, _, _, _, congrArg Outcome.result (parts_make made)⟩
  | parsed read => exact exists_make_of_parse read

end HubAuth.Endpoint
