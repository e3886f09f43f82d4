import HubAuth.Proofs.Credentials.Run

/-! # Where tokens come from

  Whatever text a device sends as its token, it can be told from the history
  where it comes from. Either it was supplied, by the endpoint or by the last
  replacement, and then it is sent as it was supplied; or it was signed with
  the endpoint's key, at the beginning or at the last renewal. What is signed
  is for the device at its hub, whatever resource a replacement was for.

  * `token_provenance`: the origin of every text that is handed out.
-/

namespace HubAuth.Credentials

/-! ### Beginnings -/

/-- Credentials with a token that have just been built, at a time. -/
inductive BuiltWithToken (now : Instant) : Endpoint → Config → Credentials → Prop
  /-- Directly. -/
  | withToken {e : Endpoint} {cfg : Config} {c : Credentials}
      (h : (withToken now e cfg).result = .ok c) : BuiltWithToken now e cfg c
  /-- By a builder that was given no certificate, or one for another endpoint. -/
  | build {b : Builder Endpoint} {files : Files.Tree} {c : Credentials}
      (h : (b.build now files).result = .ok c) (htype : c.authType = .token) :
      BuiltWithToken now b.endpoint b.config c

/-- The text of the token that credentials begin with. -/
inductive FirstText (now : Instant) (e : Endpoint) (cfg : Config) : String → Prop
  /-- The one that the endpoint carries. -/
  | carried {text : String} (h : e.login = .sharedToken text) : FirstText now e cfg text
  /-- The one that is signed with the endpoint's key. -/
  | signed {s : String} {key : DeviceKey} (h : e.login = .sharedKey s)
      (hkey : (DeviceKey.ofBase64 s).result = .ok key) :
      FirstText now e cfg
        (Token.sign (deviceResource e.hostName e.deviceId) key (now.add cfg.tokenValidity)).text

variable {now : Instant} {e : Endpoint} {cfg : Config} {c : Credentials} {i : Issuer}

theorem issuer_of_built (built : BuiltWithToken now e cfg c) :
    ∃ i tls, c.mode = .token i tls ∧ (issuerFor now e cfg).result = .ok i := by
  have hbuilt : (withToken now e cfg).result = .ok c := by
    cases built with
    | withToken h => exact h
    | @build b files c h htype =>
      unfold Builder.build at h
      split at h
      · -- With a certificate the way of login would be another one.
        obtain ⟨-, m, tls, -, rfl⟩ := withCertificate_ok.mp h
        cases htype
      · exact h
  obtain ⟨i, tls, hi, -, rfl⟩ := withToken_ok.mp hbuilt
  exact ⟨i, tls, rfl, hi⟩

theorem first_text (hi : (issuerFor now e cfg).result = .ok i) :
    FirstText now e cfg i.current.text := by
  rcases issuerFor_ok.mp hi with ⟨s, key, hlogin, hkey, rfl⟩ | ⟨s, t, hlogin, ht, rfl⟩
  · exact .signed hlogin hkey
  · have htext : t.text = s := Token.text_of_parse ht
    show FirstText now e cfg t.text
    rw [htext]
    exact .carried hlogin

/-- Without a key the first token is the one that the endpoint carries. -/
theorem carried_of_keyless {text : String} (h : FirstText now e cfg text)
    (hkeyless : e.sharedKey? = none) : e.login = .sharedToken text := by
  cases h with
  | carried hlogin => exact hlogin
  | signed hlogin => simp [Endpoint.sharedKey?, hlogin] at hkeyless

/-- Only the endpoint's key signs tokens, and only for the device at its hub. -/
theorem issuer_with_key (hi : (issuerFor now e cfg).result = .ok i) {key : DeviceKey}
    (hkey : i.deviceKey = some key) :
    ∃ s, e.login = .sharedKey s ∧ (DeviceKey.ofBase64 s).result = .ok key ∧
      i.resourceUri = deviceResource e.hostName e.deviceId ∧
      i.validity = cfg.tokenValidity ∧ i.renewalSkew = .ofSecs (max cfg.renewalSkewSecs 1) := by
  rcases issuerFor_ok.mp hi with ⟨s, key', hlogin, hread, rfl⟩ | ⟨s, t, -, -, rfl⟩
  · obtain rfl : key' = key := Option.some.inj hkey
    refine ⟨s, hlogin, hread, rfl, rfl, ?_⟩
    simp only [Issuer.ofKey]
    exact Issuer.max_renewalSkew cfg
  · cases hkey

/-! ### The last change -/

/-- Where the text comes from that the last of some events hands out. -/
structure Provenance (now : Instant) (e : Endpoint) (cfg : Config) (events : List Event)
    (text : String) : Prop where
  /-- Without a renewal and a replacement it is the one from the beginning. -/
  first : (∀ ev ∈ events, ¬ev.Changes) → FirstText now e cfg text
  /-- After the last replacement it is the one that was given then. -/
  replaced : ∀ before ev rest given, events = before ++ ev :: rest → ev.Installs given →
    (∀ ev' ∈ rest, ¬ev'.Changes) → text = given
  /-- After the last renewal it is the one that was signed then, with the
      endpoint's key and the validity that was in force. -/
  renewed : ∀ before ev rest, events = before ++ ev :: rest → ev.Renews →
    (∀ ev' ∈ rest, ¬ev'.Changes) →
    ∃ s key, e.login = .sharedKey s ∧ (DeviceKey.ofBase64 s).result = .ok key ∧
      text = (Token.sign (deviceResource e.hostName e.deviceId) key
        ((ev.world.now.add (Step.lastAsked Request.validity? cfg.tokenValidity before)).add
          (.ofSecs (max cfg.renewalSkewSecs 1)))).text
  /-- Without a key it is one that was supplied. -/
  keyless : e.sharedKey? = none →
    e.login = .sharedToken text ∨ ∃ ev ∈ events, ev.Installs text

variable {tls : TlsContext} {history : List (World × Request)} {text : String}

/-- What an event of a run hands out is the text of the current token after
    the run up to that event. -/
theorem current_of_handed (hmode : c.mode = .token i tls) {before rest : List Event} {ev : Event}
    (hrun : c.run history = before ++ ev :: rest) (handed : ev.HandsOut text) :
    ∃ first j, c.run first = before ++ [ev] ∧ (c.after first).mode = .token j tls ∧
      text = j.current.text := by
  obtain ⟨first, w, r, later, rfl, rfl, rfl⟩ := run_split_cons hrun
  obtain ⟨i', hi', -⟩ := issuer_of_run hmode first
  obtain ⟨j, hj, hturn⟩ := turn_serve hi' w r
  refine ⟨first ++ [(w, r)], j, ?_, ?_, hturn.handed text handed⟩
  · rw [run_append]
    rfl
  · rw [after_append]
    exact hj

variable {j : Issuer} {before rest : List Event} {ev : Event}

/-- After the last replacement the current token is the one given then. -/
theorem text_of_installed (hmode : c.mode = .token i tls)
    (hrun : c.run history = before ++ ev :: rest) (hafter : (c.after history).mode = .token j tls)
    {given : String} (hev : ev.Installs given) (hrest : ∀ ev' ∈ rest, ¬ev'.Changes) :
    j.current.text = given := by
  obtain ⟨k, l, m, -, hturn, hlater, hm⟩ := issuer_at hmode hrun
  obtain rfl : m = j := issuer_unique hm hafter
  rw [hlater.kept hrest]
  exact Token.text_of_parse (hturn.installed given hev)

/-- After the last renewal the current token is the one signed then. -/
theorem text_of_renewed (hmode : c.mode = .token i tls)
    (hi : (issuerFor now e cfg).result = .ok i) (hrun : c.run history = before ++ ev :: rest)
    (hafter : (c.after history).mode = .token j tls) (hev : ev.Renews)
    (hrest : ∀ ev' ∈ rest, ¬ev'.Changes) :
    ∃ s key, e.login = .sharedKey s ∧ (DeviceKey.ofBase64 s).result = .ok key ∧
      j.current.text = (Token.sign (deviceResource e.hostName e.deviceId) key
        ((ev.world.now.add (Step.lastAsked Request.validity? cfg.tokenValidity before)).add
          (.ofSecs (max cfg.renewalSkewSecs 1)))).text := by
  obtain ⟨k, l, m, hearlier, hturn, hlater, hm⟩ := issuer_at hmode hrun
  obtain rfl : m = j := issuer_unique hm hafter
  obtain ⟨key, hkey, -, hsigned⟩ := hturn.renewed hev
  obtain ⟨huri, hkey', hskew⟩ := hearlier.frame
  obtain ⟨s, hlogin, hread, hresource, hvalidity, hfloor⟩ := issuer_with_key hi (hkey' ▸ hkey)
  refine ⟨s, key, hlogin, hread, ?_⟩
  rw [hlater.kept hrest, hsigned, Issuer.renewedExpiry, huri, hresource, hearlier.validity,
    hvalidity, hskew, hfloor]

/-- The current token after a run, in words of the run. -/
theorem provenance_of_current (hmode : c.mode = .token i tls)
    (hi : (issuerFor now e cfg).result = .ok i) (hafter : (c.after history).mode = .token j tls) :
    Provenance now e cfg (c.run history) j.current.text := by
  have hfirst : (∀ ev ∈ c.run history, ¬ev.Changes) → FirstText now e cfg j.current.text := by
    intro hquiet
    obtain ⟨k, hk, hcourse⟩ := issuer_of_run hmode history
    obtain rfl : k = j := issuer_unique hk hafter
    rw [hcourse.kept hquiet]
    exact first_text hi
  refine ⟨hfirst, ?_, ?_, ?_⟩
  · intro before ev rest given hrun hev hrest
    exact text_of_installed hmode hrun hafter hev hrest
  · intro before ev rest hrun hev hrest
    exact text_of_renewed hmode hi hrun hafter hev hrest
  · intro hkeyless
    rcases Step.none_or_last Event.Changes (c.run history) with hquiet | ⟨before, ev, rest, hrun, hev, hrest⟩
    · exact .inl (carried_of_keyless (hfirst hquiet) hkeyless)
    · rcases hev with hrenews | ⟨given, hgiven⟩
      · obtain ⟨s, -, hlogin, -⟩ := text_of_renewed hmode hi hrun hafter hrenews hrest
        simp [Endpoint.sharedKey?, hlogin] at hkeyless
      · right
        refine ⟨ev, by simp [hrun], ?_⟩
        rw [text_of_installed hmode hrun hafter hgiven hrest]
        exact hgiven

/-- **Where tokens come from**: whatever is asked of credentials with a token,
    with whatever clock, the origin of every text that they hand out, as token
    or password, can be told from what happened until then. -/
theorem token_provenance (built : BuiltWithToken now e cfg c)
    (hrun : c.run history = before ++ ev :: rest) (handed : ev.HandsOut text) :
    Provenance now e cfg (before ++ [ev]) text := by
  obtain ⟨i, tls, hmode, hi⟩ := issuer_of_built built
  obtain ⟨first, j, hfirst, hj, rfl⟩ := current_of_handed hmode hrun handed
  rw [← hfirst]
  exact provenance_of_current hmode hi hj

/-- A token for another resource takes the place of the first one, and has
    expired when it is asked for: what is then signed is for the device. -/
theorem token_provenance_renewed :
    let e : Endpoint := ⟨"h", "d", .sharedKey "QUJD", by decide, by decide⟩
    let cfg : Config := { tokenValiditySecs := 60, renewalSkewSecs := 0 }
    let now : Instant := ⟨0, by decide, by decide⟩
    let w : World := { now := ⟨7, by decide, by decide⟩ }
    let key : DeviceKey := ⟨"QUJD", [65, 66, 67]⟩
    let renewed := Token.sign (deviceResource "h" "d") key ⟨68, by decide, by decide⟩
    let history : List (World × Request) := [(w, .replaceToken Token.foreign.text), (w, .token)]
    ∃ c before ev, BuiltWithToken now e cfg c ∧ c.run history = before ++ [ev] ∧ ev.Renews ∧
      ev.HandsOut renewed.text ∧ Provenance now e cfg (before ++ [ev]) renewed.text := by
  intro e cfg now w key renewed history
  have hread : (DeviceKey.ofBase64 "QUJD").result = .ok key := by rfl
  let i : Issuer := .ofKey now e.resourceUri key cfg.tokenValidity cfg.renewalSkew
  have hi : (issuerFor now e cfg).result = .ok i :=
    issuerFor_ok.mpr (.inl ⟨_, _, rfl, hread, rfl⟩)
  obtain ⟨tls, -, hc⟩ := exists_withToken hi
  let c : Credentials := { endpoint := e, config := cfg, mode := .token i tls }
  have hbuilt : BuiltWithToken now e cfg c := .withToken hc
  let installed : Event :=
    ⟨w, .replaceToken Token.foreign.text, c.serve w (.replaceToken Token.foreign.text)⟩
  let ev : Event := ⟨w, .token, installed.step.state.serve w .token⟩
  have hrun : c.run history = [installed] ++ [ev] := rfl
  let j : Issuer := { i with current := .foreign, stuckReported := false }
  have hmode : installed.step.state.mode = .token j tls := by
    simp only [installed, serve, Step.map, replaceToken_of_parse (c := c) rfl Token.parse_foreign]
    rfl
  have hkey : j.deviceKey = some key := rfl
  have hexpired : j.current.expiry ≤ w.now := by decide
  have hrenewed := Issuer.token_of_expired hkey hexpired
  have hexpiry : j.renewedExpiry w.now = ⟨68, by decide, by decide⟩ := by decide
  rw [hexpiry] at hrenewed
  have hev : ev.HandsOut renewed.text := by
    left
    simp only [ev, serve, Step.map, token_of_issuer hmode, hrenewed]
    rfl
  have hrenews : ev.Renews := by
    refine ⟨j.resourceUri, ⟨68, by decide, by decide⟩, ?_⟩
    simp only [ev, serve, Step.map, token_of_issuer hmode, hrenewed]
    exact List.mem_singleton.mpr rfl
  exact ⟨c, [installed], ev, hbuilt, hrun, hrenews, hev, token_provenance hbuilt hrun hev⟩

end HubAuth.Credentials
