import HubAuth.Proofs.Credentials.Secrecy
import HubAuth.Proofs.Text.Quoted

/-! # What the description of connection options shows

  The options for a connection carry a token as the password, and their
  description shows it. Credentials that differ in a secret only connect with
  options that differ in the password only, so their descriptions are the same
  exactly if the passwords are: the description tells every signature apart.

  * `describe_eq_iff`: the description tells the password.
  * `description_shows_password`: the same, from the endpoints on.
  * `signature_shown`: two tokens that only their signatures tell apart.
-/

namespace HubAuth

namespace Mqtt.Options

open Credentials

/-- Two options that differ at most in their passwords. -/
structure SameButPassword (o p : Options) (s t : String) : Prop where
  /-- The password of the first. -/
  left : o.password = some s
  /-- The password of the second. -/
  right : p.password = some t
  /-- All else is the same. -/
  rest : { o with password := none } = { p with password := none }

/-- The description tells the password: if all else is the same, two
    descriptions are the same exactly if the passwords are. -/
theorem describe_eq_iff {o p : Options} {s t : String} (h : SameButPassword o p s t) :
    o.describe = p.describe ↔ s = t := by
  obtain ⟨host, port, client, user, password, keepAlive, tls⟩ := o
  obtain ⟨host', port', client', user', password', keepAlive', tls'⟩ := p
  obtain ⟨hleft, hright, hrest⟩ := h
  simp only [Options.mk.injEq, true_and] at hleft hright hrest
  obtain ⟨rfl, rfl, rfl, rfl, rfl, rfl⟩ := hrest
  subst hleft hright
  have hfield := Text.record_inj "MqttConnectOptions"
    [("host_name", Text.quoted host), ("port", String.ofList (Text.decimal port)),
      ("client_id", Text.quoted client), ("user_name", Text.quoted user)]
    "password"
    [("keep_alive", String.ofList (Text.decimal keepAlive.toNat)), ("tls", tls.describe)]
    (v := Text.optional (some (Text.quoted s))) (w := Text.optional (some (Text.quoted t)))
  rw [Text.optional_some_inj, Text.quoted_inj] at hfield
  exact hfield

/-- Credentials that differ in secrets only are refused together, or connect
    with options that differ in the password only. -/
theorem connect_alike {c d : Credentials} (h : Credentials.Alike c d) (now : Instant) :
    ((ofCredentials c now).value = .error .expired ∧ (ofCredentials d now).value = .error .expired) ∨
    ∃ o p s t, (ofCredentials c now).value = .ok o ∧ (ofCredentials d now).value = .ok p ∧
      SameButPassword o p s t ∧ Token.SameClaims s t := by
  obtain ⟨i, j, tls, hc, hd, hissuer⟩ := h.mode
  have hstuck := hissuer.isStuck now
  cases hi : i.isStuck now with
  | true =>
    have hj : j.isStuck now = true := hstuck.symm.trans hi
    left
    rw [connect_of_stuck hc hi, connect_of_stuck hd hj]
    exact ⟨rfl, rfl⟩
  | false =>
    have hj : j.isStuck now = false := hstuck.symm.trans hi
    have hclaims := (Issuer.alike_token hissuer now).value
    right
    rw [connect_of_issuer hc hi, connect_of_issuer hd hj]
    cases alike_make h hclaims with
    | options ho hp htext rest => exact ⟨_, _, _, _, rfl, rfl, ⟨ho, hp, rest⟩, htext⟩

/-- **The description shows the password**: take two endpoints of a device whose
    keys, or whose tokens, differ in a secret only, build credentials for both
    with the same configuration at the same time, ask both for the same, and let
    both connect at the same time. Then both are refused, or both connect with
    options that differ in the password only; the two passwords are tokens for
    the same resource with the same expiry, and the descriptions of the options
    are the same exactly if the passwords are the same text. -/
theorem description_shows_password {e f : Endpoint} (he : Endpoint.Alike e f) (now : Instant)
    (cfg : Config) {history history' : List (World × Request)}
    (hsame : AlikeHistories history history') (later : Instant) :
    ∃ c d, (withToken now e cfg).result = .ok c ∧ (withToken now f cfg).result = .ok d ∧
      (((ofCredentials (c.after history) later).value = .error .expired ∧
          (ofCredentials (d.after history') later).value = .error .expired) ∨
        ∃ o p s t, (ofCredentials (c.after history) later).value = .ok o ∧
          (ofCredentials (d.after history') later).value = .ok p ∧ SameButPassword o p s t ∧
          Token.SameClaims s t ∧ (o.describe = p.describe ↔ s = t)) := by
  obtain ⟨i, j, hi, hj, hissuer, -⟩ := alike_issuerFor he now cfg
  obtain ⟨tls, htls, hc⟩ := exists_withToken hi
  have hd : (withToken now f cfg).result = .ok ⟨f, cfg, .token j tls⟩ :=
    withToken_ok.mpr ⟨j, tls, hj, htls, rfl⟩
  have hcd : Credentials.Alike ⟨e, cfg, .token i tls⟩ ⟨f, cfg, .token j tls⟩ :=
    ⟨he, rfl, i, j, tls, rfl, rfl, hissuer⟩
  refine ⟨_, _, hc, hd, ?_⟩
  rcases connect_alike (alike_serveAll hcd hsame).1 later with hrefused | hconnected
  · exact .inl hrefused
  · obtain ⟨o, p, s, t, ho, hp, hbut, hclaims⟩ := hconnected
    exact .inr ⟨o, p, s, t, ho, hp, hbut, hclaims, describe_eq_iff hbut⟩

/-- Two keyless devices. Their first tokens are replaced before both connect, and
    the new ones differ in the signature too, which the second of them spells
    with an escape. -/
theorem description_shows_password_replaced :
    let e : Endpoint :=
      ⟨"h", "d", .sharedToken "SharedAccessSignature sr=h&sig=a&se=5", by decide, by decide⟩
    let f : Endpoint :=
      ⟨"h", "d", .sharedToken "SharedAccessSignature sr=h&sig=b&se=5", by decide, by decide⟩
    let now : Instant := ⟨7, by decide, by decide⟩
    let history (text : String) : List (World × Request) :=
      [({ now }, .connect), ({ now }, .replaceToken text), ({ now }, .setUseWebsocket true)]
    let first := history "SharedAccessSignature sr=h&sig=x&se=9"
    let second := history "SharedAccessSignature sr=h&sig=%79&se=9"
    Endpoint.Alike e f ∧ AlikeHistories first second ∧
      ∃ c d, (withToken now e {}).result = .ok c ∧ (withToken now f {}).result = .ok d ∧
        (((ofCredentials (c.after first) now).value = .error .expired ∧
            (ofCredentials (d.after second) now).value = .error .expired) ∨
          ∃ o p s t, (ofCredentials (c.after first) now).value = .ok o ∧
            (ofCredentials (d.after second) now).value = .ok p ∧ SameButPassword o p s t ∧
            Token.SameClaims s t ∧ (o.describe = p.describe ↔ s = t)) := by
  intro e f now history first second
  have hgiven : Token.SameClaims "SharedAccessSignature sr=h&sig=a&se=5"
      "SharedAccessSignature sr=h&sig=b&se=5" :=
    ⟨⟨"h", "a", ⟨5, by decide, by decide⟩, "SharedAccessSignature sr=h&sig=a&se=5"⟩,
      ⟨"h", "b", ⟨5, by decide, by decide⟩, "SharedAccessSignature sr=h&sig=b&se=5"⟩,
      by decide +kernel, by decide +kernel, rfl, rfl⟩
  have hnew : Token.SameClaims "SharedAccessSignature sr=h&sig=x&se=9"
      "SharedAccessSignature sr=h&sig=%79&se=9" :=
    ⟨⟨"h", "x", ⟨9, by decide, by decide⟩, "SharedAccessSignature sr=h&sig=x&se=9"⟩,
      ⟨"h", "y", ⟨9, by decide, by decide⟩, "SharedAccessSignature sr=h&sig=%79&se=9"⟩,
      by decide +kernel, by decide +kernel, rfl, rfl⟩
  have he : Endpoint.Alike e f := ⟨rfl, rfl, .sharedToken hgiven⟩
  have hsame : AlikeHistories first second :=
    .cons ⟨rfl, .same _⟩ (.cons ⟨rfl, .replaceToken hnew⟩ (.cons ⟨rfl, .same _⟩ .nil))
  exact ⟨he, hsame, description_shows_password he now {} hsame now⟩

/-! ### A signature that shows -/

/-- A good token from elsewhere is sent as it was given. -/
theorem connect_given {e : Endpoint} {text : String} {t : Token} {tls : TlsContext} {now : Instant}
    (hlogin : e.login = .sharedToken text) (hparse : Token.parse text = .ok t)
    (htls : TlsContext.serverAuthOnly.result = .ok tls) (hlive : now < t.expiry) (cfg : Config) :
    let c : Credentials := ⟨e, cfg, .token (.ofToken t cfg.tokenValidity) tls⟩
    (withToken now e cfg).result = .ok c ∧ (ofCredentials c now).value = .ok (make c (some text)) := by
  intro c
  have hissued : (issuerFor now e cfg).result = .ok (.ofToken t cfg.tokenValidity) :=
    issuerFor_ok.mpr (.inr ⟨text, t, hlogin, hparse, rfl⟩)
  have hstuck : (Issuer.ofToken t cfg.tokenValidity).isStuck now = false := by
    rw [Bool.eq_false_iff, ne_eq, Issuer.isStuck_iff]
    rintro ⟨-, hexpired⟩
    rw [Instant.lt_def] at hlive
    exact absurd hexpired (Int.not_le.mpr hlive)
  refine ⟨withToken_ok.mpr ⟨_, tls, hissued, htls, rfl⟩, ?_⟩
  rw [connect_of_issuer rfl hstuck, Issuer.token_of_keyless rfl]
  show Except.ok (make c (some t.text)) = .ok (make c (some text))
  rw [Token.text_of_parse hparse]

/-- Connections of one device with one configuration are described alike
    exactly if they carry the same token. -/
theorem describe_make_iff {c d : Credentials} (hhost : c.endpoint.hostName = d.endpoint.hostName)
    (hdevice : c.endpoint.deviceId = d.endpoint.deviceId) (hcfg : c.config = d.config)
    (htls : c.tls = d.tls) {s t : String} :
    (make c (some s)).describe = (make d (some t)).describe ↔ s = t :=
  describe_eq_iff ⟨rfl, rfl, by simp only [make, hhost, hdevice, hcfg, htls]⟩

/-- Two tokens that only their signatures tell apart are told apart by the
    descriptions of the options that carry them. -/
theorem signature_shown :
    let e : Endpoint :=
      ⟨"h", "d", .sharedToken "SharedAccessSignature sr=h&sig=a&se=9", by decide, by decide⟩
    let f : Endpoint :=
      ⟨"h", "d", .sharedToken "SharedAccessSignature sr=h&sig=b&se=9", by decide, by decide⟩
    let now : Instant := ⟨7, by decide, by decide⟩
    Endpoint.Alike e f ∧
      ∃ c d o p, (withToken now e {}).result = .ok c ∧ (withToken now f {}).result = .ok d ∧
        (ofCredentials c now).value = .ok o ∧ (ofCredentials d now).value = .ok p ∧
        o.describe ≠ p.describe := by
  intro e f now
  have hs : Token.parse "SharedAccessSignature sr=h&sig=a&se=9" = .ok
      ⟨"h", "a", ⟨9, by decide, by decide⟩, "SharedAccessSignature sr=h&sig=a&se=9"⟩ := by
    decide +kernel
  have ht : Token.parse "SharedAccessSignature sr=h&sig=b&se=9" = .ok
      ⟨"h", "b", ⟨9, by decide, by decide⟩, "SharedAccessSignature sr=h&sig=b&se=9"⟩ := by
    decide +kernel
  obtain ⟨tls, htls⟩ := TlsContext.exists_serverAuthOnly
  have hlive : now < ⟨9, by decide, by decide⟩ := by decide
  obtain ⟨hc, ho⟩ := connect_given (e := e) rfl hs htls hlive {}
  obtain ⟨hd, hp⟩ := connect_given (e := f) rfl ht htls hlive {}
  refine ⟨⟨rfl, rfl, .sharedToken ⟨_, _, hs, ht, rfl, rfl⟩⟩, _, _, _, _, hc, hd, ho, hp, ?_⟩
  refine mt (describe_make_iff ?_ ?_ ?_ ?_).mp ?_
  exacts [rfl, rfl, rfl, rfl, by decide]

end Mqtt.Options

end HubAuth
