import HubAuth.Proofs.Credentials.Mode
import HubAuth.Proofs.Credentials.Snapshot
import HubAuth.Proofs.Token.Stuck

/-! # Dead tokens of credentials

  Credentials are polled in two ways: by the question whether they need to be
  renewed, and by every attempt to connect. Both find the same and share one
  report. Replacements that fail, changes of the validity and questions for the
  token neither report a dead token nor make it be reported again.

  * `shows_serve`: credentials are watched as issuers are.
  * `dead_reported_once`: what is seen of credentials and of issuers that are
    watched for dead tokens.
  * `dead_text_not_fixed`: the text of a dead token may change before a good
    token comes.
-/

namespace HubAuth.Credentials

open Stuck (Sighting Standing Shows Watched Period warnings)

/-! ### What is watched -/

/-- What an event shows to somebody who watches for dead tokens. -/
def Event.sighting (ev : Event) : Sighting where
  now := ev.world.now
  poll := match ev.request, ev.step.value with
    | .needsRenewal, .ok (.flag found) => some found
    | .connect, .ok _ => some false
    | .connect, .error .expired => some true
    | _, _ => none
  installed := match ev.request, ev.step.value with
    | .replaceToken text, .ok _ => (Token.parse text).toOption
    | _, _ => none
  read := match ev.request, ev.step.value with
    | .token, .ok (.token text) => text
    | _, _ => none
  log := ev.step.log

/-- What matters of credentials: with a certificate there is no token. -/
def standing (c : Credentials) : Standing :=
  match c.mode with
  | .token issuer _ => issuer.standing
  | .certificate .. => { held := none, reported := false }

variable {c : Credentials} {i : Issuer} {m : Material} {tls : TlsContext}

theorem standing_of_issuer (h : c.mode = .token i tls) : c.standing = i.standing := by
  simp only [standing, h]

theorem standing_of_certificate (h : c.mode = .certificate m tls) :
    c.standing = { held := none, reported := false } := by
  simp only [standing, h]

/-! ### What one request shows -/

theorem countP_readings (half : Half) (s : PemSource) :
    (s.readings half).countP Stuck.isWarning = 0 := by
  cases s with
  | literal pem => rfl
  | file path => rfl

/-- No warning about tokens is given while certificate material is loaded. -/
theorem countP_present (files : Files.Tree) (p k : PemSource) :
    (present files p k).log.countP Stuck.isWarning = 0 := by
  have hattempt := attempt_present files p k
  generalize (present files p k).result = result at hattempt
  generalize (present files p k).log = log at hattempt ⊢
  cases hattempt with
  | emptyCertificate | emptyKey => rfl
  | certificate => exact countP_readings _ p
  | key => rw [List.countP_append, countP_readings, countP_readings]
  | context | presented =>
    rw [List.countP_append, List.countP_append, countP_readings, countP_readings]
    rfl

/-- A replacement of the certificate has no part in any of this. -/
theorem shows_replaceCertificate (c : Credentials) (w : World) (p k : PemSource) :
    Shows c.standing
      (Event.sighting ⟨w, .replaceCertificate p k, c.serve w (.replaceCertificate p k)⟩)
      (c.serve w (.replaceCertificate p k)).state.standing := by
  have hstanding : (c.replaceCertificate w.files p k).state.standing = c.standing ∧
      (c.replaceCertificate w.files p k).log.countP Stuck.isWarning = 0 := by
    have hlog := countP_present w.files p k
    cases hmode : c.mode with
    | token i tls =>
      rw [replaceCertificate_of_issuer hmode]
      exact ⟨rfl, rfl⟩
    | certificate m tls =>
      cases hpresent : (present w.files p k).result with
      | error f =>
        rw [replaceCertificate_of_error hmode hpresent]
        exact ⟨rfl, hlog⟩
      | ok new =>
        obtain ⟨m', tls'⟩ := new
        rw [replaceCertificate_of_ok hmode hpresent, standing_of_certificate hmode]
        refine ⟨rfl, ?_⟩
        rw [List.countP_append, hlog]
        rfl
  show Shows c.standing _ (c.replaceCertificate w.files p k).state.standing
  rw [hstanding.1]
  exact Stuck.shows_of_idle rfl rfl rfl hstanding.2

/-- With a certificate nothing is ever dead. -/
theorem shows_of_certificate (hmode : c.mode = .certificate m tls) (w : World) (r : Request) :
    Shows c.standing (Event.sighting ⟨w, r, c.serve w r⟩) (c.serve w r).state.standing := by
  have halive : c.standing.isDead w.now = false := by
    rw [standing_of_certificate hmode]
    rfl
  cases r with
  | replaceCertificate p k => exact shows_replaceCertificate c w p k
  | token =>
    simp only [serve, Step.map, token_of_certificate hmode]
    exact Stuck.shows_of_idle rfl rfl rfl rfl
  | needsRenewal =>
    simp only [serve, Step.map, needsRenewal_of_certificate hmode]
    exact Stuck.shows_of_alive rfl halive rfl rfl rfl
  | replaceToken text =>
    simp only [serve, Step.map, replaceToken_of_certificate hmode]
    exact Stuck.shows_of_idle rfl rfl rfl rfl
  | setTokenValidity v =>
    have hkept : c.setTokenValidity v = c := by simp only [setTokenValidity, hmode]
    simp only [serve, hkept]
    exact Stuck.shows_of_idle rfl rfl rfl rfl
  | setUseWebsocket b => exact Stuck.shows_of_idle rfl rfl rfl rfl
  | connect =>
    simp only [serve, Step.map, connect_of_certificate hmode]
    exact Stuck.shows_of_alive rfl halive rfl rfl rfl

/-- A poll by an attempt to connect. -/
theorem shows_connect (hmode : c.mode = .token i tls) (w : World) :
    Shows c.standing (Event.sighting ⟨w, .connect, c.serve w .connect⟩)
      (c.serve w .connect).state.standing := by
  rw [standing_of_issuer hmode]
  cases hstuck : i.isStuck w.now with
  | true =>
    -- The refusal leaves and logs what the issuer does when it is asked.
    have hstep : c.serve w .connect =
        { state := { c with mode := .token (i.needsRenewal w.now).state tls }
          value := .error .expired
          log := (i.needsRenewal w.now).log } := by
      simp only [serve, Step.map, connect_of_stuck hmode hstuck, Issuer.needsRenewal_of_stuck hstuck]
      rfl
    rw [hstep]
    refine Issuer.shows_needsRenewal i ?_ rfl rfl rfl
    show some true = some (i.isStuck w.now)
    rw [hstuck]
  | false =>
    simp only [serve, Step.map, connect_of_issuer hmode hstuck]
    rw [standing_of_issuer (c := { c with mode := _ }) rfl, Issuer.standing_token]
    have halive : i.standing.isDead w.now = false := (Issuer.isDead_standing i w.now).trans hstuck
    refine Stuck.shows_of_alive rfl halive rfl rfl ?_
    show List.countP Stuck.isWarning (_ :: (i.token w.now).log) = 0
    rw [List.countP_cons, Issuer.countP_token]
    rfl

/-- What one request to credentials shows. -/
theorem shows_serve (c : Credentials) (w : World) (r : Request) :
    Shows c.standing (Event.sighting ⟨w, r, c.serve w r⟩) (c.serve w r).state.standing := by
  cases hmode : c.mode with
  | certificate m tls => exact shows_of_certificate hmode w r
  | token i tls =>
    cases r with
    | replaceCertificate p k => exact shows_replaceCertificate c w p k
    | connect => exact shows_connect hmode w
    | token =>
      rw [standing_of_issuer hmode]
      simp only [serve, Step.map, token_of_issuer hmode]
      exact Issuer.shows_token i w.now rfl rfl rfl rfl
    | needsRenewal =>
      rw [standing_of_issuer hmode]
      simp only [serve, Step.map, needsRenewal_of_issuer hmode]
      refine Issuer.shows_needsRenewal i ?_ rfl rfl rfl
      show some (i.needsRenewal w.now).value = some (i.isStuck w.now)
      rw [Issuer.needsRenewal_value]
    | replaceToken text =>
      cases hparse : Token.parse text with
      | error e =>
        simp only [serve, Step.map, replaceToken_of_error hmode hparse]
        exact Stuck.shows_of_idle rfl rfl rfl rfl
      | ok t =>
        rw [standing_of_issuer hmode]
        simp only [serve, Step.map, replaceToken_of_parse hmode hparse]
        have hinstall := Issuer.standing_install i t
        rw [standing_of_issuer (c := { c with mode := _ }) rfl]
        refine hinstall ▸ Stuck.shows_of_install rfl ?_ rfl rfl
        simp only [Event.sighting, Except.map, hparse]
        rfl
    | setTokenValidity v =>
      simp only [serve, setTokenValidity_of_issuer hmode]
      rw [standing_of_issuer hmode]
      exact Stuck.shows_of_idle rfl rfl rfl rfl
    | setUseWebsocket b => exact Stuck.shows_of_idle rfl rfl rfl rfl

/-! ### Whole runs -/

/-- A run is a trail of what its events show. -/
theorem trail_sighting (c : Credentials) (history : List (World × Request)) :
    Step.Trail Shows c.standing ((c.run history).map Event.sighting)
      (c.after history).standing := by
  rw [run, Step.run, Step.map_events]
  exact Step.trail_events standing (fun c r => shows_serve c r.1 r.2) c history

variable {e : Endpoint} {cfg : Config}

/-- It has not been reported that the first token is dead. -/
theorem reported_built (built : Built e cfg c) : c.standing.reported = false := by
  rcases built_cases built with ⟨now, h⟩ | ⟨files, p, k, h⟩
  · obtain ⟨i, tls, hi, -, rfl⟩ := withToken_ok.mp h
    show i.stuckReported = false
    rcases issuerFor_ok.mp hi with ⟨s, key, -, -, rfl⟩ | ⟨s, t, -, -, rfl⟩
    · rfl
    · rfl
  · obtain ⟨-, m, tls, -, rfl⟩ := withCertificate_ok.mp h
    rfl

/-- With a key or a certificate there is no token that cannot be renewed. -/
theorem held_built (built : Built e cfg c)
    (hlogin : e.sharedKey?.isSome = true ∨ e.usesCertificate = true) : c.standing.held = none := by
  have hfits := (consistent_built built).mode
  cases hmode : c.mode with
  | certificate m tls => rw [standing_of_certificate hmode]
  | token i tls =>
    rw [hmode] at hfits
    cases hfits with
    | token sound login key validity unknown =>
      rw [standing_of_issuer hmode]
      rcases hlogin with hkey | hcertificate
      · rw [← key, Option.isSome_map] at hkey
        exact Issuer.held_of_key hkey
      · rw [login] at hcertificate
        cases hcertificate

/-- Credentials need to be renewed exactly if they have a dead token. -/
theorem needsRenewal_value_iff (c : Credentials) (now : Instant) :
    (c.needsRenewal now).value = true ↔
      ∃ i tls, c.mode = .token i tls ∧ i.deviceKey = none ∧ i.current.expiry ≤ now := by
  cases hmode : c.mode with
  | certificate m tls => simp [needsRenewal_of_certificate hmode, Step.keep]
  | token i tls =>
    rw [needsRenewal_of_issuer hmode]
    simp [Issuer.needsRenewal_value, Issuer.isStuck_iff]

/-- **Dead tokens are reported once**: however credentials were built and
    whatever is asked of them, with whatever clock, they need to be renewed
    exactly while they have a token that has expired and no key; and somebody who
    watches them is told by every poll, and by the log once for each token. With
    a key or a certificate the log never says so. The same holds of an issuer. -/
theorem dead_reported_once :
    (∀ {e : Endpoint} {cfg : Config} {c : Credentials}, Built e cfg c →
      ∀ history : List (World × Request),
        (∀ now, ((c.after history).needsRenewal now).value = true ↔
          ∃ i tls, (c.after history).mode = .token i tls ∧ i.deviceKey = none ∧
            i.current.expiry ≤ now) ∧
        Watched ((c.run history).map Event.sighting) ∧
        (e.sharedKey?.isSome = true ∨ e.usesCertificate = true →
          warnings ((c.run history).map Event.sighting) = 0)) ∧
    (∀ {i : Issuer}, i.Built → ∀ history : List (Instant × Issuer.Request),
        (∀ now, ((i.after history).needsRenewal now).value = true ↔
          (i.after history).deviceKey = none ∧ (i.after history).current.expiry ≤ now) ∧
        Watched ((i.run history).map Issuer.Event.sighting) ∧
        (i.deviceKey.isSome = true → warnings ((i.run history).map Issuer.Event.sighting) = 0)) := by
  constructor
  · intro e cfg c built history
    have htrail := trail_sighting c history
    refine ⟨needsRenewal_value_iff (c.after history), ?_, ?_⟩
    · exact Stuck.watched_of_trail htrail (reported_built built)
    · intro hlogin
      exact Stuck.quiet_of_trail htrail (held_built built hlogin)
  · intro i built history
    have htrail := Issuer.trail_sighting i history
    refine ⟨?_, Stuck.watched_of_trail htrail (Issuer.reported_built built), ?_⟩
    · intro now
      rw [Issuer.needsRenewal_value, Issuer.isStuck_iff]
    · intro hkey
      exact Stuck.quiet_of_trail htrail (Issuer.held_of_key hkey)

/-- A token that has expired, of an endpoint and of an issuer: it is found dead
    by attempts to connect, is good again while the clock is set back, and is
    found once more. With a key it is never reported. -/
theorem dead_reported_once_foreign :
    let e : Endpoint := ⟨"h", "d", .sharedToken Token.foreign.text, by decide, by decide⟩
    let i : Issuer := .ofToken .foreign (.ofSecs 60)
    let keyed : Issuer := .ofKey ⟨3, by decide, by decide⟩ "h" ⟨"QUJD", [65, 66, 67]⟩ (.ofSecs 1)
      (.ofSecs 0)
    let dead : World := { now := ⟨7, by decide, by decide⟩ }
    let good : World := { now := ⟨3, by decide, by decide⟩ }
    let history : List (World × Request) :=
      [(good, .connect), (dead, .connect), (good, .needsRenewal), (dead, .replaceToken "x"),
        (dead, .token), (dead, .needsRenewal), (dead, .connect)]
    let polls : List (Instant × Issuer.Request) :=
      [(dead.now, .needsRenewal), (dead.now, .install .foreign), (dead.now, .needsRenewal)]
    (∃ c, Built e {} c ∧ warnings ((c.run history).map Event.sighting) = 1) ∧
      i.Built ∧ Watched ((i.run polls).map Issuer.Event.sighting) ∧
      keyed.Built ∧ warnings ((keyed.run polls).map Issuer.Event.sighting) = 0 := by
  intro e i keyed dead good history polls
  refine ⟨?_, ?_, ?_, ?_, ?_⟩
  · have hi : (issuerFor good.now e {}).result = .ok (.ofToken .foreign (.ofSecs 3600)) :=
      issuerFor_ok.mpr (.inr ⟨_, _, rfl, Token.parse_foreign, rfl⟩)
    obtain ⟨tls, hbuilt⟩ := exists_built hi
    let c : Credentials :=
      { endpoint := e, config := {}, mode := .token (.ofToken .foreign (.ofSecs 3600)) tls }
    refine ⟨c, hbuilt, ?_⟩
    obtain ⟨-, hwatched, -⟩ := dead_reported_once.1 hbuilt history
    have hinstalled : ((c.run history).map Event.sighting).map (fun s => s.installed)
        = List.replicate 7 none := rfl
    have hperiod : Period ((c.run history).map Event.sighting) []
        ((c.run history).map Event.sighting) := by
      refine ⟨⟨[], by simp⟩, .inl rfl, ?_⟩
      intro s hs
      exact (List.eq_replicate_iff.mp hinstalled).2 _ (List.mem_map_of_mem hs)
    rw [hwatched.once [] _ hperiod, if_pos]
    exact ⟨_, List.mem_cons_of_mem _ List.mem_cons_self, rfl⟩
  · exact .ofToken Token.foreign_obtainable _
  · exact (dead_reported_once.2 (.ofToken Token.foreign_obtainable _) polls).2.1
  · exact .ofKey _ _ _ _ _
  · exact (dead_reported_once.2 (.ofKey _ _ _ _ _) polls).2.2 rfl

/-- The text that is given to those who ask for a dead token may change before a
    good token is installed: another token that has expired may take its place. -/
theorem dead_text_not_fixed :
    ¬∀ {e : Endpoint} {cfg : Config} {c : Credentials}, Built e cfg c →
      ∀ (history : List (World × Request)) (before : List Sighting) (s : Sighting)
        (between after : List Sighting),
        (c.run history).map Event.sighting = before ++ s :: (between ++ after) → s.FindsDead →
        (s :: between).Pairwise (fun x y => x.now ≤ y.now) →
        (∀ x ∈ between, ∀ t, x.installed = some t → t.expiry ≤ x.now) →
        ∀ x ∈ between, ∀ y ∈ between, ∀ text text',
          x.read = some text → y.read = some text' → text = text' := by
  intro h
  let e : Endpoint := ⟨"h", "d", .sharedToken Token.foreign.text, by decide, by decide⟩
  let w : World := { now := ⟨10, by decide, by decide⟩ }
  let other : Token :=
    { resourceUri := "h", signature := "x", expiry := ⟨7, by decide, by decide⟩
      text := "SharedAccessSignature sr=h&sig=x&se=7" }
  have hexpired : other.expiry ≤ w.now := by decide
  have hother : Token.parse other.text = .ok other :=
    Except.toOption_eq_some_iff.mp (by decide +kernel)
  have hi : (issuerFor w.now e {}).result = .ok (.ofToken .foreign (.ofSecs 3600)) :=
    issuerFor_ok.mpr (.inr ⟨_, _, rfl, Token.parse_foreign, rfl⟩)
  obtain ⟨tls, hbuilt⟩ := exists_built hi
  let c : Credentials :=
    { endpoint := e, config := {}, mode := .token (.ofToken .foreign (.ofSecs 3600)) tls }
  let i : Issuer := { Issuer.ofToken .foreign (.ofSecs 3600) with stuckReported := true }
  let reported : Credentials := { c with mode := .token i tls }
  let poll : Event := ⟨w, .needsRenewal, c.serve w .needsRenewal⟩
  let first : Event := ⟨w, .token, reported.serve w .token⟩
  let installed : Event :=
    ⟨w, .replaceToken other.text, reported.serve w (.replaceToken other.text)⟩
  let second : Event := ⟨w, .token, installed.step.state.serve w .token⟩
  have hmode : installed.step.state.mode
      = .token { i with current := other, stuckReported := false } tls := by
    simp only [installed, serve, Step.map, replaceToken_of_parse (c := reported) rfl hother]
  have hfirst : first.sighting.read = some Token.foreign.text := rfl
  have hsecond : second.sighting.read = some other.text := by
    simp only [Event.sighting, second, serve, Step.map, token_of_issuer hmode]
    rfl
  have hinstalled : installed.sighting.installed = some other := by
    simp only [Event.sighting, installed, serve, Step.map,
      replaceToken_of_parse (c := reported) rfl hother, Except.map, hother]
    rfl
  have hsame : Token.foreign.text = other.text := by
    refine h hbuilt
      [(w, .needsRenewal), (w, .token), (w, .replaceToken other.text), (w, .token)] []
      poll.sighting [first.sighting, installed.sighting, second.sighting] [] rfl rfl ?_ ?_
      first.sighting (by simp) second.sighting (by simp) _ _ hfirst hsecond
    · simp [poll, first, installed, second, Event.sighting, Instant.le_def]
    · intro x hx t ht
      rcases List.mem_cons.mp hx with rfl | hx
      · cases ht
      rcases List.mem_cons.mp hx with rfl | hx
      · obtain rfl : other = t := Option.some.inj (hinstalled.symm.trans ht)
        exact hexpired
      · obtain rfl : x = second.sighting := by simpa using hx
        cases ht
  exact absurd hsame (by decide +kernel)

end HubAuth.Credentials
