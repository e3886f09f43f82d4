import HubAuth.Proofs.Credentials.History
import HubAuth.Proofs.Token.Run

/-! # Runs of credentials

  A history lists what is asked of credentials; its run also lists what came
  of it. Credentials with a token make use of an issuer: a replacement that is
  granted is an installation, and who connects asks for the token as well.

  * `turn_serve`: what one request does to the issuer of tokens.
  * `trail_run`: a whole run is a trail of such turns.
  * `issuer_at`: an event of a run, with what comes before and after it.
-/

namespace HubAuth.Credentials

/-! ### Events -/

/-- One request of a run. -/
abbrev Event :=
  Step.Event World Request Credentials (Except Failure Answer)

/-- The run that a history makes. -/
def run (c : Credentials) (history : List (World × Request)) : List Event :=
  Step.run serve c history

/-- The validity that a request puts in force, if it does. -/
def Request.validity? : Request → Option Duration
  | .setTokenValidity v => some v
  | _ => none

namespace Event

/-- A text from elsewhere became the current token. -/
def Installs (ev : Event) (text : String) : Prop :=
  ev.request = .replaceToken text ∧ ev.step.value = .ok .done

/-- A text was handed out, as the token or as the password of a connection. -/
def HandsOut (ev : Event) (text : String) : Prop :=
  ev.step.value = .ok (.token (some text)) ∨
    ∃ o, ev.step.value = .ok (.options o) ∧ o.password = some text

end Event

/-- The credentials are asked, of which the issuer is a part. -/
abbrev use : Issuer.Use World Request Credentials (Except Failure Answer) where
  now := World.now
  validity? := Request.validity?
  Installs := fun ev => ∃ text, Event.Installs ev text

/-- There is another current token than before. -/
def Event.Changes (ev : Event) : Prop :=
  use.Changes ev

theorem run_append (c : Credentials) (history more : List (World × Request)) :
    c.run (history ++ more) = c.run history ++ (c.after history).run more :=
  Step.run_append c history more

/-- An event of a run is a request that was served. -/
theorem run_split_cons {c : Credentials} {history : List (World × Request)}
    {before rest : List Event} {ev : Event} (h : c.run history = before ++ ev :: rest) :
    ∃ first w r later, history = first ++ (w, r) :: later ∧ c.run first = before ∧
      ev = ⟨w, r, (c.after first).serve w r⟩ :=
  Step.run_split_cons h

/-! ### One event -/

/-- What an event does to the issuer `i`, which is `j` afterwards, if the
    credentials are asked. -/
structure Turn (i : Issuer) (ev : Event) (j : Issuer) : Prop extends Issuer.Effect use i ev j where
  /-- What is handed out is the text of the token that is current then. -/
  handed : ∀ text, ev.HandsOut text → text = j.current.text
  /-- A replacement puts the given text in its place. -/
  installed : ∀ text, ev.Installs text → Token.parse text = .ok j.current

variable {c : Credentials} {i : Issuer} {tls : TlsContext}

/-- Only a replacement that is granted installs a text. -/
theorem not_installs {ev : Event} (h : ∀ text, ev.request ≠ .replaceToken text) (text : String) :
    ¬ev.Installs text := by
  rintro ⟨hrequest, -⟩
  exact h text hrequest

/-- An event that reports no renewal, installs no text and hands nothing out. -/
theorem turn_of_quiet {j : Issuer} {ev : Event}
    (frame : j.resourceUri = i.resourceUri ∧ j.deviceKey = i.deviceKey ∧
      j.renewalSkew = i.renewalSkew)
    (validity : j.validity = ev.request.validity?.getD i.validity) (current : j.current = i.current)
    (log : ∀ uri t, .renewed uri t ∉ ev.step.log) (installs : ∀ text, ¬ev.Installs text)
    (handed : ∀ text, ¬ev.HandsOut text) : Turn i ev j where
  toEffect := Issuer.effect_of_no_renewal frame validity (fun _ => current) log
  handed := fun text h => absurd h (handed text)
  installed := fun text h => absurd h (installs text)

/-- An event that asks the issuer for its token and reports what the issuer
    reports. -/
theorem turn_of_token {ev : Event} (validity : ev.request.validity? = none)
    (installs : ∀ text, ¬ev.Installs text)
    (log : ∀ uri t, .renewed uri t ∈ ev.step.log ↔ .renewed uri t ∈ (i.token ev.world.now).log)
    (handed : ∀ text, ev.HandsOut text → text = (i.token ev.world.now).value) :
    Turn i ev (i.token ev.world.now).state where
  toEffect := Issuer.effect_of_token validity log
  handed := by
    intro text h
    rw [handed text h, Issuer.token_value]
  installed := fun text h => absurd h (installs text)

/-- What one request does to the issuer of credentials with a token. -/
theorem turn_serve (hmode : c.mode = .token i tls) (w : World) (r : Request) :
    ∃ j, (c.serve w r).state.mode = .token j tls ∧ Turn i ⟨w, r, c.serve w r⟩ j := by
  cases r with
  | token =>
    simp only [serve, Step.map, token_of_issuer hmode]
    refine ⟨_, rfl, turn_of_token rfl (not_installs (by simp)) ?_ ?_⟩
    · simp
    · simp [Event.HandsOut, eq_comm]
  | needsRenewal =>
    simp only [serve, Step.map, needsRenewal_of_issuer hmode]
    cases hstuck : i.isStuck w.now with
    | true =>
      rw [Issuer.needsRenewal_of_stuck hstuck]
      refine ⟨_, rfl, turn_of_quiet ⟨rfl, rfl, rfl⟩ rfl rfl ?_ (not_installs (by simp)) ?_⟩
      · intro uri t
        cases i.stuckReported <;> simp
      · simp [Event.HandsOut]
    | false =>
      rw [Issuer.needsRenewal_of_not_stuck hstuck]
      refine ⟨_, rfl, turn_of_quiet ⟨rfl, rfl, rfl⟩ rfl rfl ?_ (not_installs (by simp)) ?_⟩
      · simp [Step.keep]
      · simp [Event.HandsOut, Step.keep]
  | replaceCertificate p k =>
    simp only [serve, Step.map, replaceCertificate_of_issuer hmode]
    refine ⟨i, hmode, turn_of_quiet ⟨rfl, rfl, rfl⟩ rfl rfl ?_ (not_installs (by simp)) ?_⟩
    · simp [Step.keep]
    · simp [Event.HandsOut, Step.keep, Except.map]
  | replaceToken text =>
    cases hparse : Token.parse text with
    | error e =>
      simp only [serve, Step.map, replaceToken_of_error hmode hparse]
      refine ⟨i, hmode, turn_of_quiet ⟨rfl, rfl, rfl⟩ rfl rfl ?_ ?_ ?_⟩
      · simp [Step.keep]
      · simp [Event.Installs, Step.keep, Except.map]
      · simp [Event.HandsOut, Step.keep, Except.map]
    | ok t =>
      simp only [serve, Step.map, replaceToken_of_parse hmode hparse]
      refine ⟨_, rfl, Issuer.effect_of_no_renewal ⟨rfl, rfl, rfl⟩ rfl ?_ ?_, ?_, ?_⟩
      · intro h
        exact absurd (.inr ⟨text, rfl, rfl⟩) h
      · simp
      · simp [Event.HandsOut, Except.map]
      · rintro given ⟨hrequest, -⟩
        obtain rfl := Request.replaceToken.inj hrequest
        exact hparse
  | setTokenValidity v =>
    simp only [serve, setTokenValidity_of_issuer hmode]
    refine ⟨_, rfl, turn_of_quiet ⟨rfl, rfl, rfl⟩ rfl rfl ?_ (not_installs (by simp)) ?_⟩
    · simp [Step.keep]
    · simp [Event.HandsOut, Step.keep]
  | setUseWebsocket b =>
    refine ⟨i, hmode, turn_of_quiet ⟨rfl, rfl, rfl⟩ rfl rfl ?_ (not_installs (by simp)) ?_⟩
    · simp [serve, Step.keep]
    · simp [Event.HandsOut, serve, Step.keep]
  | connect =>
    cases hstuck : i.isStuck w.now with
    | true =>
      simp only [serve, Step.map, connect_of_stuck hmode hstuck]
      refine ⟨_, rfl, turn_of_quiet ⟨rfl, rfl, rfl⟩ rfl rfl ?_ (not_installs (by simp)) ?_⟩
      · intro uri t
        cases i.stuckReported <;> simp
      · simp [Event.HandsOut, Except.map]
    | false =>
      simp only [serve, Step.map, connect_of_issuer hmode hstuck]
      refine ⟨_, rfl, turn_of_token rfl (not_installs (by simp)) ?_ ?_⟩
      · simp
      · simp [Event.HandsOut, Except.map, Mqtt.Options.make, eq_comm]

/-! ### Whole runs -/

/-- A run of credentials with a token is a trail of turns of their issuer. -/
theorem trail_run (hmode : c.mode = .token i tls) (history : List (World × Request)) :
    ∃ j, (c.after history).mode = .token j tls ∧ Step.Trail Turn i (c.run history) j :=
  Step.exists_trail (R := fun j (c : Credentials) => c.mode = .token j tls)
    (fun r hmode => turn_serve hmode r.1 r.2) hmode history

/-- What a trail of turns does to the issuer. -/
theorem course_of_turns {j : Issuer} {events : List Event} (h : Step.Trail Turn i events j) :
    Issuer.Course use i events j :=
  Issuer.course_of_trail Turn.toEffect h

/-- What a whole run does to the issuer of credentials with a token. -/
theorem issuer_of_run (hmode : c.mode = .token i tls) (history : List (World × Request)) :
    ∃ j, (c.after history).mode = .token j tls ∧ Issuer.Course use i (c.run history) j := by
  obtain ⟨j, hj, htrail⟩ := trail_run hmode history
  exact ⟨j, hj, course_of_turns htrail⟩

/-- An event of a run, with the issuers before it, after it and at the end. -/
theorem issuer_at (hmode : c.mode = .token i tls) {history : List (World × Request)}
    {before rest : List Event} {ev : Event} (hrun : c.run history = before ++ ev :: rest) :
    ∃ j k l, Issuer.Course use i before j ∧ Turn j ev k ∧ Issuer.Course use k rest l ∧
      (c.after history).mode = .token l tls := by
  obtain ⟨l, hl, htrail⟩ := trail_run hmode history
  rw [hrun] at htrail
  obtain ⟨j, hbefore, hrest⟩ := htrail.of_append
  obtain ⟨k, hturn, hlater⟩ := hrest.of_cons
  exact ⟨j, k, l, course_of_turns hbefore, hturn, course_of_turns hlater, hl⟩

end HubAuth.Credentials
