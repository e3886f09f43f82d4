import HubAuth.Proofs.Token.Issuer

/-! # Runs of issuers

  A run lists what callers asked and what came of it. It does not matter who
  the callers are or how many: they are served one at a time. Two kinds of
  events change the current token of an issuer, a renewal, which is reported in
  the log, and an installation. It makes no difference to the issuer whether
  callers ask it or something that it is a part of.

  * `course_of_trail`: what events do one by one, they do together.
  * `turn_serve`: what one request does to an issuer that is asked itself.
  * `trail_run`: a whole run is a trail of such turns.
-/

namespace HubAuth

/-- The current token was renewed. -/
def Step.Event.Renews {ω ρ σ α : Type} (ev : Step.Event ω ρ σ α) : Prop :=
  ∃ resourceUri expiry, .renewed resourceUri expiry ∈ ev.step.log

namespace Issuer

/-! ### Uses of an issuer -/

/-- How callers make use of an issuer. -/
structure Use (ω ρ σ α : Type) where
  /-- The clock. -/
  now : ω → Instant
  /-- The validity that a request puts in force, if it does. -/
  validity? : ρ → Option Duration
  /-- A token from elsewhere became the current one. -/
  Installs : Step.Event ω ρ σ α → Prop

section Use

variable {ω ρ σ α : Type} {u : Use ω ρ σ α} {i j k : Issuer} {ev : Step.Event ω ρ σ α}
  {events : List (Step.Event ω ρ σ α)}

/-- There is another current token than before. -/
def Use.Changes (u : Use ω ρ σ α) (ev : Step.Event ω ρ σ α) : Prop :=
  ev.Renews ∨ u.Installs ev

/-- What an event does to the issuer `i`, which is `j` afterwards. -/
structure Effect (u : Use ω ρ σ α) (i : Issuer) (ev : Step.Event ω ρ σ α) (j : Issuer) :
    Prop where
  /-- What tokens are signed for, the key and the skew stay. -/
  frame : j.resourceUri = i.resourceUri ∧ j.deviceKey = i.deviceKey ∧ j.renewalSkew = i.renewalSkew
  /-- The validity changes on request only. -/
  validity : j.validity = (u.validity? ev.request).getD i.validity
  /-- Nothing but a renewal or an installation changes the current token. -/
  kept : ¬u.Changes ev → j.current = i.current
  /-- A renewal signs an expired token anew. -/
  renewed : ev.Renews → ∃ key, i.deviceKey = some key ∧ i.current.expiry ≤ u.now ev.world ∧
    j.current = .sign i.resourceUri key (i.renewedExpiry (u.now ev.world))

/-- An event that reports no renewal. -/
theorem effect_of_no_renewal
    (frame : j.resourceUri = i.resourceUri ∧ j.deviceKey = i.deviceKey ∧
      j.renewalSkew = i.renewalSkew)
    (validity : j.validity = (u.validity? ev.request).getD i.validity)
    (kept : ¬u.Changes ev → j.current = i.current)
    (log : ∀ uri t, .renewed uri t ∉ ev.step.log) : Effect u i ev j where
  frame := frame
  validity := validity
  kept := kept
  renewed := by
    rintro ⟨uri, t, hmem⟩
    exact absurd hmem (log uri t)

/-- An event that asks the issuer for its token and reports what the issuer
    reports. -/
theorem effect_of_token (validity : u.validity? ev.request = none)
    (log : ∀ uri t, .renewed uri t ∈ ev.step.log ↔
      .renewed uri t ∈ (i.token (u.now ev.world)).log) :
    Effect u i ev (i.token (u.now ev.world)).state := by
  have hvalidity : i.validity = (u.validity? ev.request).getD i.validity := by
    rw [validity]
    rfl
  rcases token_cases i (u.now ev.world) with ⟨-, hkept⟩ | ⟨key, hkey, hexpired, hrenewed⟩
  · rw [hkept] at log ⊢
    refine effect_of_no_renewal ⟨rfl, rfl, rfl⟩ hvalidity (fun _ => rfl) ?_
    intro uri t hmem
    cases (log uri t).mp hmem
  · have hrenews : ev.Renews := by
      refine ⟨i.resourceUri, i.renewedExpiry (u.now ev.world), ?_⟩
      rw [log, hrenewed]
      exact List.mem_singleton.mpr rfl
    rw [hrenewed]
    exact {
      frame := ⟨rfl, rfl, rfl⟩
      validity := hvalidity
      kept := fun h => absurd (.inl hrenews) h
      renewed := fun _ => ⟨key, hkey, hexpired, rfl⟩ }

/-- What a run does to the issuer `i`, which is `j` afterwards. -/
structure Course (u : Use ω ρ σ α) (i : Issuer) (events : List (Step.Event ω ρ σ α))
    (j : Issuer) : Prop where
  /-- What tokens are signed for, the key and the skew stay. -/
  frame : j.resourceUri = i.resourceUri ∧ j.deviceKey = i.deviceKey ∧ j.renewalSkew = i.renewalSkew
  /-- The validity is the one that was asked for last. -/
  validity : j.validity = Step.lastAsked u.validity? i.validity events
  /-- Without a renewal and an installation the current token stays. -/
  kept : (∀ ev ∈ events, ¬u.Changes ev) → j.current = i.current

/-- An event and then a run. -/
theorem course_cons (first : Effect u i ev j) (rest : Course u j events k) :
    Course u i (ev :: events) k := by
  obtain ⟨huri, hkey, hskew⟩ := first.frame
  obtain ⟨huri', hkey', hskew'⟩ := rest.frame
  refine ⟨⟨huri'.trans huri, hkey'.trans hkey, hskew'.trans hskew⟩, ?_, ?_⟩
  · rw [rest.validity, first.validity]
    rfl
  · intro hquiet
    have hfirst : j.current = i.current := first.kept (hquiet ev List.mem_cons_self)
    have hrest : k.current = j.current :=
      rest.kept fun ev' hev' => hquiet ev' (List.mem_cons_of_mem ev hev')
    exact hrest.trans hfirst

/-- What events do one by one, they do together. -/
theorem course_of_trail {T : Issuer → Step.Event ω ρ σ α → Issuer → Prop}
    (effect : ∀ {i ev j}, T i ev j → Effect u i ev j) (h : Step.Trail T i events j) :
    Course u i events j := by
  induction h with
  | nil i => exact ⟨⟨rfl, rfl, rfl⟩, rfl, fun _ => rfl⟩
  | cons head tail ih => exact course_cons (effect head) ih

end Use

/-! ### Events -/

/-- One request of a run. -/
abbrev Event :=
  Step.Event Instant Request Issuer Answer

/-- The run that a history makes. -/
def run (i : Issuer) (history : List (Instant × Request)) : List Event :=
  Step.run serve i history

/-- The validity that a request puts in force, if it does. -/
def Request.validity? : Request → Option Duration
  | .setValidity v => some v
  | _ => none

namespace Event

/-- The clock. -/
abbrev now (ev : Event) : Instant :=
  ev.world

/-- A token from elsewhere became the current one. -/
def Installs (ev : Event) : Prop :=
  ∃ token, ev.request = .install token

end Event

/-- The issuer is asked itself. -/
abbrev use : Use Instant Request Issuer Answer where
  now := fun now => now
  validity? := Request.validity?
  Installs := Event.Installs

/-- There is another current token than before. -/
def Event.Changes (ev : Event) : Prop :=
  use.Changes ev

/-! ### One event -/

/-- What an event does to the issuer `i`, which is `j` afterwards, if the issuer
    is asked itself. -/
structure Turn (i : Issuer) (ev : Event) (j : Issuer) : Prop extends Effect use i ev j where
  /-- Who asks for the token is given the text of the one that is current then. -/
  read : ev.request = .token → ev.step.value = .text j.current.text
  /-- Only for somebody who asks for the token it is renewed. -/
  asked : ev.Renews → ev.request = .token

/-- Asking for the token renews it exactly if it has expired and there is a key. -/
theorem turn_token (i : Issuer) (now : Instant) :
    Turn i ⟨now, .token, i.serve now .token⟩ (i.serve now .token).state where
  toEffect := effect_of_token rfl fun _ _ => Iff.rfl
  read := by
    intro _
    show Answer.text (i.token now).value = .text (i.token now).state.current.text
    rw [token_value]
  asked := fun _ => rfl

/-- No other request renews the token. -/
theorem not_renews (i : Issuer) (now : Instant) {r : Request} (h : r ≠ .token)
    (uri : String) (t : Instant) : .renewed uri t ∉ (i.serve now r).log := by
  intro hmem
  cases r with
  | token => exact h rfl
  | current | issue | setValidity => simp [serve, Step.keep] at hmem
  | install token => simp [serve, Step.map, install] at hmem
  | needsRenewal =>
    -- What is reported here is at most that the token is dead.
    simp only [serve, Step.map, needsRenewal] at hmem
    split at hmem
    · cases hreported : i.stuckReported <;> simp [hreported] at hmem
    · simp [Step.keep] at hmem

/-- What one request does to an issuer. -/
theorem turn_serve (i : Issuer) (now : Instant) (r : Request) :
    Turn i ⟨now, r, i.serve now r⟩ (i.serve now r).state := by
  by_cases htoken : r = .token
  · subst htoken
    exact turn_token i now
  · have hlog := not_renews i now htoken
    refine ⟨effect_of_no_renewal (serve_frame i now r) ?_ ?_ hlog, fun h => absurd h htoken, ?_⟩
    · cases r with
      | token => exact absurd rfl htoken
      | current | issue | install | setValidity => rfl
      | needsRenewal =>
        simp only [serve, Step.map, needsRenewal]
        split
        · rfl
        · rfl
    · intro hquiet
      cases r with
      | token => exact absurd rfl htoken
      | current | issue | setValidity => rfl
      | install token => exact absurd (.inr ⟨token, rfl⟩) hquiet
      | needsRenewal =>
        simp only [serve, Step.map, needsRenewal]
        split
        · rfl
        · rfl
    · rintro ⟨uri, t, hmem⟩
      exact absurd hmem (hlog uri t)

/-! ### Whole runs -/

/-- A run is a trail of turns, and ends with the issuer that its history leaves. -/
theorem trail_run (i : Issuer) (history : List (Instant × Request)) :
    Step.Trail Turn i (i.run history) (i.after history) :=
  Step.trail_events (fun i => i) (fun i r => turn_serve i r.1 r.2) i history

/-- What a trail of turns does to an issuer. -/
theorem course_of_turns {i j : Issuer} {events : List Event} (h : Step.Trail Turn i events j) :
    Course use i events j :=
  course_of_trail Turn.toEffect h

/-- No history changes what tokens are signed for, the key or the skew. -/
theorem after_frame (i : Issuer) (history : List (Instant × Request)) :
    (i.after history).resourceUri = i.resourceUri ∧
      (i.after history).deviceKey = i.deviceKey ∧
      (i.after history).renewalSkew = i.renewalSkew :=
  (course_of_turns (trail_run i history)).frame

end Issuer

end HubAuth
