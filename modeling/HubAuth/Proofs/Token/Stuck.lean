import HubAuth.Proofs.Token.Run

/-! # Dead tokens are reported once

  A token that has expired and cannot be renewed is dead. Whoever polls for that
  is told so every time, but the log says it once for each token. Issuers and
  credentials are polled in different ways; what matters of their events is the
  same, and it is all that a `Sighting` keeps of an event.

  * `Shows`: what one event does to what is watched.
  * `warnings_of_trail`: how often a dead token is reported while it stays.
  * `dead_of_trail`: while the clock does not go back and no good token comes,
    a dead token is followed by dead tokens only.
  * `watched_of_trail`: these together, for whatever is watched.
  * `shows_serve`: issuers are watched so.
-/

namespace HubAuth.Stuck

/-! ### What is watched -/

/-- What an event shows to somebody who watches for dead tokens. -/
structure Sighting where
  /-- The clock. -/
  now : Instant
  /-- Whether a dead token was found, if the event is a poll. -/
  poll : Option Bool
  /-- The token that was installed. -/
  installed : Option Token
  /-- The text that was given to somebody who asked for the token. -/
  read : Option String
  /-- What was logged. -/
  log : List Entry

/-- The event is a poll that finds a dead token. -/
def Sighting.FindsDead (s : Sighting) : Prop :=
  s.poll = some true

instance (s : Sighting) : Decidable s.FindsDead :=
  inferInstanceAs (Decidable (s.poll = some true))

/-- The entry reports that a token has expired and cannot be renewed. -/
def isWarning : Entry → Bool
  | .stuck _ => true
  | _ => false

/-- How often it is reported that a token is dead. -/
def warnings (sightings : List Sighting) : Nat :=
  (sightings.flatMap fun s => s.log).countP isWarning

@[simp] theorem warnings_nil : warnings [] = 0 := rfl

theorem warnings_cons (s : Sighting) (rest : List Sighting) :
    warnings (s :: rest) = s.log.countP isWarning + warnings rest := by
  rw [warnings, List.flatMap_cons, List.countP_append]
  rfl

/-- What matters of a state. -/
structure Standing where
  /-- The current token, if it cannot be renewed. -/
  held : Option Token
  /-- It has been reported that this token is dead. -/
  reported : Bool
  deriving DecidableEq, Repr

/-- There is a token that has expired and cannot be renewed. -/
def Standing.isDead (a : Standing) (now : Instant) : Bool :=
  a.held.any fun t => t.isExpiredAt now

theorem Standing.isDead_iff {a : Standing} {now : Instant} :
    a.isDead now = true ↔ ∃ t, a.held = some t ∧ t.expiry ≤ now := by
  unfold isDead
  cases a.held with
  | none => simp
  | some t => simp [Issuer.isExpiredAt_iff]

/-- What an event does to the standing `a`, which is `b` afterwards. -/
structure Shows (a : Standing) (s : Sighting) (b : Standing) : Prop where
  /-- A poll finds whether there is a dead token. -/
  poll : ∀ found, s.poll = some found → found = a.isDead s.now
  /-- It does not install any. -/
  apart : s.poll.isSome → s.installed = none
  /-- Only an installation changes a token that cannot be renewed. -/
  held : b.held = a.held.map fun t => s.installed.getD t
  /-- A poll that finds a dead token has it reported, and an installation takes
      that back. -/
  reported : b.reported = if s.installed.isSome then false else a.reported || s.FindsDead
  /-- A dead token is reported by a poll that finds it, unless it has been. -/
  warnings : s.log.countP isWarning = if s.FindsDead ∧ a.reported = false then 1 else 0
  /-- Who asks for the token is given the text of the one that is held. -/
  read : ∀ text t, s.read = some text → b.held = some t → text = t.text

variable {a b : Standing} {s : Sighting} {sightings : List Sighting}

theorem Shows.dead (h : Shows a s b) (hs : s.FindsDead) : a.isDead s.now = true :=
  (h.poll true hs).symm

/-- What an event shows that changes nothing: it finds no dead token if it is a
    poll, and it logs no warning. -/
theorem shows_of_quiet
    (poll : ∀ found, s.poll = some found → found = false ∧ a.isDead s.now = false)
    (installed : s.installed = none) (log : s.log.countP isWarning = 0)
    (read : ∀ text t, s.read = some text → a.held = some t → text = t.text) : Shows a s a := by
  have hdead : ¬s.FindsDead := by
    intro hs
    cases (poll true hs).1
  refine ⟨?_, fun _ => installed, ?_, ?_, ?_, read⟩
  · intro found hfound
    obtain ⟨hfalse, halive⟩ := poll found hfound
    rw [hfalse, halive]
  · simp [installed]
  · simp [installed, hdead]
  · simp [log, hdead]

/-- What an event shows that is none of those that matter. -/
theorem shows_of_idle (poll : s.poll = none) (installed : s.installed = none)
    (read : s.read = none) (log : s.log.countP isWarning = 0) : Shows a s a :=
  shows_of_quiet (by simp [poll]) installed log (by simp [read])

/-- What a poll shows that finds no dead token. -/
theorem shows_of_alive (poll : s.poll = some false) (halive : a.isDead s.now = false)
    (installed : s.installed = none) (read : s.read = none)
    (log : s.log.countP isWarning = 0) : Shows a s a := by
  refine shows_of_quiet ?_ installed log (by simp [read])
  intro found hfound
  exact ⟨Option.some.inj (hfound.symm.trans poll), halive⟩

/-- What a poll shows that finds a dead token. -/
theorem shows_of_dead (poll : s.poll = some true) (hdead : a.isDead s.now = true)
    (installed : s.installed = none) (read : s.read = none)
    (log : s.log.countP isWarning = if a.reported then 0 else 1) :
    Shows a s { a with reported := true } := by
  have hs : s.FindsDead := poll
  refine ⟨?_, fun _ => installed, ?_, ?_, ?_, by simp [read]⟩
  · intro found hfound
    rw [hdead]
    exact Option.some.inj (hfound.symm.trans poll)
  · simp [installed]
  · simp [installed, hs]
  · rw [log]
    cases a.reported with
    | false => simp [hs]
    | true => simp

/-- What an installation shows. -/
theorem shows_of_install {t : Token} (poll : s.poll = none) (installed : s.installed = some t)
    (read : s.read = none) (log : s.log.countP isWarning = 0) :
    Shows a s { held := a.held.map fun _ => t, reported := false } := by
  refine ⟨by simp [poll], by simp [poll], ?_, ?_, ?_, by simp [read]⟩
  · simp [installed]
  · simp [installed]
  · simp [log, Sighting.FindsDead, poll]

/-! ### While no token is installed -/

/-- Without an installation the token that is held stays, and it is what
    everybody is given who asks for the token. -/
theorem held_of_trail (h : Step.Trail Shows a sightings b)
    (hinstalled : ∀ s ∈ sightings, s.installed = none) :
    b.held = a.held ∧
      ∀ s ∈ sightings, ∃ c d, c.held = a.held ∧ Shows c s d ∧ d.held = a.held := by
  refine h.keeps (P := fun c => c.held = a.held) ?_ rfl
  intro c s d hs hshows hc
  rw [hshows.held, hinstalled s hs, hc]
  cases a.held with
  | none => rfl
  | some t => rfl

/-- Without an installation a dead token is reported once if a poll finds it,
    unless it has been reported before. -/
theorem warnings_of_trail (h : Step.Trail Shows a sightings b)
    (hinstalled : ∀ s ∈ sightings, s.installed = none) :
    b.reported = (a.reported || decide (∃ s ∈ sightings, s.FindsDead)) ∧
      warnings sightings
        = if a.reported = false ∧ ∃ s ∈ sightings, s.FindsDead then 1 else 0 := by
  induction h with
  | nil a => simp
  | @cons a c b s rest head tail ih =>
    have hnone : s.installed = none := hinstalled s List.mem_cons_self
    obtain ⟨hreported, hwarnings⟩ := ih fun s' hs' => hinstalled s' (List.mem_cons_of_mem s hs')
    have hc : c.reported = (a.reported || decide s.FindsDead) := by
      rw [head.reported, hnone]
      rfl
    rw [hreported, warnings_cons, hwarnings, head.warnings, hc]
    -- Either the flag is up, or the first event puts it up, or the rest may.
    by_cases hdead : s.FindsDead
    · cases a.reported <;> simp [hdead]
    · cases a.reported <;> simp [hdead]

/-- A token that can be renewed, or none at all, is never reported. -/
theorem quiet_of_trail (h : Step.Trail Shows a sightings b) (hheld : a.held = none) :
    warnings sightings = 0 := by
  induction h with
  | nil a => rfl
  | @cons a c b s rest head tail ih =>
    have hc : c.held = none := by rw [head.held, hheld]; rfl
    have hdead : ¬s.FindsDead := by
      intro hs
      obtain ⟨t, ht, -⟩ := Standing.isDead_iff.mp (head.dead hs)
      rw [hheld] at ht
      cases ht
    rw [warnings_cons, head.warnings, ih hc, if_neg (fun h => hdead h.1)]

/-! ### While no good token is installed -/

/-- If no event is later than `now` and no token is installed that is good at
    its time, a token that is dead by then is followed by such tokens only. -/
theorem dead_of_trail (h : Step.Trail Shows a sightings b) {now : Instant}
    (hclock : ∀ s ∈ sightings, s.now ≤ now)
    (hinstalled : ∀ s ∈ sightings, ∀ t, s.installed = some t → t.expiry ≤ s.now)
    (hdead : a.isDead now = true) : b.isDead now = true := by
  refine (h.keeps (P := fun c => c.isDead now = true) ?_ hdead).1
  intro c s d hs hshows hc
  obtain ⟨t, ht, hexpired⟩ := Standing.isDead_iff.mp hc
  refine Standing.isDead_iff.mpr ⟨s.installed.getD t, by rw [hshows.held, ht]; rfl, ?_⟩
  cases hnew : s.installed with
  | none => exact hexpired
  | some new =>
    have hexpired' : new.expiry ≤ s.now := hinstalled s hs new hnew
    have hnow : s.now ≤ now := hclock s hs
    exact Int.le_trans hexpired' hnow

/-! ### The contract -/

/-- A time during which one token is installed, as a part of what is seen: it
    starts at the beginning or after an installation, and no other token is
    installed in it. -/
structure Period (all before period : List Sighting) : Prop where
  /-- It follows what was seen before. -/
  part : ∃ after, all = before ++ period ++ after
  /-- What was seen before is nothing or ends with an installation. -/
  opens : before = [] ∨ ∃ earlier s, before = earlier ++ [s] ∧ s.installed.isSome = true
  /-- No other token is installed. -/
  closed : ∀ s ∈ period, s.installed = none

/-- What somebody sees who watches for dead tokens. -/
structure Watched (all : List Sighting) : Prop where
  /-- For every token that is installed it is reported once that it is dead, if a
      poll finds that, and otherwise never. -/
  once : ∀ before period, Period all before period →
    warnings period = if ∃ s ∈ period, s.FindsDead then 1 else 0
  /-- It is the first such poll that has it reported. -/
  first : ∀ before earlier s, Period all before (earlier ++ [s]) → s.FindsDead →
    (∀ s' ∈ earlier, ¬s'.FindsDead) → warnings [s] = 1
  /-- Once a poll has found a dead token, every later one does, if the clock does
      not go back and no token has been installed that was good at the time. -/
  lasting : ∀ before s between s' after, all = before ++ s :: (between ++ s' :: after) →
    s.FindsDead → (s :: (between ++ [s'])).Pairwise (fun x y => x.now ≤ y.now) →
    (∀ x ∈ between, ∀ t, x.installed = some t → t.expiry ≤ x.now) →
    ∀ found, s'.poll = some found → found = true
  /-- Once a poll has found a dead token, all who ask for the token while the same
      one is installed are given the same text, and it is the text of the token
      that was installed last. -/
  sameText : ∀ before period, Period all before period →
    (∃ s ∈ before ++ period, s.FindsDead) →
    ∃ text, (∀ s ∈ period, ∀ given, s.read = some given → given = text) ∧
      ∀ earlier s t, before = earlier ++ [s] → s.installed = some t → text = t.text

/-- A period begins with a token that has not been reported. -/
theorem trail_of_period {all before period : List Sighting} (h : Step.Trail Shows a all b)
    (ha : a.reported = false) (hperiod : Period all before period) :
    ∃ c d, c.reported = false ∧ Step.Trail Shows a before c ∧ Step.Trail Shows c period d := by
  obtain ⟨after, hall⟩ := hperiod.part
  rw [hall] at h
  obtain ⟨d, hd, -⟩ := h.of_append
  obtain ⟨c, hbefore, hc⟩ := hd.of_append
  refine ⟨c, d, ?_, hbefore, hc⟩
  rcases hperiod.opens with hnil | ⟨earlier, s, hlast, hinstalled⟩
  · subst hnil
    cases hbefore
    exact ha
  · rw [hlast] at hbefore
    obtain ⟨e, -, hs⟩ := hbefore.of_append
    obtain ⟨c', hshows, hnil⟩ := hs.of_cons
    cases hnil
    rw [hshows.reported, if_pos hinstalled]

/-- Where a poll finds a dead token there has been one that cannot be renewed all
    the time. -/
theorem held_of_dead (h : Step.Trail Shows a sightings b)
    (hdead : ∃ s ∈ sightings, s.FindsDead) : b.held.isSome = true := by
  have hkept : ∀ c s d, s ∈ sightings → Shows c s d → c.held.isSome = a.held.isSome →
      d.held.isSome = a.held.isSome := by
    intro c s d _ hshows hc
    rw [hshows.held, Option.isSome_map, hc]
  obtain ⟨hb, haround⟩ := h.keeps (P := fun c => c.held.isSome = a.held.isSome) hkept rfl
  obtain ⟨s, hs, hfound⟩ := hdead
  obtain ⟨c, d, hc, hshows, -⟩ := haround s hs
  obtain ⟨t, ht, -⟩ := Standing.isDead_iff.mp (hshows.dead hfound)
  rw [hb, ← hc, ht]
  rfl

/-- After an installation that token is held, if any is. -/
theorem held_of_install {s : Sighting} {t t' : Token} (h : Step.Trail Shows a (sightings ++ [s]) b)
    (installed : s.installed = some t) (held : b.held = some t') : t' = t := by
  obtain ⟨c, -, hlast⟩ := h.of_append
  obtain ⟨d, hshows, hnil⟩ := hlast.of_cons
  cases hnil
  rw [hshows.held, installed] at held
  obtain ⟨old, -, hnew⟩ := Option.map_eq_some_iff.mp held
  exact hnew.symm

/-- Whatever goes on as `Shows` says is seen as it should be. -/
theorem watched_of_trail {all : List Sighting} (h : Step.Trail Shows a all b)
    (ha : a.reported = false) : Watched all where
  once := by
    intro before period hperiod
    obtain ⟨c, d, hc, -, htrail⟩ := trail_of_period h ha hperiod
    obtain ⟨-, hwarnings⟩ := warnings_of_trail htrail hperiod.closed
    rw [hwarnings]
    simp only [hc, true_and]
  first := by
    intro before earlier s hperiod hs hearlier
    obtain ⟨c, d, hc, -, htrail⟩ := trail_of_period h ha hperiod
    obtain ⟨e, hfirst, hlast⟩ := htrail.of_append
    obtain ⟨d', hshows, -⟩ := hlast.of_cons
    obtain ⟨hreported, -⟩ := warnings_of_trail hfirst fun s' hs' =>
      hperiod.closed s' (List.mem_append_left [s] hs')
    have hnone : ¬∃ s ∈ earlier, s.FindsDead := by
      rintro ⟨s', hs', hdead⟩
      exact hearlier s' hs' hdead
    have he : e.reported = false := by simp [hreported, hc, hnone]
    rw [warnings_cons, hshows.warnings, if_pos ⟨hs, he⟩]
    rfl
  lasting := by
    intro before s between s' after hall hs hclock hinstalled found hfound
    rw [hall] at h
    obtain ⟨c, -, hrest⟩ := h.of_append
    obtain ⟨d, hshows, hrest⟩ := hrest.of_cons
    obtain ⟨e, hbetween, hrest⟩ := hrest.of_append
    obtain ⟨f, hshows', -⟩ := hrest.of_cons
    -- All of the events come no later than the second poll.
    obtain ⟨hfirst, hothers⟩ := List.pairwise_cons.mp hclock
    obtain ⟨-, -, hlater⟩ := List.pairwise_append.mp hothers
    have hs' : s.now ≤ s'.now := hfirst s' (by simp)
    obtain ⟨t, ht, hexpired⟩ := Standing.isDead_iff.mp (hshows.dead hs)
    have hpoll : s.poll.isSome := by rw [show s.poll = some true from hs]; rfl
    have hd : d.isDead s'.now = true := by
      refine Standing.isDead_iff.mpr ⟨t, ?_, Int.le_trans hexpired hs'⟩
      rw [hshows.held, hshows.apart hpoll, ht]
      rfl
    have he : e.isDead s'.now = true :=
      dead_of_trail hbetween (fun x hx => hlater x hx s' (by simp)) hinstalled hd
    rw [hshows'.poll found hfound, he]
  sameText := by
    intro before period hperiod hdead
    obtain ⟨c, d, -, hbefore, htrail⟩ := trail_of_period h ha hperiod
    obtain ⟨hd, haround⟩ := held_of_trail htrail hperiod.closed
    have hsome : d.held.isSome = true := held_of_dead (hbefore.append htrail) hdead
    obtain ⟨t, ht⟩ := Option.isSome_iff_exists.mp hsome
    refine ⟨t.text, ?_, ?_⟩
    · intro s hs given hread
      obtain ⟨e, f, -, hshows, hf⟩ := haround s hs
      exact hshows.read given t hread (hf.trans (hd.symm.trans ht))
    · intro earlier s new hlast hinstalled
      rw [hlast] at hbefore
      rw [held_of_install hbefore hinstalled (hd.symm.trans ht)]

end HubAuth.Stuck

/-! ### Issuers -/

namespace HubAuth.Issuer

open Stuck (Sighting Standing Shows Watched)

/-- What an event shows to somebody who watches for dead tokens. -/
def Event.sighting (ev : Event) : Sighting where
  now := ev.now
  poll := match ev.step.value with
    | .flag found => some found
    | _ => none
  installed := match ev.request with
    | .install token => some token
    | _ => none
  read := match ev.step.value with
    | .text text => some text
    | _ => none
  log := ev.step.log

/-- What matters of an issuer: with a key no token is ever dead. -/
def standing (i : Issuer) : Standing where
  held := if i.deviceKey.isNone then some i.current else none
  reported := i.stuckReported

theorem isDead_standing (i : Issuer) (now : Instant) : i.standing.isDead now = i.isStuck now := by
  unfold standing Standing.isDead isStuck
  cases i.deviceKey with
  | none => rfl
  | some key => rfl

theorem held_of_key {i : Issuer} (h : i.deviceKey.isSome = true) : i.standing.held = none := by
  obtain ⟨key, hkey⟩ := Option.isSome_iff_exists.mp h
  simp [standing, hkey]

/-- A renewal has nothing to do with tokens that cannot be renewed. -/
theorem standing_token (i : Issuer) (now : Instant) : (i.token now).state.standing = i.standing := by
  rcases token_cases i now with ⟨-, h⟩ | ⟨key, hkey, -, h⟩
  · rw [h]
    rfl
  · rw [h]
    simp [standing, hkey]

theorem countP_token (i : Issuer) (now : Instant) :
    (i.token now).log.countP Stuck.isWarning = 0 := by
  rcases token_cases i now with ⟨-, h⟩ | ⟨key, -, -, h⟩
  · rw [h]
    rfl
  · rw [h]
    rfl

/-- Who asks for the token is given the one that is held, if it cannot be
    renewed. -/
theorem read_token (i : Issuer) (now : Instant) {t : Token}
    (ht : i.standing.held = some t) : (i.token now).value = t.text := by
  unfold standing at ht
  cases hkey : i.deviceKey with
  | some key => simp [hkey] at ht
  | none =>
    rw [hkey] at ht
    obtain rfl : i.current = t := Option.some.inj ht
    rw [token_of_keyless hkey]
    rfl

/-- An issuer that was found stuck has that reported. -/
theorem standing_reported (i : Issuer) :
    standing { i with stuckReported := true } = { i.standing with reported := true } :=
  rfl

/-- An installation puts another token in the place of one that is held. -/
theorem standing_install (i : Issuer) (t : Token) :
    (i.install t).state.standing = { held := i.standing.held.map fun _ => t, reported := false } := by
  unfold standing install
  cases i.deviceKey with
  | none => rfl
  | some key => rfl

/-- What a poll shows, if it asks the issuer and logs the same warnings. -/
theorem shows_needsRenewal (i : Issuer) {s : Sighting} (poll : s.poll = some (i.isStuck s.now))
    (installed : s.installed = none) (read : s.read = none)
    (log : s.log.countP Stuck.isWarning = (i.needsRenewal s.now).log.countP Stuck.isWarning) :
    Shows i.standing s (i.needsRenewal s.now).state.standing := by
  cases hstuck : i.isStuck s.now with
  | false =>
    rw [needsRenewal_of_not_stuck hstuck] at log ⊢
    have halive : i.standing.isDead s.now = false := (isDead_standing i s.now).trans hstuck
    exact Stuck.shows_of_alive (poll.trans (congrArg some hstuck)) halive installed read log
  | true =>
    rw [needsRenewal_of_stuck hstuck] at log ⊢
    rw [standing_reported]
    refine Stuck.shows_of_dead (poll.trans (congrArg some hstuck)) ?_ installed read ?_
    · rw [isDead_standing, hstuck]
    · rw [log]
      show _ = if i.stuckReported then 0 else 1
      cases i.stuckReported with
      | false => rfl
      | true => rfl

/-- What somebody shows who asks for the token, if the same warnings are logged. -/
theorem shows_token (i : Issuer) {s : Sighting} (now : Instant) (poll : s.poll = none)
    (installed : s.installed = none)
    (log : s.log.countP Stuck.isWarning = (i.token now).log.countP Stuck.isWarning)
    (read : s.read = some (i.token now).value) :
    Shows i.standing s (i.token now).state.standing := by
  rw [standing_token]
  refine Stuck.shows_of_quiet (by simp [poll]) installed (log.trans (countP_token i now)) ?_
  intro text t htext ht
  obtain rfl : (i.token now).value = text := Option.some.inj (read.symm.trans htext)
  exact read_token i now ht

/-- What one request to an issuer shows. -/
theorem shows_serve (i : Issuer) (now : Instant) (r : Request) :
    Shows i.standing (Event.sighting ⟨now, r, i.serve now r⟩) (i.serve now r).state.standing := by
  cases r with
  | token => exact shows_token i now rfl rfl rfl rfl
  | needsRenewal =>
    refine shows_needsRenewal i ?_ rfl rfl rfl
    show some (i.needsRenewal now).value = some (i.isStuck now)
    rw [needsRenewal_value]
  | install t =>
    show Shows i.standing _ (i.install t).state.standing
    rw [standing_install]
    exact Stuck.shows_of_install rfl rfl rfl rfl
  | current | issue | setValidity => exact Stuck.shows_of_idle rfl rfl rfl rfl

/-- A run is a trail of what its events show. -/
theorem trail_sighting (i : Issuer) (history : List (Instant × Request)) :
    Step.Trail Shows i.standing ((i.run history).map Event.sighting)
      (i.after history).standing := by
  rw [run, Step.run, Step.map_events]
  exact Step.trail_events standing (fun i r => shows_serve i r.1 r.2) i history

/-- It has not been reported that the first token is dead. -/
theorem reported_built {i : Issuer} (h : i.Built) : i.standing.reported = false := by
  cases h with
  | ofKey => rfl
  | ofToken => rfl

end HubAuth.Issuer
