import HubAuth.Proofs.Token.Run

/-! # Renewals are spaced and shared

  A renewal makes a token whose expiry lies in the future by the validity and
  the skew, and the next renewal waits for that expiry. Until then everybody who
  asks is given the same text, whatever the clock shows and whatever validity is
  asked for meanwhile.

  * `current_of_quiet`: without a renewal and an installation the token stays.
  * `quiet_before_expiry`: there is no renewal before the expiry.
  * `renewals_spaced`: both, for every renewal of every run.
-/

namespace HubAuth.Issuer

variable {i j k : Issuer} {events : List Event}

/-! ### After a renewal -/

/-- The expiry of a renewed token in seconds, if the clock is not before the
    epoch: the sum of clock, validity and skew, up to the last point of time. -/
theorem renewedExpiry_seconds {now : Instant} (hnow : 0 ≤ now.seconds) :
    (i.renewedExpiry now).seconds =
      min 9223372036854775807 (now.seconds + i.validity.secs + i.renewalSkew.secs) := by
  rw [renewedExpiry, Instant.add_seconds, Instant.add_seconds]
  unfold Instant.reach
  omega

/-- Without a renewal and an installation the current token stays, and everybody
    who asks for it is given its text. -/
theorem current_of_quiet (h : Step.Trail Turn i events j)
    (hquiet : ∀ ev ∈ events, ¬ev.Changes) :
    j.current = i.current ∧
      ∀ ev ∈ events, ev.request = .token → ev.step.value = .text i.current.text := by
  have hkeeps := h.keeps (P := fun a => a.current = i.current) ?_ rfl
  · obtain ⟨hend, haround⟩ := hkeeps
    refine ⟨hend, ?_⟩
    intro ev hev htoken
    obtain ⟨a, b, -, hturn, hb⟩ := haround ev hev
    rw [← hb]
    exact hturn.read htoken
  · intro a ev b hev hturn ha
    have hkept : b.current = a.current := hturn.kept (hquiet ev hev)
    exact hkept.trans ha

/-- Before the expiry of the current token it is not renewed, so without an
    installation nothing changes it. -/
theorem quiet_before_expiry (h : Step.Trail Turn i events j)
    (hinstalls : ∀ ev ∈ events, ¬ev.Installs)
    (hclock : ∀ ev ∈ events, ev.request = .token → ev.now < i.current.expiry) :
    ∀ ev ∈ events, ¬ev.Changes := by
  -- The token that is current around an event is the first one, so an event
  -- that renews it would find it good.
  have hnone : ∀ a ev b, ev ∈ events → Turn a ev b → a.current = i.current → ¬ev.Changes := by
    intro a ev b hev hturn ha hchanges
    rcases hchanges with hrenews | hinstall
    · obtain ⟨-, -, hexpired, -⟩ := hturn.renewed hrenews
      have hlive := hclock ev hev (hturn.asked hrenews)
      rw [ha] at hexpired
      exact absurd hexpired (Instant.not_le.mpr hlive)
    · exact hinstalls ev hev hinstall
  have hkeeps := h.keeps (P := fun a => a.current = i.current) ?_ rfl
  · intro ev hev
    obtain ⟨a, b, ha, hturn, -⟩ := hkeeps.2 ev hev
    exact hnone a ev b hev hturn ha
  · intro a ev b hev hturn ha
    have hkept : b.current = a.current := hturn.kept (hnone a ev b hev hturn ha)
    exact hkept.trans ha

/-! ### The contract -/

/-- What follows a renewal that gave a text and after which no other is due
    before a point of time. -/
structure Spaced (due : Instant) (text : String) (rest : List Event) : Prop where
  /-- The next renewal does not come before that time, and whoever asks in the
      meantime is given the text. -/
  next : ∀ between second later, rest = between ++ second :: later →
    (∀ ev ∈ between, ¬ev.Changes) → second.Renews →
    due ≤ second.now ∧ ∀ ev ∈ between, ev.request = .token → ev.step.value = .text text
  /-- Until a token is installed, whoever asks before that time is given the
      text, and nothing is renewed. -/
  shared : ∀ between later, rest = between ++ later →
    (∀ ev ∈ between, ¬ev.Installs) →
    (∀ ev ∈ between, ev.request = .token → ev.now < due) →
    ∀ ev ∈ between, ¬ev.Renews ∧ (ev.request = .token → ev.step.value = .text text)

/-- A trail that begins with a token is spaced by its expiry. -/
theorem spaced_of_trail (h : Step.Trail Turn i events j) :
    Spaced i.current.expiry i.current.text events where
  next := by
    intro between second later hsplit hquiet hrenews
    rw [hsplit] at h
    obtain ⟨k, hbetween, hrest⟩ := h.of_append
    obtain ⟨l, hturn, -⟩ := hrest.of_cons
    obtain ⟨hcurrent, hread⟩ := current_of_quiet hbetween hquiet
    obtain ⟨-, -, hexpired, -⟩ := hturn.renewed hrenews
    rw [hcurrent] at hexpired
    exact ⟨hexpired, hread⟩
  shared := by
    intro between later hsplit hinstalls hclock
    rw [hsplit] at h
    obtain ⟨k, hbetween, -⟩ := h.of_append
    have hquiet := quiet_before_expiry hbetween hinstalls hclock
    obtain ⟨-, hread⟩ := current_of_quiet hbetween hquiet
    intro ev hev
    have hrenews : ¬ev.Renews := fun hr => hquiet ev hev (.inl hr)
    exact ⟨hrenews, hread ev hev⟩

/-- **Renewals are spaced and shared**: whatever is asked of an issuer with a
    key, by however many callers and whichever way the clock goes, a renewal
    gives the text of a token that expires after the validity in force and the
    skew, of which a second counts at least. There is no other renewal before
    that, and until a token is installed or renewed all callers are given that
    text. -/
theorem renewals_spaced {start : Instant} {resourceUri : String} {key : DeviceKey}
    {validity skew : Duration} {history : List (Instant × Request)} {before rest : List Event}
    {first : Event}
    (hrun : (ofKey start resourceUri key validity skew).run history = before ++ first :: rest)
    (hfirst : first.Renews) (hnow : 0 ≤ first.now.seconds) :
    ∃ due : Instant,
      due.seconds = min 9223372036854775807
        (first.now.seconds + (Step.lastAsked Request.validity? validity before).secs
          + max 1 skew.secs) ∧
      first.step.value = .text (Token.sign resourceUri key due).text ∧
      Spaced due (Token.sign resourceUri key due).text rest := by
  have htrail := trail_run (ofKey start resourceUri key validity skew) history
  rw [hrun] at htrail
  obtain ⟨i, hbefore, hrest⟩ := htrail.of_append
  obtain ⟨j, hturn, hlater⟩ := hrest.of_cons
  have hcourse := course_of_turns hbefore
  obtain ⟨huri, hkey, hskew⟩ := hcourse.frame
  have hvalidity : i.validity = Step.lastAsked Request.validity? validity before :=
    hcourse.validity
  -- The token that the renewal leaves.
  obtain ⟨key', hkey', -, hsigned⟩ := hturn.renewed hfirst
  obtain rfl : key = key' := Option.some.inj (hkey.symm.trans hkey')
  have hcurrent : j.current = .sign resourceUri key (i.renewedExpiry first.now) := by
    rw [hsigned, huri]
    rfl
  refine ⟨i.renewedExpiry first.now, ?_, ?_, ?_⟩
  · rw [renewedExpiry_seconds hnow, hvalidity, hskew]
    show min _ (_ + ((skew.max minRenewalSkew).secs : Int)) = _
    rw [max_minRenewalSkew_secs]
  · rw [← hcurrent]
    exact hturn.read (hturn.asked hfirst)
  · have hspaced := spaced_of_trail hlater
    rw [hcurrent] at hspaced
    exact hspaced

/-- The first token has expired when it is asked for. The validity drops, the
    clock goes back and forth, and the next renewal is due at second 131. -/
theorem renewals_spaced_clock_back :
    let i := ofKey ⟨0, by decide, by decide⟩ "h/devices/d" ⟨"QUJD", [65, 66, 67]⟩
      ⟨60, 900000000⟩ (.ofSecs 0)
    let history : List (Instant × Request) :=
      [(⟨70, by decide, by decide⟩, .token), (⟨3, by decide, by decide⟩, .setValidity (.ofSecs 5)),
        (⟨130, by decide, by decide⟩, .token), (⟨1, by decide, by decide⟩, .token),
        (⟨131, by decide, by decide⟩, .token)]
    ∃ first rest, i.run history = [] ++ first :: rest ∧ first.Renews ∧ 0 ≤ first.now.seconds ∧
      ∃ due : Instant, due.seconds = 131 ∧
        first.step.value = .text (Token.sign "h/devices/d" ⟨"QUJD", [65, 66, 67]⟩ due).text ∧
        Spaced due (Token.sign "h/devices/d" ⟨"QUJD", [65, 66, 67]⟩ due).text rest := by
  intro i history
  let now : Instant := ⟨70, by decide, by decide⟩
  let first : Event := ⟨now, .token, i.serve now .token⟩
  have hrun : i.run history = [] ++ first :: first.step.state.run history.tail := rfl
  have hexpired : i.current.expiry ≤ now := by decide
  have hrenews : first.Renews := by
    refine ⟨i.resourceUri, i.renewedExpiry now, ?_⟩
    show _ ∈ (i.token now).log
    rw [token_of_expired rfl hexpired]
    exact List.mem_singleton.mpr rfl
  have hnow : 0 ≤ first.now.seconds := by decide
  obtain ⟨due, hdue, hminted, hspaced⟩ := renewals_spaced hrun hrenews hnow
  exact ⟨first, _, hrun, hrenews, hnow, due, hdue, hminted, hspaced⟩

end HubAuth.Issuer
