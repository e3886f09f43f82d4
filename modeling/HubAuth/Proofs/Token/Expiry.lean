import HubAuth.Proofs.Token.Spacing

/-! # The arithmetic of expiries

  When a token expires that is made at a time not before the epoch: the exact
  sum of the clock and the lengths of time that count, or the last point of time
  if the sum is later than that. One length counts for a new token, its
  validity, and a second one for a renewed token, the skew, of which at least a
  second counts. Either sum may stop at the end of the range, and then the
  result is that of one exact sum which stops there.

  * `add_mono`, `le_add`: sums of points of time and durations in order.
  * `expiry_of_minted`, `expiry_of_renewed`: the two expiries.
  * `expiries_saturate`: both, how they are ordered, and that a skew which has
    been raised to a second is not raised again.
-/

namespace HubAuth

/-! ### Sums in order -/

/-- A duration that is not longer has no more whole seconds. -/
theorem Duration.secs_le {d e : Duration} (h : d.totalNanos ≤ e.totalNanos) : d.secs ≤ e.secs := by
  have hd := d.nanos.isLt
  have he := e.nanos.isLt
  unfold Duration.totalNanos at h
  omega

namespace Instant

/-- If the clock is not before the epoch, the sum is exact up to the end of the
    range. -/
theorem add_seconds_of_nonneg {t : Instant} (h : 0 ≤ t.seconds) (d : Duration) :
    (t.add d).seconds = min 9223372036854775807 (t.seconds + d.secs) := by
  rw [add_seconds]
  unfold reach
  omega

/-- A later point of time, and no fewer seconds after it. -/
theorem add_mono {t u : Instant} {d e : Duration} (htu : t ≤ u) (hsecs : d.secs ≤ e.secs) :
    t.add d ≤ u.add e := by
  rw [le_def] at htu ⊢
  rw [add_seconds, add_seconds]
  unfold reach
  omega

/-- No sum is before its point of time. -/
theorem le_add (t : Instant) (d : Duration) : t ≤ t.add d := by
  have hlast := t.upper
  rw [le_def, add_seconds]
  omega

end Instant

namespace Issuer

variable {now later : Instant} {validity validity' skew skew' : Duration} {t u : Token}

/-! ### Tokens and their makers -/

/-- An issuer that was built with a key and a skew, after any history. -/
def BuiltWith (skew : Duration) (i : Issuer) : Prop :=
  ∃ start resourceUri key validity history,
    i = (ofKey start resourceUri key validity skew).after history

/-- A token that is made at a time to be good for a validity. -/
inductive Minted (now : Instant) (validity : Duration) : Token → Prop
  /-- By itself. -/
  | alone (resourceUri : String) (key : DeviceKey) :
      Minted now validity (.issue now resourceUri key validity)
  /-- As the first token of an issuer. -/
  | first (resourceUri : String) (key : DeviceKey) (skew : Duration) :
      Minted now validity (ofKey now resourceUri key validity skew).current
  /-- By an issuer that has this validity, beside its current token. -/
  | beside {i : Issuer} {t : Token} (hvalidity : i.validity = validity)
      (h : i.issue now = some t) : Minted now validity t

/-- A token that takes the place of an expired one, in an issuer that was built
    with a skew and has a validity. -/
inductive Renewed (now : Instant) (validity skew : Duration) : Token → Prop
  /-- When the issuer is asked for its token. -/
  | asked {i : Issuer} (hbuilt : BuiltWith skew i) (hvalidity : i.validity = validity)
      (hexpired : i.current.expiry ≤ now) :
      Renewed now validity skew (i.token now).state.current

/-! ### The two expiries -/

/-- A new token expires the validity later. -/
theorem expiry_of_minted (h : Minted now validity t) : t.expiry = now.add validity := by
  cases h with
  | alone resourceUri key => rfl
  | first resourceUri key skew => rfl
  | @beside i t hvalidity h =>
    obtain ⟨key, -, rfl⟩ := Option.map_eq_some_iff.mp h
    rw [← hvalidity]
    rfl

/-- A renewed token expires when an issuer with the validity and the skew renews,
    which has raised the skew to at least a second. -/
theorem expiry_of_renewed (h : Renewed now validity skew t) :
    ∃ i : Issuer, t.expiry = i.renewedExpiry now ∧ i.validity = validity ∧
      i.renewalSkew = skew.max minRenewalSkew := by
  cases h with
  | @asked i hbuilt hvalidity hexpired =>
    obtain ⟨start, resourceUri, key, first, history, rfl⟩ := hbuilt
    obtain ⟨-, hkey, hskew⟩ := after_frame (ofKey start resourceUri key first skew) history
    refine ⟨(ofKey start resourceUri key first skew).after history, ?_, hvalidity, ?_⟩
    · rw [token_of_expired hkey hexpired]
      rfl
    · rw [hskew]
      simp only [ofKey]

/-- So that is the sum of the clock, the validity and the skew, of which a second
    counts at least. -/
theorem expiry_of_renewed_seconds (hnow : 0 ≤ now.seconds) (h : Renewed now validity skew t) :
    t.expiry.seconds =
      min 9223372036854775807 (now.seconds + validity.secs + (max 1 skew.secs : Nat)) := by
  obtain ⟨i, hexpiry, hvalidity, hskew⟩ := expiry_of_renewed h
  rw [hexpiry, renewedExpiry_seconds hnow, hvalidity, hskew, max_minRenewalSkew_secs]

/-- A renewed token is not short of a new one. -/
theorem minted_le_renewed (hnew : Minted now validity t) (h : Renewed now validity skew u) :
    t.expiry ≤ u.expiry := by
  obtain ⟨i, hexpiry, rfl, -⟩ := expiry_of_renewed h
  rw [expiry_of_minted hnew, hexpiry]
  exact Instant.le_add _ _

/-! ### Skews -/

/-- An issuer raises the seconds of a configuration just as the configuration
    itself does. -/
theorem max_ofSecs (c : Config) :
    (Duration.ofSecs c.renewalSkewSecs).max minRenewalSkew = c.renewalSkew := by
  unfold Duration.max minRenewalSkew Config.renewalSkew Duration.totalNanos Duration.ofSecs
  simp only [Fin.val_zero]
  split
  · next h => rw [Nat.max_eq_right (by omega)]
  · next h => rw [Nat.max_eq_left (by omega)]

/-! ### All together -/

/-- How the expiries of tokens come about that are made at a time. -/
structure Saturates (now : Instant) : Prop where
  /-- That of a new token is the exact sum, up to the end of the range. -/
  minted : ∀ {validity t}, Minted now validity t →
    t.expiry.seconds = min 9223372036854775807 (now.seconds + validity.secs)
  /-- So is that of a renewed token. -/
  renewed : ∀ {validity skew t}, Renewed now validity skew t →
    t.expiry.seconds =
      min 9223372036854775807 (now.seconds + validity.secs + (max 1 skew.secs : Nat))
  /-- An issuer with a key makes a token when it is asked to. -/
  issues : ∀ i : Issuer, i.deviceKey.isSome → ∃ t, i.issue now = some t ∧ Minted now i.validity t
  /-- If its current token has expired, it gives the text of a renewed one. -/
  renews : ∀ (i : Issuer) (skew : Duration), BuiltWith skew i → i.current.expiry ≤ now →
    ∃ t, (i.token now).value = t.text ∧ Renewed now i.validity skew t
  /-- A new token that is made later, or with a longer validity, does not expire
      earlier. -/
  minted_mono : ∀ {later validity validity' t u}, now ≤ later →
    validity.totalNanos ≤ validity'.totalNanos →
    Minted now validity t → Minted later validity' u → t.expiry ≤ u.expiry
  /-- Nor does one that is renewed later, with a longer validity or skew. -/
  renewed_mono : ∀ {later validity validity' skew skew' t u}, now ≤ later →
    validity.totalNanos ≤ validity'.totalNanos → skew.totalNanos ≤ skew'.totalNanos →
    Renewed now validity skew t → Renewed later validity' skew' u → t.expiry ≤ u.expiry
  /-- A renewed token does not expire before a new one with the same validity. -/
  ordered : ∀ {validity skew t u}, Minted now validity t → Renewed now validity skew u →
    t.expiry ≤ u.expiry
  /-- Before the last point of time, a renewed token is good. -/
  good : ∀ {validity skew t}, now < .last → Renewed now validity skew t → now < t.expiry

/-- A skew that is raised to a second where it is configured, and again where the
    issuer is built, comes out as if it had been raised once. -/
structure RaisedOnce (c : Config) : Prop where
  /-- The second time changes nothing. -/
  again : c.renewalSkew.max minRenewalSkew = c.renewalSkew
  /-- The issuer is the same if only the second one is done. -/
  built : ∀ now resourceUri key validity,
    ofKey now resourceUri key validity c.renewalSkew
      = ofKey now resourceUri key validity (.ofSecs c.renewalSkewSecs)

theorem raisedOnce (c : Config) : RaisedOnce c where
  again := max_renewalSkew c
  built := by
    intro now resourceUri key validity
    unfold ofKey
    rw [max_renewalSkew, max_ofSecs]

/-- **Expiries saturate**: at every time from the epoch on, the expiries of new
    and of renewed tokens are exact sums that stop at the last point of time, and
    they never wrap round, whatever the durations are. -/
theorem expiries_saturate {now : Instant} (hnow : 0 ≤ now.seconds) :
    Saturates now ∧ ∀ c : Config, RaisedOnce c := by
  refine ⟨?_, raisedOnce⟩
  constructor
  case minted =>
    intro validity t h
    rw [expiry_of_minted h, Instant.add_seconds_of_nonneg hnow]
  case renewed =>
    intro validity skew t h
    exact expiry_of_renewed_seconds hnow h
  case issues =>
    intro i hkey
    obtain ⟨key, hkey⟩ := Option.isSome_iff_exists.mp hkey
    have hissue : i.issue now = some (.issue now i.resourceUri key i.validity) := by
      rw [issue, hkey, Option.map_some]
    exact ⟨_, hissue, .beside rfl hissue⟩
  case renews =>
    intro i skew hbuilt hexpired
    exact ⟨_, token_value i now, .asked hbuilt rfl hexpired⟩
  case minted_mono =>
    intro later validity validity' t u hlater hvalidity ht hu
    rw [expiry_of_minted ht, expiry_of_minted hu]
    exact Instant.add_mono hlater (Duration.secs_le hvalidity)
  case renewed_mono =>
    intro later validity validity' skew skew' t u hlater hvalidity hskew ht hu
    have hraised : (skew.max minRenewalSkew).secs ≤ (skew'.max minRenewalSkew).secs := by
      have hsecs := Duration.secs_le hskew
      rw [max_minRenewalSkew_secs, max_minRenewalSkew_secs]
      omega
    obtain ⟨i, hexpiry, rfl, hi⟩ := expiry_of_renewed ht
    obtain ⟨j, hexpiry', rfl, hj⟩ := expiry_of_renewed hu
    rw [hexpiry, hexpiry', renewedExpiry, renewedExpiry, hi, hj]
    exact Instant.add_mono (Instant.add_mono hlater (Duration.secs_le hvalidity)) hraised
  case ordered =>
    intro validity skew t u ht hu
    exact minted_le_renewed ht hu
  case good =>
    intro validity skew t hlast h
    have hsum := expiry_of_renewed_seconds hnow h
    have hbefore : now.seconds < 9223372036854775807 := hlast
    rw [Instant.lt_def, hsum]
    omega

/-- A second before the last point of time, a validity longer than the range and
    half a second of skew: both tokens expire at the end of the range. -/
theorem expiries_saturate_limit :
    let now : Instant := ⟨9223372036854775806, by decide, by decide⟩
    let key : DeviceKey := ⟨"QUJD", [65, 66, 67]⟩
    let longest : Duration := ⟨18446744073709551615, 999999999⟩
    let i := ofKey ⟨0, by decide, by decide⟩ "h/devices/d" key (.ofSecs 60) ⟨0, 500000000⟩
    0 ≤ now.seconds ∧
      (Token.issue now "h/devices/d" key longest).expiry.seconds = 9223372036854775807 ∧
      (∀ t, Renewed now (.ofSecs 0) ⟨0, 500000000⟩ t → t.expiry.seconds = 9223372036854775807) ∧
      ∃ t : Token, (i.token now).value = t.text ∧ t.expiry.seconds = 9223372036854775807 := by
  intro now key longest i
  have hnow : 0 ≤ now.seconds := by decide
  obtain ⟨saturates, -⟩ := expiries_saturate hnow
  have hbuilt : BuiltWith ⟨0, 500000000⟩ i := ⟨_, _, _, _, [], rfl⟩
  have hexpired : i.current.expiry ≤ now := by decide
  refine ⟨hnow, saturates.minted (.alone _ _), fun t h => saturates.renewed h, ?_⟩
  obtain ⟨t, htext, hrenewed⟩ := saturates.renews i _ hbuilt hexpired
  exact ⟨t, htext, saturates.renewed hrenewed⟩

end Issuer

end HubAuth
