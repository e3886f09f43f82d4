import HubAuth.Config.Basic
import HubAuth.Proofs.History
import HubAuth.Proofs.Token.RoundTrip
import HubAuth.Token.Issuer

/-! # Issuers over time

  What every issuer has in common that was built and then used in any way, at
  any times: its current token could be had by a caller, and its renewal skew
  is at least a second. So a token that is renewed is good at that time, and
  asking again gives the same token.

  * `token_of_live`, `token_of_keyless`, `token_of_expired`: what asking for
    the token does, in three cases.
  * `sound_after`: the invariant, after every history.
  * `token_live`: unless the issuer is stuck, the token it gives is good.
-/

namespace HubAuth.Issuer

/-! ### Issuers and requests as they occur -/

/-- An issuer that has just been built. -/
inductive Built : Issuer → Prop
  /-- From a key. -/
  | ofKey (now : Instant) (resourceUri : String) (key : DeviceKey)
      (validity renewalSkew : Duration) : Built (ofKey now resourceUri key validity renewalSkew)
  /-- From a token. -/
  | ofToken {token : Token} (h : token.Obtainable) (validity : Duration) :
      Built (ofToken token validity)

/-- A request that a caller can make: a token that it brings is obtainable. -/
def Request.Obtainable : Request → Prop
  | .install t => t.Obtainable
  | _ => True

/-- The issuer after a history of requests, each at its time. -/
def after (i : Issuer) (history : List (Instant × Request)) : Issuer :=
  Step.stateAfter (fun i r => i.serve r.1 r.2) i history

/-! ### Asking for the token -/

theorem isExpiredAt_iff {t : Token} {now : Instant} :
    t.isExpiredAt now = true ↔ t.expiry ≤ now := by
  unfold Token.isExpiredAt
  exact decide_eq_true_iff

/-- A good token is given as it is. -/
theorem token_of_live {i : Issuer} {now : Instant} (h : now < i.current.expiry) :
    i.token now = .keep i i.current.text := by
  have hexpired : ¬i.current.isExpiredAt now = true := by
    rw [isExpiredAt_iff, Instant.not_le]
    exact h
  unfold token
  split
  · rw [if_neg hexpired]
  · rfl

/-- Without a key the token is given as it is. -/
theorem token_of_keyless {i : Issuer} {now : Instant} (h : i.deviceKey = none) :
    i.token now = .keep i i.current.text := by
  simp only [token, h]

/-- With a key an expired token is replaced, and that is logged. -/
theorem token_of_expired {i : Issuer} {now : Instant} {key : DeviceKey}
    (hkey : i.deviceKey = some key) (h : i.current.expiry ≤ now) :
    i.token now =
      { state := { i with current := .sign i.resourceUri key (i.renewedExpiry now) }
        value := (Token.sign i.resourceUri key (i.renewedExpiry now)).text
        log := [.renewed i.resourceUri (i.renewedExpiry now)] } := by
  simp only [token, hkey]
  rw [if_pos (isExpiredAt_iff.mpr h)]

/-- Asking for the token keeps the issuer, if the token is good or there is no
    key, and otherwise renews the token. -/
theorem token_cases (i : Issuer) (now : Instant) :
    ((now < i.current.expiry ∨ i.deviceKey = none) ∧ i.token now = .keep i i.current.text) ∨
    ∃ key, i.deviceKey = some key ∧ i.current.expiry ≤ now ∧
      i.token now =
        { state := { i with current := .sign i.resourceUri key (i.renewedExpiry now) }
          value := (Token.sign i.resourceUri key (i.renewedExpiry now)).text
          log := [.renewed i.resourceUri (i.renewedExpiry now)] } := by
  rcases Instant.lt_or_le now i.current.expiry with hlive | hexpired
  · exact .inl ⟨.inl hlive, token_of_live hlive⟩
  · rcases Option.eq_none_or_eq_some i.deviceKey with hkey | ⟨key, hkey⟩
    · exact .inl ⟨.inr hkey, token_of_keyless hkey⟩
    · exact .inr ⟨key, hkey, hexpired, token_of_expired hkey hexpired⟩

/-- Asking for the token gives the text of the token that is then current. -/
theorem token_value (i : Issuer) (now : Instant) :
    (i.token now).value = (i.token now).state.current.text := by
  rcases token_cases i now with ⟨-, h⟩ | ⟨key, -, -, h⟩
  · rw [h]
    rfl
  · rw [h]

/-! ### Asking whether the issuer is stuck -/

theorem isStuck_iff {i : Issuer} {now : Instant} :
    i.isStuck now = true ↔ i.deviceKey = none ∧ i.current.expiry ≤ now := by
  rw [isStuck, Bool.and_eq_true, Option.isNone_iff_eq_none, isExpiredAt_iff]

/-- A stuck issuer says so and remembers that it did. -/
theorem needsRenewal_of_stuck {i : Issuer} {now : Instant} (h : i.isStuck now = true) :
    i.needsRenewal now =
      { state := { i with stuckReported := true }
        value := true
        log := if i.stuckReported then [] else [.stuck i.resourceUri] } := by
  rw [needsRenewal, if_pos h]

/-- Any other issuer stays as it is. -/
theorem needsRenewal_of_not_stuck {i : Issuer} {now : Instant} (h : i.isStuck now = false) :
    i.needsRenewal now = .keep i false := by
  rw [needsRenewal, if_neg (by simp [h])]

theorem needsRenewal_value (i : Issuer) (now : Instant) :
    (i.needsRenewal now).value = i.isStuck now := by
  cases h : i.isStuck now with
  | true => rw [needsRenewal_of_stuck h]
  | false =>
    rw [needsRenewal_of_not_stuck h]
    rfl

/-! ### What requests keep -/

/-- No request changes what tokens are signed for, the key or the skew. -/
theorem serve_frame (i : Issuer) (now : Instant) (r : Request) :
    (i.serve now r).state.resourceUri = i.resourceUri ∧
      (i.serve now r).state.deviceKey = i.deviceKey ∧
      (i.serve now r).state.renewalSkew = i.renewalSkew := by
  cases r with
  | token =>
    simp only [serve, Step.map]
    rcases token_cases i now with ⟨-, h⟩ | ⟨key, -, -, h⟩
    · rw [h]
      exact ⟨rfl, rfl, rfl⟩
    · rw [h]
      exact ⟨rfl, rfl, rfl⟩
  | needsRenewal =>
    simp only [serve, Step.map, needsRenewal]
    split
    · exact ⟨rfl, rfl, rfl⟩
    · exact ⟨rfl, rfl, rfl⟩
  | current => exact ⟨rfl, rfl, rfl⟩
  | issue => exact ⟨rfl, rfl, rfl⟩
  | install token => exact ⟨rfl, rfl, rfl⟩
  | setValidity validity => exact ⟨rfl, rfl, rfl⟩

/-! ### Skews -/

/-- The whole seconds of a skew that is raised to at least a second. -/
theorem max_minRenewalSkew_secs (d : Duration) :
    (d.max minRenewalSkew).secs = max 1 d.secs := by
  have hn := d.nanos.isLt
  unfold Duration.max minRenewalSkew Duration.totalNanos Duration.ofSecs
  split
  · next h =>
    simp only at h ⊢
    omega
  · next h =>
    simp only at h
    omega

/-- The skew of a configuration is a second at least, so an issuer does not raise
    it. -/
theorem max_renewalSkew (c : Config) : c.renewalSkew.max minRenewalSkew = c.renewalSkew := by
  have hle : minRenewalSkew.totalNanos ≤ c.renewalSkew.totalNanos := by
    unfold minRenewalSkew Config.renewalSkew Duration.totalNanos Duration.ofSecs
    simp only [Fin.val_zero]
    omega
  rw [Duration.max, if_neg (Nat.not_lt.mpr hle)]

/-! ### The invariant -/

/-- What holds of an issuer at all times. -/
structure Sound (i : Issuer) : Prop where
  /-- The current token can be had by a caller. -/
  current : i.current.Obtainable
  /-- The renewal skew is at least a second. -/
  skew : 1 ≤ i.renewalSkew.secs

theorem sound_built {i : Issuer} (h : i.Built) : i.Sound := by
  cases h with
  | ofKey now resourceUri key validity renewalSkew =>
    have hskew : 1 ≤ (renewalSkew.max minRenewalSkew).secs := by
      rw [max_minRenewalSkew_secs]
      exact Nat.le_max_left 1 _
    exact ⟨.issue now resourceUri key validity, hskew⟩
  | ofToken htoken validity => exact ⟨htoken, Nat.le_refl 1⟩

theorem sound_token {i : Issuer} (h : i.Sound) (now : Instant) : (i.token now).state.Sound := by
  rcases token_cases i now with ⟨-, hkept⟩ | ⟨key, -, -, hrenewed⟩
  · rw [hkept]
    exact h
  · rw [hrenewed]
    exact ⟨.sign i.resourceUri key _, h.skew⟩

/-- The invariant does not look at the validity or at what was reported. -/
theorem sound_serve {i : Issuer} (h : i.Sound) (now : Instant) {r : Request}
    (hr : r.Obtainable) : (i.serve now r).state.Sound := by
  cases r with
  | token => exact sound_token h now
  | current => exact h
  | issue => exact h
  | install t =>
    have ht : t.Obtainable := hr
    exact ⟨ht, h.skew⟩
  | setValidity validity => exact ⟨h.current, h.skew⟩
  | needsRenewal =>
    simp only [serve, Step.map, needsRenewal]
    split
    · exact ⟨h.current, h.skew⟩
    · exact h

theorem sound_after {i : Issuer} (h : i.Sound) {history : List (Instant × Request)}
    (obtainable : ∀ r ∈ history, r.2.Obtainable) : (i.after history).Sound :=
  Step.stateAfter_induct (P := Sound) (Q := fun r => r.2.Obtainable)
    (fun _ r hr hs => sound_serve hs r.1 hr) h obtainable

/-! ### Renewed tokens are good -/

/-- A renewed token expires after the time of renewal. -/
theorem lt_renewedExpiry {i : Issuer} (h : i.Sound) {now : Instant} (hnow : now < .last) :
    now < i.renewedExpiry now := by
  -- Either sum stops at the last point of time, which is still after `now`.
  have hskew := h.skew
  have hlast : now.seconds < 9223372036854775807 := hnow
  rw [Instant.lt_def, renewedExpiry, Instant.add_seconds, Instant.add_seconds]
  unfold Instant.reach
  omega

/-- Unless the issuer is stuck, the token it gives is good. -/
theorem token_live {i : Issuer} (h : i.Sound) {now : Instant} (hnow : now < .last)
    (hstuck : i.isStuck now = false) : now < (i.token now).state.current.expiry := by
  rcases token_cases i now with ⟨hwhy, hkept⟩ | ⟨key, -, -, hrenewed⟩
  · rw [hkept]
    rcases hwhy with hlive | hkeyless
    · exact hlive
    · rw [← Instant.not_le]
      intro hexpired
      rw [isStuck_iff.mpr ⟨hkeyless, hexpired⟩] at hstuck
      cases hstuck
  · rw [hrenewed]
    exact lt_renewedExpiry h hnow

/-- Asking for the token again at the same time gives the same text and changes
    nothing more. -/
theorem token_again {i : Issuer} (h : i.Sound) {now : Instant} (hnow : now < .last) :
    (i.token now).state.token now = .keep (i.token now).state (i.token now).value := by
  rw [token_value]
  rcases Option.eq_none_or_eq_some i.deviceKey with hkey | ⟨key, hkey⟩
  · rw [token_of_keyless hkey]
    exact token_of_keyless hkey
  · have hstuck : i.isStuck now = false := by simp [isStuck, hkey]
    exact token_of_live (token_live h hnow hstuck)

end HubAuth.Issuer
