import HubAuth.Proofs.Token.Issuer

/-! # Tokens that differ in their signature

  Two issuers that differ in the bytes of their keys and in the signatures of
  their tokens cannot be told apart by what they report: both renew at the same
  times, until the same expiry, and log the same.

  * `Issuer.alike_token`, `Issuer.alike_needsRenewal`: both operations, side by side.
-/

namespace HubAuth

namespace Token

/-! ### Tokens -/

/-- Two texts of tokens for the same resource with the same expiry. -/
def SameClaims (s t : String) : Prop :=
  ∃ a b, parse s = .ok a ∧ parse t = .ok b ∧ a.resourceUri = b.resourceUri ∧ a.expiry = b.expiry

/-- Two tokens that differ at most in signature and text. Each is the one that
    its text stands for. -/
structure Alike (t u : Token) : Prop where
  /-- The text of the first stands for it. -/
  left : parse t.text = .ok t
  /-- The text of the second stands for it. -/
  right : parse u.text = .ok u
  /-- They are for the same resource. -/
  resourceUri : t.resourceUri = u.resourceUri
  /-- They expire at the same time. -/
  expiry : t.expiry = u.expiry

variable {t u : Token}

theorem Alike.sameClaims (h : Alike t u) : SameClaims t.text u.text :=
  ⟨t, u, h.left, h.right, h.resourceUri, h.expiry⟩

/-- Texts with the same claims are read as tokens that are alike. -/
theorem exists_alike {s s' : String} (h : SameClaims s s') :
    ∃ t u, parse s = .ok t ∧ parse s' = .ok u ∧ Alike t u := by
  obtain ⟨t, u, ht, hu, hresource, hexpiry⟩ := h
  have htext : t.text = s := text_of_parse ht
  have hutext : u.text = s' := text_of_parse hu
  refine ⟨t, u, ht, hu, ?_, ?_, hresource, hexpiry⟩
  · rw [htext]
    exact ht
  · rw [hutext]
    exact hu

/-- The key that signs shows in nothing but the signature. -/
theorem alike_sign (resourceUri : String) (k l : DeviceKey) (expiry : Instant) :
    Alike (sign resourceUri k expiry) (sign resourceUri l expiry) where
  left := parse_sign resourceUri k expiry
  right := parse_sign resourceUri l expiry
  resourceUri := rfl
  expiry := rfl

end Token

namespace Issuer

/-! ### Issuers -/

/-- Two issuers that differ at most in the bytes and the text of their keys and
    in the signature and the text of their tokens. -/
structure Alike (i j : Issuer) : Prop where
  /-- Tokens are signed for the same resource. -/
  resourceUri : i.resourceUri = j.resourceUri
  /-- Both have a key, or neither has. -/
  deviceKey : i.deviceKey.isSome = j.deviceKey.isSome
  /-- New tokens are good equally long. -/
  validity : i.validity = j.validity
  /-- Renewed tokens are good equally longer. -/
  renewalSkew : i.renewalSkew = j.renewalSkew
  /-- The current tokens are alike. -/
  current : Token.Alike i.current j.current
  /-- Both have reported that they are stuck, or neither has. -/
  stuckReported : i.stuckReported = j.stuckReported

variable {i j : Issuer}

theorem alike_ofKey (now : Instant) (resourceUri : String) (k l : DeviceKey)
    (validity renewalSkew : Duration) :
    Alike (ofKey now resourceUri k validity renewalSkew)
      (ofKey now resourceUri l validity renewalSkew) where
  resourceUri := rfl
  deviceKey := rfl
  validity := rfl
  renewalSkew := rfl
  current := Token.alike_sign resourceUri k l (now.add validity)
  stuckReported := rfl

theorem alike_ofToken {t u : Token} (h : Token.Alike t u) (validity : Duration) :
    Alike (ofToken t validity) (ofToken u validity) where
  resourceUri := h.resourceUri
  deviceKey := rfl
  validity := rfl
  renewalSkew := rfl
  current := h
  stuckReported := rfl

theorem Alike.describe (h : Alike i j) : i.describe = j.describe := by
  simp only [Issuer.describe, h.resourceUri, h.deviceKey, h.validity, h.renewalSkew]

theorem Alike.isStuck (h : Alike i j) (now : Instant) : i.isStuck now = j.isStuck now := by
  have hkey : i.deviceKey.isNone = j.deviceKey.isNone := by
    rw [← Option.not_isSome, ← Option.not_isSome, h.deviceKey]
  simp only [Issuer.isStuck, Token.isExpiredAt, hkey, h.current.expiry]

theorem Alike.renewedExpiry (h : Alike i j) (now : Instant) :
    i.renewedExpiry now = j.renewedExpiry now := by
  simp only [Issuer.renewedExpiry, h.validity, h.renewalSkew]

theorem Alike.install (h : Alike i j) {t u : Token} (htoken : Token.Alike t u) :
    Alike { i with current := t, stuckReported := false }
      { j with current := u, stuckReported := false } :=
  ⟨h.resourceUri, h.deviceKey, h.validity, h.renewalSkew, htoken, rfl⟩

theorem Alike.setValidity (h : Alike i j) (v : Duration) : Alike (i.setValidity v) (j.setValidity v) :=
  ⟨h.resourceUri, h.deviceKey, rfl, h.renewalSkew, h.current, h.stuckReported⟩

theorem Alike.reported (h : Alike i j) :
    Alike { i with stuckReported := true } { j with stuckReported := true } :=
  ⟨h.resourceUri, h.deviceKey, h.validity, h.renewalSkew, h.current, rfl⟩

/-- Both give their tokens as they are, or both renew them until the same expiry. -/
theorem alike_token (h : Alike i j) (now : Instant) :
    Step.Alike Alike Token.SameClaims (i.token now) (j.token now) := by
  -- Whether a token is renewed depends on its expiry and on whether there is a key,
  -- and until when on the clock, the validity and the skew: all these are the same.
  by_cases hlive : now < i.current.expiry
  · have hlive' : now < j.current.expiry := by
      rw [← h.current.expiry]
      exact hlive
    rw [token_of_live hlive, token_of_live hlive']
    exact ⟨h, h.current.sameClaims, rfl⟩
  · have hexpired : i.current.expiry ≤ now := by
      rcases Instant.lt_or_le now i.current.expiry with hlt | hle
      · exact absurd hlt hlive
      · exact hle
    have hexpired' : j.current.expiry ≤ now := by
      rw [← h.current.expiry]
      exact hexpired
    have hkeys := h.deviceKey
    cases hi : i.deviceKey with
    | none =>
      have hj : j.deviceKey = none := by
        rw [hi] at hkeys
        simpa using hkeys.symm
      rw [token_of_keyless hi, token_of_keyless hj]
      exact ⟨h, h.current.sameClaims, rfl⟩
    | some k =>
      obtain ⟨l, hj⟩ : ∃ l, j.deviceKey = some l := by
        rw [hi] at hkeys
        exact Option.isSome_iff_exists.mp hkeys.symm
      have hsigned : Token.Alike (.sign i.resourceUri k (i.renewedExpiry now))
          (.sign j.resourceUri l (j.renewedExpiry now)) := by
        rw [h.resourceUri, h.renewedExpiry]
        exact Token.alike_sign _ _ _ _
      rw [token_of_expired hi hexpired, token_of_expired hj hexpired']
      refine ⟨?_, hsigned.sameClaims, ?_⟩
      · exact ⟨h.resourceUri, h.deviceKey, h.validity, h.renewalSkew, hsigned, h.stuckReported⟩
      · simp only [h.resourceUri, h.renewedExpiry]

/-- Both say the same about being stuck, and report it at the same time. -/
theorem alike_needsRenewal (h : Alike i j) (now : Instant) :
    Step.Alike Alike (· = ·) (i.needsRenewal now) (j.needsRenewal now) := by
  have hstuck := h.isStuck now
  cases hi : i.isStuck now with
  | true =>
    have hj : j.isStuck now = true := hstuck.symm.trans hi
    rw [needsRenewal_of_stuck hi, needsRenewal_of_stuck hj]
    refine ⟨h.reported, rfl, ?_⟩
    simp only [h.resourceUri, h.stuckReported]
  | false =>
    have hj : j.isStuck now = false := hstuck.symm.trans hi
    rw [needsRenewal_of_not_stuck hi, needsRenewal_of_not_stuck hj]
    exact ⟨h, rfl, rfl⟩

end Issuer

end HubAuth
