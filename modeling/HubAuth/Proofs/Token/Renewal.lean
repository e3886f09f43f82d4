import HubAuth.Proofs.Token.Run

/-! # Renewal

  What asking an issuer for its token does, whatever happened to the issuer
  before. A good token is given as it is. An expired one is replaced if there
  is a key: the new token is signed for the issuer's resource, and its expiry
  is the sum of clock, validity and skew, whatever token it replaces. It is
  good at that time and has another text than the one it replaces, because a
  text determines its expiry.

  * `token_renewal`: the contract of renewal, after every history.
-/

namespace HubAuth.Issuer

/-- What asking the issuer for its token does at a time. -/
structure RenewalContract (i : Issuer) (now : Instant) : Prop where
  /-- A good token is given as it is, and nothing else happens. -/
  fresh : now < i.current.expiry → i.token now = .keep i i.current.text
  /-- With a key an expired token is replaced. The one new entry of the log
      reports the renewal. -/
  renewed : ∀ key, i.deviceKey = some key → i.current.expiry ≤ now →
    i.token now =
      { state :=
          { i with current := .sign i.resourceUri key ((now.add i.validity).add i.renewalSkew) }
        value := (Token.sign i.resourceUri key ((now.add i.validity).add i.renewalSkew)).text
        log := [.renewed i.resourceUri ((now.add i.validity).add i.renewalSkew)] }
  /-- The text that is then given is that of a token which is good at that
      time and longer than the replaced one. -/
  good : i.deviceKey.isSome → i.current.expiry ≤ now →
    ∃ t, Token.parse (i.token now).value = .ok t ∧ now < t.expiry ∧ i.current.expiry < t.expiry
  /-- It is another text than that of the replaced token. -/
  differs : i.deviceKey.isSome → i.current.expiry ≤ now → (i.token now).value ≠ i.current.text
  /-- Without a key the token is given as it is, and the issuer is stuck exactly
      if the token has expired. -/
  keyless : i.deviceKey = none → i.token now = .keep i i.current.text ∧
    ((i.needsRenewal now).value = true ↔ i.current.expiry ≤ now)
  /-- Asking again at that time gives the same text, and nothing else happens. -/
  again : (i.token now).state.token now = .keep (i.token now).state (i.token now).value

/-- The text that an issuer with a key gives for an expired token is that of a
    token which is good. -/
theorem renewed_good {i : Issuer} (h : i.Sound) {now : Instant} (hnow : now < .last)
    (hkey : i.deviceKey.isSome) (hexpired : i.current.expiry ≤ now) :
    ∃ t, Token.parse (i.token now).value = .ok t ∧ now < t.expiry ∧ i.current.expiry < t.expiry := by
  have hstuck : i.isStuck now = false := by
    obtain ⟨key, hkey⟩ := Option.isSome_iff_exists.mp hkey
    simp [isStuck, hkey]
  have hlive := token_live h hnow hstuck
  refine ⟨(i.token now).state.current, ?_, hlive, ?_⟩
  · rw [token_value]
    exact Token.parse_text (sound_token h now).current
  · rw [Instant.lt_def] at hlive ⊢
    exact Int.lt_of_le_of_lt hexpired hlive

/-- The contract holds of every issuer with the invariant. -/
theorem renewalContract_of_sound {i : Issuer} (h : i.Sound) {now : Instant} (hnow : now < .last) :
    RenewalContract i now where
  fresh := token_of_live
  renewed := by
    intro key hkey hexpired
    exact token_of_expired hkey hexpired
  good := renewed_good h hnow
  differs := by
    intro hkey hexpired heq
    obtain ⟨t, hread, -, hlater⟩ := renewed_good h hnow hkey hexpired
    -- The same text would be read as the same token, with the same expiry.
    have hsame : Token.parse i.current.text = .ok t := by rw [← heq]; exact hread
    rw [Token.parse_text h.current] at hsame
    obtain rfl := Except.ok.inj hsame
    rw [Instant.lt_def] at hlater
    exact absurd hlater (Int.lt_irrefl _)
  keyless := by
    intro hkey
    refine ⟨token_of_keyless hkey, ?_⟩
    rw [needsRenewal_value, isStuck_iff]
    simp [hkey]
  again := token_again h hnow

/-- **Renewal**: whatever was asked of an issuer since it was built, at
    whatever times, asking for the token keeps the contract; and what a renewal
    depends on besides the clock and the validity is as it was built. -/
theorem token_renewal {i : Issuer} (built : i.Built) {history : List (Instant × Request)}
    (obtainable : ∀ r ∈ history, r.2.Obtainable) {now : Instant} (hnow : now < .last) :
    RenewalContract (i.after history) now ∧
      (i.after history).resourceUri = i.resourceUri ∧
      (i.after history).deviceKey = i.deviceKey ∧
      (i.after history).renewalSkew = i.renewalSkew := by
  have hsound : (i.after history).Sound := sound_after (sound_built built) obtainable
  exact ⟨renewalContract_of_sound hsound hnow, after_frame i history⟩

/-- A token from elsewhere is installed late, the clock goes back, the validity
    drops to nothing, and at the expiry of the token it is renewed. -/
theorem token_renewal_foreign :
    let i := ofKey ⟨0, by decide, by decide⟩ "h/devices/d" ⟨"QUJD", [65, 66, 67]⟩
      (.ofSecs 60) (.ofSecs 0)
    let history : List (Instant × Request) :=
      [(⟨1000, by decide, by decide⟩, .install .foreign), (⟨3, by decide, by decide⟩, .token),
        (⟨4, by decide, by decide⟩, .setValidity (.ofSecs 0))]
    let now : Instant := ⟨5, by decide, by decide⟩
    i.Built ∧ (∀ r ∈ history, r.2.Obtainable) ∧ now < .last ∧
      RenewalContract (i.after history) now ∧ (i.after history).current = .foreign ∧
      ((i.after history).token now).value ≠ Token.foreign.text := by
  intro i history now
  have hbuilt : i.Built := .ofKey _ _ _ _ _
  have hobtainable : ∀ r ∈ history, r.2.Obtainable := by
    intro r hr
    simp only [history, List.mem_cons, List.not_mem_nil, or_false] at hr
    rcases hr with rfl | rfl | rfl
    · exact Token.foreign_obtainable
    · trivial
    · trivial
  have hnow : now < .last := by decide
  have hcurrent : (i.after history).current = .foreign := rfl
  obtain ⟨contract, -, hkey, -⟩ := token_renewal hbuilt hobtainable hnow
  refine ⟨hbuilt, hobtainable, hnow, contract, hcurrent, ?_⟩
  rw [← hcurrent]
  apply contract.differs
  · rw [hkey]
    rfl
  · rw [hcurrent]
    decide

end HubAuth.Issuer
