import HubAuth.Proofs.Text.Named
import HubAuth.Token.Basic

/-! # Fields of tokens

  The fields of a token are taken up one after the other. What is left of them
  are the last values under three names; nothing else about them counts.

  * `put_ok`: what one field does.
  * `putAll_ok`: what all of them leave.
-/

namespace HubAuth.Token

open Text (valuesOf valuesOf_append valuesOf_cons_ne)

namespace Fields

variable {f g : Fields} {name value : List Char} {ps : List (List Char × List Char)}

/-! ### One field -/

/-- What taking up one field does. -/
theorem put_ok (h : f.put name value = .ok g) :
    (name = "sr".toList ∧ g = { f with resourceUri := some (String.ofList value) }) ∨
    (name = "sig".toList ∧ g = { f with signature := some (String.ofList value) }) ∨
    (name = "se".toList ∧ ∃ t, Instant.ofText? value = some t ∧ g = { f with expiry := some t }) ∨
    (name ≠ "sr".toList ∧ name ≠ "sig".toList ∧ name ≠ "se".toList ∧ g = f) := by
  unfold put at h
  split at h
  · next hsr => exact .inl ⟨hsr, (Except.ok.inj h).symm⟩
  · next hsr =>
    split at h
    · next hsig => exact .inr (.inl ⟨hsig, (Except.ok.inj h).symm⟩)
    · next hsig =>
      split at h
      · next hse =>
        split at h
        · next t ht => exact .inr (.inr (.inl ⟨hse, t, ht, (Except.ok.inj h).symm⟩))
        · cases h
      · next hse => exact .inr (.inr (.inr ⟨hsr, hsig, hse, (Except.ok.inj h).symm⟩))

/-- Taking up `ps` into `f` leaves `g`: under each name the last value, or else
    the one from before. Every expiry was a point of time. -/
structure Leaves (f : Fields) (ps : List (List Char × List Char)) (g : Fields) : Prop where
  /-- The expiries. -/
  times : ∀ v ∈ valuesOf "se".toList ps, ∃ t, Instant.ofText? v = some t
  /-- The resource. -/
  resourceUri : g.resourceUri
    = ((valuesOf "sr".toList ps).getLast?.map String.ofList).or f.resourceUri
  /-- The signature. -/
  signature : g.signature
    = ((valuesOf "sig".toList ps).getLast?.map String.ofList).or f.signature
  /-- The expiry. -/
  expiry : g.expiry = ((valuesOf "se".toList ps).getLast?.bind Instant.ofText?).or f.expiry

/-- One field leaves its value, if it has one of the names. -/
theorem leaves_put (h : f.put name value = .ok g) : Leaves f [(name, value)] g := by
  rcases put_ok h with ⟨rfl, rfl⟩ | ⟨rfl, rfl⟩ | ⟨rfl, t, ht, rfl⟩ | ⟨hsr, hsig, hse, rfl⟩
  · exact ⟨by simp [valuesOf], by simp [valuesOf], by simp [valuesOf], by simp [valuesOf]⟩
  · exact ⟨by simp [valuesOf], by simp [valuesOf], by simp [valuesOf], by simp [valuesOf]⟩
  · exact ⟨by simp [valuesOf, ht], by simp [valuesOf], by simp [valuesOf], by simp [valuesOf, ht]⟩
  · constructor
    · rw [valuesOf_cons_ne hse]
      simp [valuesOf]
    · rw [valuesOf_cons_ne hsr]
      rfl
    · rw [valuesOf_cons_ne hsig]
      rfl
    · rw [valuesOf_cons_ne hse]
      rfl

/-! ### All of them -/

/-- Of the values before and after, the last is left. -/
theorem leaves_trans {qs : List (List Char × List Char)} {k : Fields} (first : Leaves f ps g)
    (rest : Leaves g qs k) : Leaves f (ps ++ qs) k := by
  constructor
  · rw [valuesOf_append, List.forall_mem_append]
    exact ⟨first.times, rest.times⟩
  · rw [rest.resourceUri, first.resourceUri, valuesOf_append, List.getLast?_append, Option.map_or,
      Option.or_assoc]
  · rw [rest.signature, first.signature, valuesOf_append, List.getLast?_append, Option.map_or,
      Option.or_assoc]
  · rw [rest.expiry, first.expiry, valuesOf_append, List.getLast?_append]
    cases hlast : (valuesOf "se".toList qs).getLast? with
    | none => rfl
    | some v =>
      obtain ⟨t, ht⟩ := rest.times v (List.mem_of_getLast? hlast)
      simp [ht]

/-- What is left when all fields have been taken up. -/
theorem putAll_ok (h : f.putAll ps = .ok g) : Leaves f ps g := by
  induction ps generalizing f with
  | nil =>
    obtain rfl := Except.ok.inj h
    exact ⟨by simp [valuesOf], rfl, rfl, rfl⟩
  | cons p ps ih =>
    cases hput : f.put p.1 p.2 with
    | error e =>
      rw [putAll, hput] at h
      cases h
    | ok f' =>
      rw [putAll, hput] at h
      exact leaves_trans (leaves_put hput) (ih h)

end Fields

end HubAuth.Token
