/-! # Cutting a list in two

  `cutAt` divides a list at its first separator, which belongs to neither
  part. Name and value of a connection-string segment and of a form field are
  told apart this way.

  * `cutAt_eq_some_iff`: the first part is the longest one without a
    separator, and the two parts with the separator between them are the
    list.
  * `cutAt_eq_none_iff`: there is no cut exactly when no separator occurs.
  * `append_sep_inj`: so a list with a separator has one first part.
-/

namespace HubAuth.Text

variable {α : Type} [DecidableEq α]

/-- What stands before and after the first `sep`, if there is one. -/
def cutAt (sep : α) : List α → Option (List α × List α)
  | [] => none
  | x :: xs =>
    if x = sep then some ([], xs)
    else (cutAt sep xs).map fun p => (x :: p.1, p.2)

/-- There is no cut exactly when the separator does not occur. -/
theorem cutAt_eq_none_iff {sep : α} {xs : List α} : cutAt sep xs = none ↔ sep ∉ xs := by
  induction xs with
  | nil => simp [cutAt]
  | cons x xs ih =>
    by_cases h : x = sep
    · simp [cutAt, h]
    · simp [cutAt, h, ih, Ne.symm h]

/-- A cut puts the separator between a part without separators and the rest. -/
theorem cutAt_eq_some_iff {sep : α} {xs before after : List α} :
    cutAt sep xs = some (before, after) ↔ sep ∉ before ∧ xs = before ++ sep :: after := by
  induction xs generalizing before with
  | nil => simp [cutAt]
  | cons x xs ih =>
    by_cases h : x = sep
    · subst h
      cases before with
      | nil => simp [cutAt, eq_comm]
      | cons b bs => simp [cutAt]; grind
    · cases before with
      | nil => simp [cutAt, h]
      | cons b bs =>
        simp only [cutAt, h, if_false, Option.map_eq_some_iff, Prod.exists]
        constructor
        · rintro ⟨p, q, hpq, heq⟩
          obtain ⟨⟨rfl, rfl⟩, rfl⟩ := by simpa using heq
          grind
        · rintro ⟨hn, heq⟩
          exact ⟨bs, after, ih.2 (by grind), by grind⟩

/-- What stands before the first separator, and what stands after it. -/
theorem append_sep_inj {sep : α} {as bs cs ds : List α} (ha : sep ∉ as) (hb : sep ∉ bs) :
    as ++ sep :: cs = bs ++ sep :: ds ↔ as = bs ∧ cs = ds := by
  constructor
  · intro h
    have hcut : cutAt sep (as ++ sep :: cs) = some (as, cs) := cutAt_eq_some_iff.mpr ⟨ha, rfl⟩
    have hcut' : cutAt sep (as ++ sep :: cs) = some (bs, ds) := cutAt_eq_some_iff.mpr ⟨hb, h⟩
    rw [hcut] at hcut'
    exact Prod.mk.inj (Option.some.inj hcut')
  · rintro ⟨rfl, rfl⟩
    rfl

end HubAuth.Text
