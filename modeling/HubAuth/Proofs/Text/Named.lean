import Mathlib.Data.List.Basic

/-! # Named values

  Values in a row, each under a name. The same name may occur again; what
  counts are its values in their order.

  * `valuesOf_append`: the values of two rows one after the other.
  * `mem_valuesOf`, `valuesOf_eq_nil_iff`: which values there are.
-/

namespace HubAuth.Text

/-- The values under a name, in order. -/
def valuesOf (name : List Char) (ps : List (List Char × List Char)) : List (List Char) :=
  (ps.filter fun p => p.1 = name).map Prod.snd

variable {name value : List Char} {ps : List (List Char × List Char)}

theorem valuesOf_nil (name : List Char) : valuesOf name [] = [] := rfl

theorem valuesOf_cons_self (name value : List Char) (ps : List (List Char × List Char)) :
    valuesOf name ((name, value) :: ps) = value :: valuesOf name ps := by
  simp [valuesOf]

theorem valuesOf_cons_ne {n : List Char} (h : n ≠ name) (v : List Char)
    (ps : List (List Char × List Char)) : valuesOf name ((n, v) :: ps) = valuesOf name ps := by
  simp [valuesOf, h]

theorem valuesOf_append (name : List Char) (ps qs : List (List Char × List Char)) :
    valuesOf name (ps ++ qs) = valuesOf name ps ++ valuesOf name qs := by
  simp [valuesOf]

theorem mem_valuesOf : value ∈ valuesOf name ps ↔ (name, value) ∈ ps := by
  simp [valuesOf]

theorem valuesOf_eq_nil_iff : valuesOf name ps = [] ↔ name ∉ ps.map Prod.fst := by
  rw [List.eq_nil_iff_forall_not_mem, List.mem_map]
  simp [mem_valuesOf]

end HubAuth.Text
