import HubAuth.Text.Cut
import HubAuth.Text.Quoted

/-! # Reading descriptions back

  Quoting loses nothing. The way in which a character is escaped shows where it
  ends and which character it is, so texts with the same quoted form are the
  same, and a record shows every value that one of its fields has.

  * `quoted_inj`: the quoted form tells a text.
  * `record_inj`: a record tells the value of a field.
-/

namespace HubAuth.Text

/-! ### Hexadecimal numbers -/

theorem digitChar_inj : ∀ d < 16, ∀ e < 16, Nat.digitChar d = Nat.digitChar e → d = e := by
  decide

theorem digitChar_ne_brace : ∀ d < 16, Nat.digitChar d ≠ '\x7d' := by
  decide

/-- The digits of a number are those of its sixteenth part and one more. -/
theorem hex_eq (n : Nat) :
    hex n = (if n < 16 then [] else hex (n / 16)) ++ [Nat.digitChar (n % 16)] := by
  unfold hex
  rw [Nat.toDigits_eq_if (by decide)]
  split
  · next hlt => rw [Nat.mod_eq_of_lt hlt, List.nil_append]
  · rfl

/-- The digits tell the number. -/
theorem hex_inj {m n : Nat} (h : hex m = hex n) : m = n := by
  induction m using Nat.strongRecOn generalizing n with
  | ind m ih =>
    rw [hex_eq m, hex_eq n] at h
    obtain ⟨hfirst, hlast⟩ := List.append_inj' h rfl
    have hdigit : m % 16 = n % 16 :=
      digitChar_inj _ (Nat.mod_lt m (by decide)) _ (Nat.mod_lt n (by decide)) (List.singleton_inj.mp hlast)
    -- The other digits are those of smaller numbers.
    split at hfirst
    · split at hfirst
      · omega
      · exact absurd hfirst.symm Nat.toDigits_ne_nil
    · split at hfirst
      · exact absurd hfirst Nat.toDigits_ne_nil
      · have hrest := ih (m / 16) (by omega) hfirst
        omega

theorem brace_not_mem_hex (n : Nat) : '\x7d' ∉ hex n := by
  induction n using Nat.strongRecOn with
  | ind n ih =>
    rw [hex_eq, List.mem_append, List.mem_singleton]
    rintro (h | h)
    · split at h
      · cases h
      · exact ih (n / 16) (by omega) h
    · exact digitChar_ne_brace (n % 16) (Nat.mod_lt n (by decide)) h.symm

/-! ### One character -/

/-- The character that a short name after a backslash stands for. -/
def named (c : Char) : Char :=
  if c = '0' then '\x00'
  else if c = 't' then '\t'
  else if c = 'n' then '\n'
  else if c = 'r' then '\r'
  else c

/-- The three ways in which a character is shown. -/
inductive Shown : Char → List Char → Prop
  /-- By a name after a backslash. -/
  | short (name : Char) (hname : name ≠ 'u') : Shown (named name) ['\\', name]
  /-- By its code point. -/
  | code (c : Char) : Shown c ('\\' :: 'u' :: '\x7b' :: (hex c.toNat ++ ['\x7d']))
  /-- As itself. -/
  | plain {c : Char} (hc : c ≠ '\\') : Shown c [c]

theorem shown_escape (apostrophe : Bool) (c : Char) : Shown c (escape apostrophe c) := by
  unfold escape
  split
  · next hc => exact hc ▸ .short '0' (by decide)
  · split
    · next hc => exact hc ▸ .short 't' (by decide)
    · split
      · next hc => exact hc ▸ .short 'n' (by decide)
      · split
        · next hc => exact hc ▸ .short 'r' (by decide)
        · split
          · next hself =>
            rcases hself with rfl | rfl | ⟨-, rfl⟩
            · exact .short '"' (by decide)
            · exact .short '\\' (by decide)
            · exact .short '\'' (by decide)
          · next hself =>
            split
            · exact .code c
            · exact .plain fun heq => hself (.inr (.inl heq))

/-- What is shown says which character it shows, and where it ends. -/
theorem eq_of_shown {c d : Char} {xs ys r s : List Char} (hc : Shown c xs) (hd : Shown d ys)
    (h : xs ++ r = ys ++ s) : c = d ∧ r = s := by
  cases hc with
  | short name hname =>
    cases hd with
    | short name' hname' =>
      simp only [List.cons_append, List.nil_append, List.cons.injEq, true_and] at h
      exact ⟨congrArg named h.1, h.2⟩
    | code d =>
      simp only [List.cons_append, List.nil_append, List.cons.injEq, true_and] at h
      exact absurd h.1 hname
    | plain hd =>
      simp only [List.cons_append, List.nil_append, List.cons.injEq] at h
      exact absurd h.1.symm hd
  | code c =>
    cases hd with
    | short name' hname' =>
      simp only [List.cons_append, List.nil_append, List.cons.injEq, true_and] at h
      exact absurd h.1.symm hname'
    | code d =>
      simp only [List.cons_append, List.append_assoc, List.nil_append, List.cons.injEq, true_and] at h
      -- Both are cut at the brace that ends the code point.
      obtain ⟨hhex, hrest⟩ := (append_sep_inj (brace_not_mem_hex _) (brace_not_mem_hex _)).mp h
      exact ⟨Char.toNat_inj.mp (hex_inj hhex), hrest⟩
    | plain hd =>
      simp only [List.cons_append, List.nil_append, List.cons.injEq] at h
      exact absurd h.1.symm hd
  | plain hc =>
    cases hd with
    | short name' hname' =>
      simp only [List.cons_append, List.nil_append, List.cons.injEq] at h
      exact absurd h.1 hc
    | code d =>
      simp only [List.cons_append, List.nil_append, List.cons.injEq] at h
      exact absurd h.1 hc
    | plain hd =>
      simp only [List.cons_append, List.nil_append, List.cons.injEq] at h
      exact h

/-! ### Whole texts -/

theorem escape_ne_nil (apostrophe : Bool) (c : Char) : escape apostrophe c ≠ [] := by
  have hshown := shown_escape apostrophe c
  intro h
  rw [h] at hshown
  cases hshown

theorem flatMap_escape_inj {apostrophe : Bool} {xs ys : List Char}
    (h : xs.flatMap (escape apostrophe) = ys.flatMap (escape apostrophe)) : xs = ys := by
  induction xs generalizing ys with
  | nil =>
    cases ys with
    | nil => rfl
    | cons y ys =>
      have hnil := List.append_eq_nil_iff.mp h.symm
      exact absurd hnil.1 (escape_ne_nil apostrophe y)
  | cons x xs ih =>
    cases ys with
    | nil =>
      have hnil := List.append_eq_nil_iff.mp h
      exact absurd hnil.1 (escape_ne_nil apostrophe x)
    | cons y ys =>
      obtain ⟨hhead, htail⟩ := eq_of_shown (shown_escape apostrophe x) (shown_escape apostrophe y) h
      rw [hhead, ih htail]

/-- Texts with the same quoted form are the same. -/
theorem quoted_inj {s t : String} : quoted s = quoted t ↔ s = t := by
  constructor
  · intro h
    have hlist := String.ofList_injective h
    have hinner := List.append_cancel_right (List.cons.inj hlist).2
    exact String.toList_inj.mp (flatMap_escape_inj hinner)
  · rintro rfl
    rfl

/-! ### Records -/

theorem optional_some_inj {s t : String} : optional (some s) = optional (some t) ↔ s = t := by
  rw [optional, optional, String.append_left_inj, String.append_right_inj]

theorem intercalate_inj (sep : String) (before after : List String) {v w : String} :
    String.intercalate sep (before ++ v :: after) = String.intercalate sep (before ++ w :: after) ↔
      v = w := by
  induction before with
  | nil =>
    cases after with
    | nil => simp only [List.nil_append, String.intercalate_singleton]
    | cons x after =>
      simp only [List.nil_append, String.intercalate_cons_cons, String.append_left_inj]
  | cons x before ih =>
    -- What stands before the value is the same, and something follows it.
    cases before with
    | nil =>
      simp only [List.cons_append, List.nil_append, String.intercalate_cons_cons,
        String.append_right_inj]
      exact ih
    | cons y before =>
      simp only [List.cons_append, String.intercalate_cons_cons, String.append_right_inj] at ih ⊢
      exact ih

/-- Records that differ at most in the value of one field are told apart by it. -/
theorem record_inj (name : String) (before : List (String × String)) (field : String)
    (after : List (String × String)) {v w : String} :
    record name (before ++ (field, v) :: after) = record name (before ++ (field, w) :: after) ↔
      v = w := by
  simp only [record, List.map_append, List.map_cons, String.append_left_inj,
    String.append_right_inj, intercalate_inj]

end HubAuth.Text
