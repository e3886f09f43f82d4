import HubAuth.Json.Skip
import HubAuth.Proofs.Json.Number
import HubAuth.Proofs.Json.Text

/-! # Skipping values of JSON

  Every value is skipped, however deep it is nested, and nothing behind it is
  touched. The machine that skips comes from a part of a row to what follows it
  in fewer steps than twice the characters of the part, so the steps it is given
  are enough.

  * `skips_row`: parts in a row, if each of them is skipped.
  * `skips_value`: values, by induction on their form.
  * `skip_of_value`: a value with white space in front of it.
-/

namespace HubAuth.Json

variable {a b cs part rest : List Char} {parts : List (List Char)} {n : Nat}
  {stack : List Bracket}

/-! ### White space, words and marks -/

theorem isSpace_iff {c : Char} : isSpace c = true ↔ c ∈ [' ', '\n', '\t', '\r'] := by
  simp [isSpace, or_assoc]

theorem skipSpace_append (h : Space a) (cs : List Char) : skipSpace (a ++ cs) = skipSpace cs :=
  List.dropWhile_append_of_pos fun c hc => isSpace_iff.mpr (h c hc)

theorem skipSpace_of_head {c : Char} (h : isSpace c = false) (cs : List Char) :
    skipSpace (c :: cs) = c :: cs :=
  List.dropWhile_cons_of_neg (by simp [h])

theorem skipSpace_skipSpace (cs : List Char) : skipSpace (skipSpace cs) = skipSpace cs := by
  have hhead := List.head?_dropWhile_not isSpace cs
  cases h : skipSpace cs with
  | nil => rfl
  | cons c ds =>
    rw [← skipSpace, h] at hhead
    exact skipSpace_of_head hhead ds

theorem word_eq_ok_iff {w : List Char} : word w cs = .ok rest ↔ cs = w ++ rest := by
  induction w generalizing cs with
  | nil =>
    rw [List.nil_append, word]
    exact ⟨Except.ok.inj, congrArg _⟩
  | cons c w ih =>
    cases cs with
    | nil => simp [word]
    | cons d ds =>
      rw [word, List.cons_append, List.cons.injEq]
      split
      · next h => rw [ih]; simp [h]
      · next h => simp [h]

theorem mark_of_space {m : Char} (ha : Space a) (hm : isSpace m = false) (rest : List Char) :
    mark m (a ++ m :: rest) = .ok rest := by
  rw [mark, skipSpace_append ha, skipSpace_of_head hm]
  exact word_eq_ok_iff.mpr rfl

/-! ### What follows a part -/

theorem ends_of_mark {m : Char} (h : m ∈ [',', ']', '\x7d']) (cs : List Char) : Ends (m :: cs) := by
  intro c hc
  obtain rfl := Option.some.inj hc
  simp only [List.mem_cons, List.not_mem_nil, or_false] at h
  rcases h with rfl | rfl | rfl
  · decide
  · decide
  · decide

theorem ends_append (hb : Space b) (h : Ends cs) : Ends (b ++ cs) := by
  cases b with
  | nil => exact h
  | cons d b =>
    intro c hc
    obtain rfl := Option.some.inj hc
    have hspace : ∀ e ∈ [' ', '\n', '\t', '\r'], e.isDigit = false ∧ e ≠ '.' ∧ e ≠ 'e' ∧ e ≠ 'E' := by
      simp
    exact hspace d (hb d List.mem_cons_self)

theorem closing_ends (k : Bracket) (cs : List Char) : Ends (k.closing :: cs) := by
  cases k with
  | array => exact ends_of_mark (by simp [Bracket.closing]) cs
  | object => exact ends_of_mark (by simp [Bracket.closing]) cs

theorem isSpace_closing (k : Bracket) : isSpace k.closing = false := by
  cases k <;> decide

/-! ### How a part begins -/

/-- The part begins with a character that is neither white space nor the mark. -/
def Begins (closing : Char) (part : List Char) : Prop :=
  ∃ c cs, part = c :: cs ∧ isSpace c = false ∧ c ≠ closing

/-- The characters with which values begin. -/
def valueHeads : List Char :=
  ['n', 't', 'f', '"', '[', '\x7b', '-', '0', '1', '2', '3', '4', '5', '6', '7', '8', '9']

theorem ne_of_digit {c d : Char} (h : c.isDigit = true) (hd : d.isDigit = false) : c ≠ d := by
  rintro rfl
  rw [h] at hd
  cases hd

theorem isSpace_of_digit {c : Char} (h : c.isDigit = true) : isSpace c = false := by
  rw [← Bool.not_eq_true, isSpace_iff]
  intro hspace
  have hmarks : ∀ d ∈ [' ', '\n', '\t', '\r'], d.isDigit = false := by simp
  rw [hmarks c hspace] at h
  cases h

theorem mem_valueHeads_of_digit {c : Char} (h : c.isDigit = true) : c ∈ valueHeads := by
  obtain ⟨hlt, hchar⟩ := Text.digitChar_of_digit? (Text.digit?_eq_some_iff.mpr ⟨h, rfl⟩)
  have hdigits : ∀ d < 10, Nat.digitChar d ∈ valueHeads := by decide
  rw [← hchar]
  exact hdigits _ hlt

theorem head_of_value (h : Value cs) : ∃ c ds, cs = c :: ds ∧ c ∈ valueHeads := by
  have hhead : ∃ c, cs.head? = some c ∧ c ∈ valueHeads := by
    rcases value_cases h with hword | hnumber | ⟨c, hc, hhead⟩
    · simp only [List.mem_cons, List.not_mem_nil, or_false] at hword
      rcases hword with rfl | rfl | rfl
      · exact ⟨'n', rfl, by decide⟩
      · exact ⟨'t', rfl, by decide⟩
      · exact ⟨'f', rfl, by decide⟩
    · obtain ⟨c, hhead, rfl | hdigit⟩ := head_of_number hnumber
      · exact ⟨'-', hhead, by decide⟩
      · exact ⟨c, hhead, mem_valueHeads_of_digit hdigit⟩
    · have hopening : ∀ d ∈ ['"', '[', '\x7b'], d ∈ valueHeads := by simp [valueHeads]
      exact ⟨c, hhead, hopening c hc⟩
  obtain ⟨c, hhead, hc⟩ := hhead
  obtain ⟨ds, hcs⟩ := List.head?_eq_some_iff.mp hhead
  exact ⟨c, ds, hcs, hc⟩

theorem value_begins (h : Value cs) : Begins ']' cs := by
  have hheads : ∀ c ∈ valueHeads, isSpace c = false ∧ c ≠ ']' := by simp [valueHeads, isSpace]
  obtain ⟨c, ds, hcs, hc⟩ := head_of_value h
  exact ⟨c, ds, hcs, hheads c hc⟩

theorem member_begins (m : Member) : Begins '\x7d' m.written :=
  ⟨'"', _, rfl, by decide, by decide⟩

theorem skipSpace_of_begins {closing : Char} (h : Begins closing part) (ha : Space a) :
    skipSpace (a ++ (part ++ rest)) = part ++ rest := by
  obtain ⟨c, ds, rfl, hc, -⟩ := h
  rw [skipSpace_append ha]
  exact skipSpace_of_head hc _

/-! ### Single steps -/

theorem skipFrom_simple (h : enter cs = .ok (none, rest)) :
    skipFrom (n + 1) stack .value cs = skipFrom n stack .more rest := by
  simp only [skipFrom, h, bind, Except.bind]

theorem skipFrom_open {k : Bracket} (h : enter cs = .ok (some k, rest)) :
    skipFrom (n + 1) stack .value cs = skipFrom n (k :: stack) .first rest := by
  simp only [skipFrom, h, bind, Except.bind]

theorem skipFrom_name (h : skipName cs = .ok rest) :
    skipFrom (n + 1) stack .name cs = skipFrom n stack .value rest := by
  simp only [skipFrom, h, bind, Except.bind]

theorem skipFrom_first_close (k : Bracket) (ha : Space a) :
    skipFrom (n + 1) (k :: stack) .first (a ++ k.closing :: rest) = skipFrom n stack .more rest := by
  rw [skipFrom, skipSpace_append ha, skipSpace_of_head (isSpace_closing k)]
  simp only [if_true]

theorem skipFrom_more_close (k : Bracket) (ha : Space a) :
    skipFrom (n + 1) (k :: stack) .more (a ++ k.closing :: rest) = skipFrom n stack .more rest := by
  rw [skipFrom, skipSpace_append ha, skipSpace_of_head (isSpace_closing k)]
  simp only [if_true]

theorem skipFrom_comma (k : Bracket) (ha : Space a) :
    skipFrom (n + 1) (k :: stack) .more (a ++ ',' :: rest)
      = skipFrom n (k :: stack) k.part rest := by
  have hcomma : ',' ≠ k.closing := by cases k <;> decide
  rw [skipFrom, skipSpace_append ha, skipSpace_of_head (by decide)]
  simp only [if_neg hcomma, if_true]

theorem enter_skipSpace (cs : List Char) : enter (skipSpace cs) = enter cs := by
  rw [enter, enter, skipSpace_skipSpace]

theorem skipName_skipSpace (cs : List Char) : skipName (skipSpace cs) = skipName cs := by
  rw [skipName, skipName, mark, mark, skipSpace_skipSpace]

/-- White space in front of a part does not matter. -/
theorem skipFrom_part_skipSpace (k : Bracket) (cs : List Char) :
    skipFrom n stack k.part (skipSpace cs) = skipFrom n stack k.part cs := by
  cases n with
  | zero => rfl
  | succ n =>
    cases k with
    | array => simp only [Bracket.part, skipFrom, enter_skipSpace]
    | object => simp only [Bracket.part, skipFrom, skipName_skipSpace]

/-- The first part is as any other. -/
theorem skipFrom_first {k : Bracket} {c : Char} {ds : List Char} (h : skipSpace cs = c :: ds)
    (hc : c ≠ k.closing) :
    skipFrom (n + 1) (k :: stack) .first cs = skipFrom n (k :: stack) k.part cs := by
  rw [← skipFrom_part_skipSpace k cs, skipFrom, h]
  simp only [if_neg hc]

/-! ### Rows -/

/-- From where the part is expected, with white space in front of it, the machine
    comes to what follows the part, and the steps that takes are bounded. -/
def Skips (e : Expected) (part : List Char) : Prop :=
  ∃ k < 2 * part.length, ∀ n stack a rest, Space a → Ends rest →
    skipFrom (n + k) stack e (a ++ (part ++ rest)) = skipFrom n stack .more rest

/-- If each part is skipped, so is the row, with the mark that closes it. -/
theorem skips_row {k : Bracket} (h : Row k.closing parts cs)
    (hparts : ∀ p ∈ parts, Skips k.part p) :
    ∃ m < 2 * cs.length, ∀ n stack rest,
      skipFrom (n + m) (k :: stack) k.part (cs ++ rest) = skipFrom n stack .more rest := by
  induction h with
  | @last a part b ha hb =>
    obtain ⟨m, hm, hskip⟩ := hparts part List.mem_cons_self
    refine ⟨m + 1, ?_, ?_⟩
    · simp only [List.length_append, List.length_cons, List.length_nil]
      omega
    · intro n stack rest
      have hends := ends_append hb (closing_ends k rest)
      have hfirst := hskip (n + 1) (k :: stack) a (b ++ k.closing :: rest) ha hends
      simp only [List.append_assoc, List.cons_append, List.nil_append]
      rw [show n + (m + 1) = n + 1 + m by omega, hfirst, skipFrom_more_close k hb]
  | @more a part b cs parts ha hb hrest ih =>
    rw [List.forall_mem_cons] at hparts
    obtain ⟨m, hm, hskip⟩ := hparts.1
    obtain ⟨m', hm', hskip'⟩ := ih hparts.2
    refine ⟨m + (1 + m'), ?_, ?_⟩
    · simp only [List.length_append, List.length_cons]
      omega
    · intro n stack rest
      have hends := ends_append hb (ends_of_mark (m := ',') (by simp) (cs ++ rest))
      have hfirst := hskip (n + m' + 1) (k :: stack) a (b ++ ',' :: (cs ++ rest)) ha hends
      simp only [List.append_assoc, List.cons_append]
      rw [show n + (m + (1 + m')) = n + m' + 1 + m by omega, hfirst, skipFrom_comma k hb, hskip']

/-- A row begins as its first part does. -/
theorem row_begins {closing : Char} (h : Row closing parts cs) (hparts : ∀ p ∈ parts, Begins closing p)
    (rest : List Char) : ∃ c ds, skipSpace (cs ++ rest) = c :: ds ∧ c ≠ closing := by
  have hfirst : ∃ a part tail, cs = a ++ (part ++ tail) ∧ Space a ∧ Begins closing part := by
    cases h with
    | last ha hb => exact ⟨_, _, _, rfl, ha, hparts _ List.mem_cons_self⟩
    | more ha hb hrest => exact ⟨_, _, _, rfl, ha, hparts _ List.mem_cons_self⟩
  obtain ⟨a, part, tail, rfl, ha, hbegins⟩ := hfirst
  rw [List.append_assoc, List.append_assoc, skipSpace_of_begins hbegins ha]
  obtain ⟨c, ds, rfl, -, hc⟩ := hbegins
  exact ⟨c, _, rfl, hc⟩

/-- The mark that opens a bracket. -/
def Bracket.opening : Bracket → Char
  | .array => '['
  | .object => '\x7b'

theorem enter_opening (k : Bracket) (ha : Space a) (rest : List Char) :
    enter (a ++ k.opening :: rest) = .ok (some k, rest) := by
  rw [enter, skipSpace_append ha]
  cases k with
  | array => rfl
  | object => rfl

/-- If each part is skipped, so are all of them in brackets. -/
theorem skips_enclosed {k : Bracket} (h : Enclosed k.opening k.closing parts cs)
    (hbegins : ∀ p ∈ parts, Begins k.closing p) (hparts : ∀ p ∈ parts, Skips k.part p) :
    Skips .value cs := by
  cases h with
  | @empty b hb =>
    refine ⟨2, ?_, ?_⟩
    · simp only [List.length_cons, List.length_append, List.length_nil]
      omega
    · intro n stack a rest ha hends
      have henter := enter_opening k ha (b ++ k.closing :: rest)
      simp only [List.cons_append, List.append_assoc, List.nil_append]
      rw [skipFrom_open henter, skipFrom_first_close k hb]
  | @parts parts cs h =>
    obtain ⟨m, hm, hskip⟩ := skips_row h hparts
    refine ⟨m + 2, ?_, ?_⟩
    · rw [List.length_cons]
      omega
    · intro n stack a rest ha hends
      obtain ⟨c, ds, hhead, hc⟩ := row_begins h hbegins rest
      rw [List.cons_append, show n + (m + 2) = n + m + 1 + 1 by omega,
        skipFrom_open (enter_opening k ha (cs ++ rest)), skipFrom_first hhead hc, hskip]

/-! ### Values -/

/-- A value that is skipped in one step. -/
theorem skips_of_enter (hne : cs ≠ [])
    (h : ∀ a rest, Space a → Ends rest → enter (a ++ (cs ++ rest)) = .ok (none, rest)) :
    Skips .value cs := by
  have hpos := List.length_pos_iff.mpr hne
  refine ⟨1, by omega, ?_⟩
  intro n stack a rest ha hends
  exact skipFrom_simple (h a rest ha hends)

theorem enter_word (h : cs ∈ ["null".toList, "true".toList, "false".toList]) (ha : Space a)
    (rest : List Char) : enter (a ++ (cs ++ rest)) = .ok (none, rest) := by
  rw [enter, skipSpace_append ha]
  simp only [List.mem_cons, List.not_mem_nil, or_false] at h
  rcases h with rfl | rfl | rfl
  · rfl
  · rfl
  · rfl

theorem enter_text (h : Quoted cs) (ha : Space a) (rest : List Char) :
    enter (a ++ ('"' :: cs ++ rest)) = .ok (none, rest) := by
  rw [enter, skipSpace_append ha, List.cons_append, skipSpace_of_head (by decide)]
  show (skipText (cs ++ rest)).map _ = _
  rw [skipText_of_quoted h]
  rfl

theorem enter_number (h : Number cs) (ha : Space a) (hends : Ends rest) :
    enter (a ++ (cs ++ rest)) = .ok (none, rest) := by
  obtain ⟨hsign, hwhole, hfraction, hexponent⟩ := h
  have hskip := skipNumber_of_parts hwhole hfraction hexponent hends
  simp only [List.append_assoc]
  rw [enter, skipSpace_append ha]
  rcases hsign with rfl | rfl
  · obtain ⟨⟨hne, hdigits⟩, -⟩ := hwhole
    obtain ⟨c, ds, rfl⟩ := List.exists_cons_of_ne_nil hne
    have hc := hdigits c List.mem_cons_self
    rw [List.nil_append, List.cons_append, skipSpace_of_head (isSpace_of_digit hc)]
    simp only [if_neg (ne_of_digit hc (show '['.isDigit = false by decide)),
      if_neg (ne_of_digit hc (show '\x7b'.isDigit = false by decide)),
      if_neg (ne_of_digit hc (show '"'.isDigit = false by decide)),
      if_neg (ne_of_digit hc (show '-'.isDigit = false by decide)), isDigit_eq, hc, if_true]
    rw [← List.cons_append, hskip]
    rfl
  · rw [List.singleton_append, skipSpace_of_head (by decide)]
    show (skipNumber _).map _ = _
    rw [hskip]
    rfl

theorem skipName_written {m : Member} (hname : Quoted m.name) (hbefore : Space m.before)
    (ha : Space a) (rest : List Char) :
    skipName (a ++ (m.written ++ rest)) = .ok (m.after ++ (m.value ++ rest)) := by
  unfold Member.written
  simp only [List.cons_append, List.append_assoc]
  simp only [skipName, mark_of_space ha (show isSpace '"' = false by decide),
    skipText_of_quoted hname, mark_of_space hbefore (show isSpace ':' = false by decide), bind,
    Except.bind]

/-- A member is skipped if its value is. -/
theorem skips_member {m : Member} (hname : Quoted m.name)
    (hspace : Space m.before ∧ Space m.after) (hvalue : Skips .value m.value) :
    Skips .name m.written := by
  obtain ⟨k, hk, hskip⟩ := hvalue
  refine ⟨k + 1, ?_, ?_⟩
  · simp only [Member.written, List.length_cons, List.length_append]
    omega
  · intro n stack a rest ha hends
    rw [← Nat.add_assoc, skipFrom_name (skipName_written hname hspace.1 ha rest)]
    exact hskip n stack m.after rest hspace.2 hends

/-- **Every value is skipped.** -/
theorem skips_value (h : Value cs) : Skips .value cs := by
  induction h with
  | word h =>
    apply skips_of_enter
    · rintro rfl
      exact absurd h (by decide)
    · exact fun a rest ha _ => enter_word h ha rest
  | number h =>
    apply skips_of_enter
    · obtain ⟨c, hhead, -⟩ := head_of_number h
      rintro rfl
      cases hhead
    · exact fun a rest ha hends => enter_number h ha hends
  | text h =>
    apply skips_of_enter
    · exact List.cons_ne_nil _ _
    · exact fun a rest ha _ => enter_text h ha rest
  | array hvalues h ih =>
    exact skips_enclosed (k := .array) h (fun v hv => value_begins (hvalues v hv)) ih
  | object hnames hspace hvalues h ih =>
    refine skips_enclosed (k := .object) h ?_ ?_
    · intro p hp
      obtain ⟨m, -, rfl⟩ := List.mem_map.mp hp
      exact member_begins m
    · intro p hp
      obtain ⟨m, hm, rfl⟩ := List.mem_map.mp hp
      exact skips_member (hnames m hm) (hspace m hm) (ih m hm)

theorem skip_of_value (h : Value cs) (ha : Space a) (hends : Ends rest) :
    skip (a ++ (cs ++ rest)) = .ok rest := by
  obtain ⟨k, hk, hskip⟩ := skips_value h
  obtain ⟨n, hn⟩ : ∃ n, 2 * (a ++ (cs ++ rest)).length + 2 = n + 1 + k := by
    refine ⟨2 * (a ++ (cs ++ rest)).length + 1 - k, ?_⟩
    simp only [List.length_append]
    omega
  rw [skip, hn, hskip (n + 1) [] a rest ha hends]
  rfl

end HubAuth.Json
