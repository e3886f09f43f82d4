import HubAuth.Json.Number
import Mathlib.Data.List.Forall2

/-! # The grammar of JSON

  Which texts are JSON values, as rules on the text and without the readers.
  Numbers have no leading zeros and no bare points. Texts have escapes, of which
  a code unit is any four hexadecimal digits. Arrays and objects have their parts
  in a row, with commas between them and white space wherever it may stand, and
  may be nested to any depth.

  A name is a text of which the characters are known: it is written with these
  characters or with escapes for them.

  * `Value`: the values.
  * `Object`: an object together with the names and values of its members.
  * `value_cases`: what a value is, by its first character.
-/

namespace HubAuth.Json

/-! ### White space -/

/-- White space between the parts of a text. -/
def Space (cs : List Char) : Prop :=
  ∀ c ∈ cs, c ∈ [' ', '\n', '\t', '\r']

/-! ### Numbers -/

/-- One decimal digit or more. -/
def SomeDigits (cs : List Char) : Prop :=
  cs ≠ [] ∧ ∀ c ∈ cs, c.isDigit = true

/-- The digits before the point. A zero is not followed by others. -/
def Whole (cs : List Char) : Prop :=
  SomeDigits cs ∧ (cs.head? = some '0' → cs = ['0'])

/-- A point and digits, or nothing. -/
inductive Fraction : List Char → Prop
  /-- There is no point. -/
  | none : Fraction []
  /-- Digits stand after the point. -/
  | point {cs : List Char} (h : SomeDigits cs) : Fraction ('.' :: cs)

/-- A power of ten, or nothing. -/
inductive Exponent : List Char → Prop
  /-- There is no power of ten. -/
  | none : Exponent []
  /-- Digits stand after the letter and at most one sign. -/
  | power {letter : Char} {sign cs : List Char} (hletter : letter = 'e' ∨ letter = 'E')
      (hsign : sign = [] ∨ sign = ['+'] ∨ sign = ['-']) (h : SomeDigits cs) :
      Exponent (letter :: (sign ++ cs))

/-- A number. -/
inductive Number : List Char → Prop
  /-- The parts in their order. -/
  | parts {sign whole fraction exponent : List Char} (hsign : sign = [] ∨ sign = ['-'])
      (hwhole : Whole whole) (hfraction : Fraction fraction) (hexponent : Exponent exponent) :
      Number (sign ++ (whole ++ (fraction ++ exponent)))

/-! ### Texts -/

/-- A hexadecimal digit in either case, and its value. -/
def Hex (c : Char) (n : Nat) : Prop :=
  "0123456789abcdef".toList[n]? = some c ∨ "0123456789ABCDEF".toList[n]? = some c

/-- Four hexadecimal digits and their value. -/
inductive Hex4 : List Char → Nat → Prop
  /-- The most significant digit is the first. -/
  | digits {a b c d : Char} {k l m n : Nat} (ha : Hex a k) (hb : Hex b l) (hc : Hex c m)
      (hd : Hex d n) : Hex4 [a, b, c, d] (((k * 16 + l) * 16 + m) * 16 + n)

/-- The characters that have a short escape, after the letter that is written for
    them. -/
def shortEscapes : List (Char × Char) :=
  [('"', '"'), ('\\', '\\'), ('/', '/'), ('b', '\x08'), ('f', '\x0c'), ('n', '\n'), ('r', '\r'),
    ('t', '\t')]

/-- A character that may be written as it is. -/
def Plain (c : Char) : Prop :=
  ' ' ≤ c ∧ c ≠ '"' ∧ c ≠ '\\'

/-- What a text consists of. -/
inductive Item : List Char → Prop
  /-- A character. -/
  | plain {c : Char} (h : Plain c) : Item [c]
  /-- A short escape. -/
  | short {letter c : Char} (h : (letter, c) ∈ shortEscapes) : Item ['\\', letter]
  /-- A code unit. -/
  | unit {cs : List Char} {n : Nat} (h : Hex4 cs n) : Item ('\\' :: 'u' :: cs)

/-- A text after the quote that opens it, up to and with the one that closes it. -/
inductive Quoted : List Char → Prop
  /-- The end. -/
  | close : Quoted ['"']
  /-- One item more in front. -/
  | item {i cs : List Char} (h : Item i) (rest : Quoted cs) : Quoted (i ++ cs)

/-- A character and a way to write it. -/
inductive Spelled : Char → List Char → Prop
  /-- As it is. -/
  | plain {c : Char} (h : Plain c) : Spelled c [c]
  /-- As a short escape. -/
  | short {letter c : Char} (h : (letter, c) ∈ shortEscapes) : Spelled c ['\\', letter]
  /-- As its code unit. -/
  | unit {c : Char} {cs : List Char} (h : Hex4 cs c.toNat) : Spelled c ('\\' :: 'u' :: cs)
  /-- As its two code units, if it has two. -/
  | pair {c : Char} {cs ds : List Char} (h : 0x10000 ≤ c.toNat)
      (high : Hex4 cs (0xD800 + (c.toNat - 0x10000) / 0x400))
      (low : Hex4 ds (0xDC00 + (c.toNat - 0x10000) % 0x400)) :
      Spelled c ('\\' :: 'u' :: (cs ++ '\\' :: 'u' :: ds))

/-- A text with the given characters, after the quote that opens it, up to and
    with the one that closes it. -/
inductive Named : List Char → List Char → Prop
  /-- The end. -/
  | close : Named [] ['"']
  /-- One character more in front. -/
  | char {c : Char} {i name cs : List Char} (h : Spelled c i) (rest : Named name cs) :
      Named (c :: name) (i ++ cs)

/-- A name may begin with plain characters as they are. -/
theorem named_append_of_plain {name cs pre : List Char} (hpre : ∀ c ∈ pre, Plain c)
    (h : Named name cs) : Named (pre ++ name) (pre ++ cs) := by
  induction pre with
  | nil => exact h
  | cons c pre ih =>
    rw [List.forall_mem_cons] at hpre
    exact .char (i := [c]) (.plain hpre.1) (ih hpre.2)

/-! ### Parts in a row -/

/-- Parts with commas between them and white space around them, up to and with
    the mark that closes the row. -/
inductive Row (closing : Char) : List (List Char) → List Char → Prop
  /-- The last part. -/
  | last {a part b : List Char} (ha : Space a) (hb : Space b) :
      Row closing [part] (a ++ (part ++ (b ++ [closing])))
  /-- One part more in front. -/
  | more {a part b cs : List Char} {parts : List (List Char)} (ha : Space a) (hb : Space b)
      (rest : Row closing parts cs) : Row closing (part :: parts) (a ++ (part ++ (b ++ ',' :: cs)))

/-- Parts in a row after the mark that opens it, or no part. -/
inductive Enclosed (opening closing : Char) : List (List Char) → List Char → Prop
  /-- There is no part. -/
  | empty {a : List Char} (ha : Space a) : Enclosed opening closing [] (opening :: (a ++ [closing]))
  /-- There is one at least. -/
  | parts {parts : List (List Char)} {cs : List Char} (h : Row closing parts cs) :
      Enclosed opening closing parts (opening :: cs)

/-! ### Values -/

/-- A member of an object as it is written. -/
structure Member where
  /-- The name after the quote that opens it, up to and with the one that closes
      it. -/
  name : List Char
  /-- What stands before the colon. -/
  before : List Char
  /-- What stands after the colon. -/
  after : List Char
  /-- The value. -/
  value : List Char

/-- The whole text of a member. -/
def Member.written (m : Member) : List Char :=
  '"' :: (m.name ++ (m.before ++ ':' :: (m.after ++ m.value)))

/-- A value. -/
inductive Value : List Char → Prop
  /-- One of three words. -/
  | word {cs : List Char} (h : cs ∈ ["null".toList, "true".toList, "false".toList]) : Value cs
  /-- A number. -/
  | number {cs : List Char} (h : Number cs) : Value cs
  /-- A text. -/
  | text {cs : List Char} (h : Quoted cs) : Value ('"' :: cs)
  /-- An array of values. -/
  | array {values : List (List Char)} {cs : List Char} (hvalues : ∀ v ∈ values, Value v)
      (h : Enclosed '[' ']' values cs) : Value cs
  /-- An object of members. -/
  | object {members : List Member} {cs : List Char} (hnames : ∀ m ∈ members, Quoted m.name)
      (hspace : ∀ m ∈ members, Space m.before ∧ Space m.after)
      (hvalues : ∀ m ∈ members, Value m.value)
      (h : Enclosed '\x7b' '\x7d' (members.map Member.written) cs) : Value cs

/-- The member has this name and this value. -/
structure Member.States (m : Member) (stated : List Char × List Char) : Prop where
  /-- The characters of its name. -/
  name : Named stated.1 m.name
  /-- White space stands before the colon. -/
  before : Space m.before
  /-- White space stands after the colon. -/
  after : Space m.after
  /-- The text of its value. -/
  same : m.value = stated.2
  /-- It is well formed. -/
  value : Value stated.2

/-- An object of which the members have the given names and values. -/
def Object (stated : List (List Char × List Char)) (cs : List Char) : Prop :=
  ∃ members : List Member, List.Forall₂ Member.States members stated ∧
    Enclosed '\x7b' '\x7d' (members.map Member.written) cs

/-! ### How values begin -/

variable {cs : List Char} {parts : List (List Char)}

theorem head_of_enclosed {opening closing : Char} (h : Enclosed opening closing parts cs) :
    cs.head? = some opening := by
  cases h with
  | empty ha => rfl
  | parts h => rfl

theorem head_of_number (h : Number cs) :
    ∃ c, cs.head? = some c ∧ (c = '-' ∨ c.isDigit = true) := by
  obtain ⟨hsign, hwhole, -, -⟩ := h
  rcases hsign with rfl | rfl
  · obtain ⟨⟨hne, hdigits⟩, -⟩ := hwhole
    obtain ⟨c, ds, rfl⟩ := List.exists_cons_of_ne_nil hne
    exact ⟨c, rfl, .inr (hdigits c List.mem_cons_self)⟩
  · exact ⟨'-', rfl, .inl rfl⟩

/-- A value that is neither a word nor a number shows by its first character what
    it is. -/
theorem value_cases (h : Value cs) :
    cs ∈ ["null".toList, "true".toList, "false".toList] ∨ Number cs ∨
      ∃ c ∈ ['"', '[', '\x7b'], cs.head? = some c := by
  cases h with
  | word h => exact .inl h
  | number h => exact .inr (.inl h)
  | text h => exact .inr (.inr ⟨'"', by simp, rfl⟩)
  | array hvalues h => exact .inr (.inr ⟨'[', by simp, head_of_enclosed h⟩)
  | object hnames hspace hvalues h => exact .inr (.inr ⟨'\x7b', by simp, head_of_enclosed h⟩)

end HubAuth.Json
