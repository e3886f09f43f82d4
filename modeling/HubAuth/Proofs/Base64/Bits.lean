import HubAuth.Proofs.Base64.RoundTrip
import Mathlib.Data.List.Basic

/-! # Bits

  What symbols mean, said without groups of four: a symbol stands for the six
  bits of its place in the alphabet, the bits of a text stand in a row, and
  every eight of them make an octet as far as they go.

  * `value?_eq`: the value of a symbol is its place in the alphabet.
  * `octetBits_octets`: cutting values into octets takes the whole octets of
    their bits.
  * `Carry.unique`: symbols carry only one sequence of octets.
-/

namespace HubAuth.Base64

/-! ### The alphabet -/

/-- The standard alphabet. A symbol stands for its place in it. -/
def alphabet : List Char :=
  "ABCDEFGHIJKLMNOPQRSTUVWXYZabcdefghijklmnopqrstuvwxyz0123456789+/".toList

theorem alphabet_eq : alphabet = (List.range 64).map symbol := by
  decide

theorem mem_alphabet_iff {c : Char} : c ∈ alphabet ↔ ∃ v < 64, symbol v = c := by
  rw [alphabet_eq]
  simp

theorem idxOf_symbol : ∀ v < 64, alphabet.idxOf (symbol v) = v := by
  decide

/-- The places of symbols are six-bit values. -/
theorem places_lt {cs : List Char} (h : ∀ c ∈ cs, c ∈ alphabet) :
    ∀ v ∈ cs.map alphabet.idxOf, v < 64 := by
  intro v hv
  obtain ⟨c, hc, rfl⟩ := List.mem_map.mp hv
  exact List.idxOf_lt_length_of_mem (h c hc)

/-- No symbol is a blank, padding or outside ASCII. -/
theorem alphabet_plain {c : Char} (h : c ∈ alphabet) :
    Text.isBlank c = false ∧ c ≠ '=' ∧ c.toNat < 128 := by
  obtain ⟨v, hv, rfl⟩ := mem_alphabet_iff.mp h
  obtain ⟨hblank, hpad, -, hascii⟩ := symbol_plain v hv
  exact ⟨hblank, hpad, hascii⟩

/-- A run of codes from `low` to `high` whose symbols stand for the values from
    `base` on. -/
theorem symbol_of_range {c : Char} {low : Nat} (high base : Nat) (hlow : low ≤ c.toNat)
    (hhigh : c.toNat ≤ high)
    (table : ∀ n < high + 1, low ≤ n →
      n - low + base < 64 ∧ symbol (n - low + base) = Char.ofNat n) :
    c.toNat - low + base < 64 ∧ symbol (c.toNat - low + base) = c := by
  have hc := table c.toNat (by omega) hlow
  rwa [Char.ofNat_toNat] at hc

/-- Only a symbol has a value, and it is the symbol of that value. -/
theorem symbol_of_value? {c : Char} {v : Nat} (h : value? c = some v) : v < 64 ∧ symbol v = c := by
  unfold value? at h
  split at h
  · next hupper =>
    obtain rfl := Option.some.inj h
    exact symbol_of_range 90 0 hupper.1 hupper.2 (by decide)
  · split at h
    · next hlower =>
      obtain rfl := Option.some.inj h
      exact symbol_of_range 122 26 hlower.1 hlower.2 (by decide)
    · split at h
      · next hdigit =>
        obtain rfl := Option.some.inj h
        exact symbol_of_range 57 52 hdigit.1 hdigit.2 (by decide)
      · split at h
        · next hplus =>
          obtain rfl := Option.some.inj h
          exact ⟨by decide, hplus.symm⟩
        · split at h
          · next hslash =>
            obtain rfl := Option.some.inj h
            exact ⟨by decide, hslash.symm⟩
          · cases h

/-- The value of a symbol is its place in the alphabet; nothing else has one. -/
theorem value?_eq (c : Char) :
    value? c = if c ∈ alphabet then some (alphabet.idxOf c) else none := by
  split
  · next hc =>
    obtain ⟨v, hv, rfl⟩ := mem_alphabet_iff.mp hc
    rw [value?_symbol v hv, idxOf_symbol v hv]
  · next hc =>
    cases hvalue : value? c with
    | none => rfl
    | some v => exact absurd (mem_alphabet_iff.mpr ⟨v, symbol_of_value? hvalue⟩) hc

/-! ### The bits of a number -/

/-- The lowest `width` bits of a number, the highest of them first. -/
def bits : (width n : Nat) → List Bool
  | 0, _ => []
  | width + 1, n => n.testBit width :: bits width n

@[simp] theorem length_bits (width n : Nat) : (bits width n).length = width := by
  induction width with
  | zero => rfl
  | succ width ih => rw [bits, List.length_cons, ih]

/-- Only the lowest bits count. -/
theorem bits_eq_iff {width m n : Nat} :
    bits width m = bits width n ↔ ∀ i < width, m.testBit i = n.testBit i := by
  induction width with
  | zero => simp [bits]
  | succ width ih =>
    rw [bits, bits, List.cons.injEq, ih]
    constructor
    · rintro ⟨hhead, htail⟩ i hi
      rcases Nat.lt_succ_iff_lt_or_eq.mp hi with hlt | rfl
      · exact htail i hlt
      · exact hhead
    · intro h
      exact ⟨h width (by omega), fun i hi => h i (by omega)⟩

theorem bits_of_mod {width m n k : Nat} (hk : 1 <<< width = k) (h : m % k = n % k) :
    bits width m = bits width n := by
  rw [bits_eq_iff]
  intro i hi
  have hbit := congrArg (fun r => r.testBit i) h
  simpa only [← hk, Nat.one_shiftLeft, Nat.testBit_mod_two_pow, hi, decide_true, Bool.true_and]
    using hbit

/-- A number is written by what stands before its lowest bits, and by these. -/
theorem bits_add (width more n : Nat) :
    bits (width + more) n = bits width (n >>> more) ++ bits more n := by
  induction width with
  | zero => simp [bits]
  | succ width ih =>
    have hbit : n.testBit (width + more) = (n >>> more).testBit width := by
      rw [Nat.testBit_shiftRight, Nat.add_comm]
    rw [Nat.succ_add, bits, bits, ih, hbit, List.cons_append]

/-- The bits of two numbers in a row are those of the number that division by
    `k` takes apart into them. -/
theorem bits_join (width more : Nat) {n a b k : Nat} (hk : 1 <<< more = k) (high : n / k = a)
    (low : n % k = b % k) : bits (width + more) n = bits width a ++ bits more b := by
  have hshift : n >>> more = a := by
    rw [Nat.shiftRight_eq_div_pow, ← Nat.one_shiftLeft, hk, high]
  rw [bits_add, hshift, bits_of_mod hk low]

/-- The bits of an octet tell it. -/
theorem octet_of_bits {a b : UInt8} (h : bits 8 a.toNat = bits 8 b.toNat) : a = b := by
  have hlow := bits_eq_iff.mp h
  apply UInt8.toNat_inj.mp
  apply Nat.eq_of_testBit_eq
  intro i
  rcases Nat.lt_or_ge i 8 with hi | hi
  · exact hlow i hi
  · have hpow : 256 ≤ 2 ^ i := Nat.pow_le_pow_right Nat.two_pos hi
    have ha := a.toNat_lt
    have hb := b.toNat_lt
    rw [Nat.testBit_lt_two_pow (by omega), Nat.testBit_lt_two_pow (by omega)]

/-! ### Bits in a row -/

/-- The bits of some octets. -/
def octetBits (bs : List UInt8) : List Bool :=
  bs.flatMap fun b => bits 8 b.toNat

/-- The bits of some six-bit values. -/
def sextetBits (vs : List Nat) : List Bool :=
  vs.flatMap (bits 6)

/-- The bits that symbols stand for. -/
def bitString (cs : List Char) : List Bool :=
  sextetBits (cs.map alphabet.idxOf)

@[simp] theorem octetBits_cons (b : UInt8) (bs : List UInt8) :
    octetBits (b :: bs) = bits 8 b.toNat ++ octetBits bs := rfl

@[simp] theorem sextetBits_cons (v : Nat) (vs : List Nat) :
    sextetBits (v :: vs) = bits 6 v ++ sextetBits vs := rfl

@[simp] theorem sextetBits_nil : sextetBits [] = [] := rfl

@[simp] theorem length_octetBits (bs : List UInt8) : (octetBits bs).length = 8 * bs.length := by
  induction bs with
  | nil => rfl
  | cons b bs ih =>
    rw [octetBits_cons, List.length_append, length_bits, ih, List.length_cons]
    omega

@[simp] theorem length_sextetBits (vs : List Nat) : (sextetBits vs).length = 6 * vs.length := by
  induction vs with
  | nil => rfl
  | cons v vs ih =>
    rw [sextetBits_cons, List.length_append, length_bits, ih, List.length_cons]
    omega

theorem bitString_append (cs ds : List Char) :
    bitString (cs ++ ds) = bitString cs ++ bitString ds := by
  simp [bitString, sextetBits]

@[simp] theorem length_bitString (cs : List Char) : (bitString cs).length = 6 * cs.length := by
  simp [bitString]

/-- Octets are told apart by their bits. -/
theorem octetBits_inj {as bs : List UInt8} (h : octetBits as = octetBits bs) : as = bs := by
  induction as generalizing bs with
  | nil =>
    have hlength := congrArg List.length h
    rw [length_octetBits, length_octetBits, List.length_nil] at hlength
    exact (List.eq_nil_of_length_eq_zero (by omega)).symm
  | cons a as ih =>
    cases bs with
    | nil => exact absurd (congrArg List.length h) (by simp)
    | cons b bs =>
      obtain ⟨hhead, htail⟩ := List.append_inj h (by simp)
      rw [octet_of_bits hhead, ih htail]

/-! ### Octets of values -/

theorem bits_ofNat (n : Nat) : bits 8 (UInt8.ofNat n).toNat = bits 8 n := by
  apply bits_of_mod (k := 256) rfl
  rw [UInt8.toNat_ofNat']
  exact Nat.mod_mod n 256

/-- The first of two values with the beginning of the second is an octet. -/
theorem bits_first (a : Nat) {b : Nat} (hb : b < 64) :
    bits 8 (UInt8.ofNat (a * 4 + b / 16)).toNat = bits 6 a ++ bits 2 (b / 16) := by
  rw [bits_ofNat]
  exact bits_join 6 2 (k := 4) rfl (by omega) (by omega)

/-- So are the rest of the second and the beginning of the third. -/
theorem bits_second (b : Nat) {c : Nat} (hc : c < 64) :
    bits 8 (UInt8.ofNat (b % 16 * 16 + c / 4)).toNat = bits 4 b ++ bits 4 (c / 4) := by
  have hrest : bits 4 (b % 16) = bits 4 b := bits_of_mod (k := 16) rfl (by omega)
  rw [bits_ofNat, ← hrest]
  exact bits_join 4 4 (k := 16) rfl (by omega) (by omega)

/-- So are the rest of the third and the fourth. -/
theorem bits_third (c : Nat) {d : Nat} (hd : d < 64) :
    bits 8 (UInt8.ofNat (c % 4 * 64 + d)).toNat = bits 2 c ++ bits 6 d := by
  have hrest : bits 2 (c % 4) = bits 2 c := bits_of_mod (k := 4) rfl (by omega)
  rw [bits_ofNat, ← hrest]
  exact bits_join 2 6 (k := 64) rfl (by omega) (by omega)

theorem bits_split_second (b : Nat) : bits 6 b = bits 2 (b / 16) ++ bits 4 b :=
  bits_join 2 4 (k := 16) rfl rfl rfl

theorem bits_split_third (c : Nat) : bits 6 c = bits 4 (c / 4) ++ bits 2 c :=
  bits_join 4 2 (k := 4) rfl rfl rfl

/-- The octet of two values, and the four bits left over. -/
theorem sextetBits_two (a b : Nat) :
    sextetBits [a, b] = (bits 6 a ++ bits 2 (b / 16)) ++ bits 4 b := by
  simp only [sextetBits_cons, sextetBits_nil, List.append_nil, List.append_assoc,
    bits_split_second b]

/-- The octets of three values, and the two bits left over. -/
theorem sextetBits_three (a b c : Nat) :
    sextetBits [a, b, c]
      = (bits 6 a ++ bits 2 (b / 16) ++ bits 4 b ++ bits 4 (c / 4)) ++ bits 2 c := by
  simp only [sextetBits_cons, sextetBits_nil, List.append_nil, List.append_assoc,
    bits_split_second b, bits_split_third c]

theorem sextetBits_group (a b c d : Nat) (vs : List Nat) :
    sextetBits (a :: b :: c :: d :: vs) = sextetBits [a, b, c, d] ++ sextetBits vs := by
  simp only [sextetBits_cons, sextetBits_nil, List.append_nil, List.append_assoc]

/-- The octets of a group take all its bits. -/
theorem wholeBits_group (a b c d : Nat) (vs : List Nat) :
    8 * (6 * (a :: b :: c :: d :: vs).length / 8)
      = (sextetBits [a, b, c, d]).length + 8 * (6 * vs.length / 8) := by
  simp only [length_sextetBits, List.length_cons, List.length_nil]
  omega

/-- A row that gives no octet has one value at most. -/
theorem nil_or_single {vs : List Nat} (hfour : ∀ a b c d rest, vs = a :: b :: c :: d :: rest → False)
    (hthree : ∀ a b c, vs = [a, b, c] → False) (htwo : ∀ a b, vs = [a, b] → False) :
    vs = [] ∨ ∃ a, vs = [a] := by
  rcases vs with _ | ⟨a, _ | ⟨b, _ | ⟨c, _ | ⟨d, rest⟩⟩⟩⟩
  · exact .inl rfl
  · exact .inr ⟨a, rfl⟩
  · exact (htwo a b rfl).elim
  · exact (hthree a b c rfl).elim
  · exact (hfour a b c d rest rfl).elim

/-- Cutting a row of values into octets takes the whole octets of their bits. -/
theorem octetBits_octets {vs : List Nat} (h : ∀ v ∈ vs, v < 64) :
    octetBits (octets vs) = (sextetBits vs).take (8 * (6 * vs.length / 8)) := by
  induction vs using octets.induct with
  | case1 a b c d vs ih =>
    -- Four values are three octets, and the octets of the rest follow them.
    have hrest := ih fun v hv => h v (by simp [hv])
    rw [sextetBits_group, wholeBits_group, List.take_length_add_append, ← hrest, octets,
      octetBits_cons, octetBits_cons, octetBits_cons, bits_first a (h b (by simp)),
      bits_second b (h c (by simp)), bits_third c (h d (by simp))]
    simp only [sextetBits_cons, sextetBits_nil, List.append_nil, List.append_assoc,
      bits_split_second b, bits_split_third c]
  | case2 a b c =>
    rw [sextetBits_three, octets, octetBits_cons, octetBits_cons, bits_first a (h b (by simp)),
      bits_second b (h c (by simp)), List.take_left' (by simp)]
    simp only [octetBits, List.flatMap_nil, List.append_nil, List.append_assoc]
  | case3 a b =>
    rw [sextetBits_two, octets, octetBits_cons, bits_first a (h b (by simp)),
      List.take_left' (by simp)]
    simp only [octetBits, List.flatMap_nil, List.append_nil]
  | case4 vs hfour hthree htwo =>
    -- A single value or none is too short for an octet.
    obtain rfl | ⟨a, rfl⟩ := nil_or_single hfour hthree htwo
    · rfl
    · simp [octets, octetBits]

/-! ### What symbols carry -/

/-- Symbols carry octets: as many as their bits fill, and made up of these bits
    in their order. -/
structure Carry (cs : List Char) (bs : List UInt8) : Prop where
  /-- They are symbols. -/
  symbols : ∀ c ∈ cs, c ∈ alphabet
  /-- There is an octet for every eight bits. -/
  length : bs.length = 6 * cs.length / 8
  /-- The bits are the first of the symbols' bits; those left over mean nothing. -/
  bits : octetBits bs = (bitString cs).take (8 * (6 * cs.length / 8))

variable {cs : List Char} {as bs : List UInt8}

theorem Carry.unique (ha : Carry cs as) (hb : Carry cs bs) : as = bs :=
  octetBits_inj (ha.bits.trans hb.bits.symm)

/-- The octets of the places of symbols are those that the symbols carry. -/
theorem carry_octets (h : ∀ c ∈ cs, c ∈ alphabet) : Carry cs (octets (cs.map alphabet.idxOf)) := by
  have hbits := octetBits_octets (places_lt h)
  rw [List.length_map] at hbits
  refine ⟨h, ?_, hbits⟩
  -- The number of octets is read off from that of their bits.
  have hlength := congrArg List.length hbits
  rw [length_octetBits, List.length_take, length_sextetBits, List.length_map] at hlength
  omega

theorem carry_iff : Carry cs bs ↔ (∀ c ∈ cs, c ∈ alphabet) ∧ bs = octets (cs.map alphabet.idxOf) := by
  constructor
  · intro h
    exact ⟨h.symbols, h.unique (carry_octets h.symbols)⟩
  · rintro ⟨h, rfl⟩
    exact carry_octets h

/-- One more symbol over whole groups of four carries nothing. -/
theorem carry_concat_iff {c : Char} (hc : c ∈ alphabet) (hwhole : cs.length % 4 = 0) :
    Carry (cs ++ [c]) bs ↔ Carry cs bs := by
  have hcount : 6 * (cs ++ [c]).length / 8 = 6 * cs.length / 8 := by
    rw [List.length_append, List.length_singleton]
    omega
  have htake : (bitString (cs ++ [c])).take (8 * (6 * cs.length / 8))
      = (bitString cs).take (8 * (6 * cs.length / 8)) := by
    rw [bitString_append, List.take_append_of_le_length]
    rw [length_bitString]
    omega
  constructor
  · intro h
    refine ⟨fun d hd => h.symbols d (by simp [hd]), ?_, ?_⟩
    · rw [h.length, hcount]
    · rw [h.bits, hcount, htake]
  · intro h
    refine ⟨?_, ?_, ?_⟩
    · intro d hd
      rcases List.mem_append.mp hd with hd | hd
      · exact h.symbols d hd
      · obtain rfl := List.mem_singleton.mp hd
        exact hc
    · rw [h.length, hcount]
    · rw [h.bits, hcount, htake]

/-- Octets are carried exactly from two symbols on. -/
theorem Carry.ne_nil_iff (h : Carry cs bs) : bs ≠ [] ↔ 2 ≤ cs.length := by
  have hlength := h.length
  rw [← List.length_pos_iff]
  omega

end HubAuth.Base64
