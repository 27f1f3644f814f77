import Mathlib.Algebra.Group.Nat.Defs
import Mathlib.Data.Option.Basic
import Quadlink.Codec.Base64
import Quadlink.Proofs.Text.Utf8

/-!
# What base64 texts stand for

`Spells` says which text is the base64 form of some bytes without saying how it is found: the
letters give the bits of the bytes, six each, with zero bits behind them to fill up the last letter
and `=` to fill up the last four. There is one such text for any bytes (`Spells.unique`), and the
encoding is it (`spells_encodeBytes`).

`decode?` reads four letters at a time and refuses a text with anything in it that the encoding does
not write. What it reads is therefore exactly what is spelled (`decode?_eq_some_iff`).
-/

namespace Quadlink.Codec.Base64

open Text

/-! ## Bits -/

def alphabet : List Char :=
  "ABCDEFGHIJKLMNOPQRSTUVWXYZabcdefghijklmnopqrstuvwxyz0123456789+/".toList

/-- The lowest bits of a number, the highest of them first. -/
def bits : (width n : Nat) → List Bool
  | 0, _ => []
  | width + 1, n => n.testBit width :: bits width n

/-- The text is the base64 form of the bytes. The bits of the letters are those of the bytes, with
as few zeros behind them as fill up the last letter, and marks in place of the letters that are
missing to a multiple of four. -/
def Spells (text : List Char) (bytes : Bytes) : Prop :=
  ∃ (letters : List Char) (values : List Nat) (zeros marks : Nat),
    text = letters ++ List.replicate marks '='
      ∧ letters.map some = values.map (alphabet[·]?)
      ∧ values.flatMap (bits 6)
        = bytes.flatMap (fun byte => bits 8 byte.toNat) ++ List.replicate zeros false
      ∧ zeros < 6 ∧ marks < 4 ∧ 4 ∣ text.length

@[simp] theorem length_bits (width n : Nat) : (bits width n).length = width := by
  induction width with
  | zero => rfl
  | succ width ih => rw [bits, List.length_cons, ih]

theorem bits_append (front back n : Nat) :
    bits (front + back) n = bits front (n / 2 ^ back) ++ bits back n := by
  induction front with
  | zero => rw [Nat.zero_add, bits, List.nil_append]
  | succ front ih =>
      rw [Nat.succ_add, bits, bits, ih, Nat.testBit_div_two_pow]
      rfl

theorem bits_mod_of_le (n : Nat) {width high : Nat} (h : width ≤ high) :
    bits width (n % 2 ^ high) = bits width n := by
  induction width with
  | zero => rfl
  | succ width ih =>
      have hbit : (n % 2 ^ high).testBit width = n.testBit width := by
        rw [Nat.testBit_mod_two_pow, decide_eq_true (show width < high from h), Bool.true_and]
      rw [bits, bits, ih (Nat.le_of_succ_le h), hbit]

theorem bits_mod (width n : Nat) : bits width (n % 2 ^ width) = bits width n :=
  bits_mod_of_le n (Nat.le_refl width)

/-- Bits of two numbers side by side are the bits of one. -/
theorem bits_join (front back high : Nat) {low : Nat} (h : low < 2 ^ back) :
    bits (front + back) (high % 2 ^ front * 2 ^ back + low) = bits front high ++ bits back low := by
  have hhigh : (high % 2 ^ front * 2 ^ back + low) / 2 ^ back = high % 2 ^ front := by
    rw [Nat.mul_comm, Nat.mul_add_div (Nat.two_pow_pos back), Nat.div_eq_of_lt h, Nat.add_zero]
  have hlow : (high % 2 ^ front * 2 ^ back + low) % 2 ^ back = low := by
    rw [Nat.mul_comm, Nat.mul_add_mod, Nat.mod_eq_of_lt h]
  rw [bits_append, hhigh, bits_mod, ← bits_mod back, hlow]

theorem bits_zero (width : Nat) : bits width 0 = List.replicate width false := by
  induction width with
  | zero => rfl
  | succ width ih => rw [bits, ih, Nat.zero_testBit, List.replicate_succ]

/-- A number that is moved up leaves zeros below. -/
theorem bits_shift (front back high : Nat) :
    bits (front + back) (high % 2 ^ front * 2 ^ back)
      = bits front high ++ List.replicate back false := by
  rw [← bits_zero, ← bits_join front back high (Nat.two_pow_pos back), Nat.add_zero]

theorem testBit_eq_of_bits_eq {width m n : Nat} (h : bits width m = bits width n) :
    ∀ i < width, m.testBit i = n.testBit i := by
  induction width with
  | zero => nofun
  | succ width ih =>
      rw [bits, bits, List.cons.injEq] at h
      intro i hi
      rcases Nat.lt_succ_iff_lt_or_eq.mp hi with hlt | rfl
      · exact ih h.2 i hlt
      · exact h.1

theorem eq_of_bits_eq {width m n : Nat} (hm : m < 2 ^ width) (hn : n < 2 ^ width)
    (h : bits width m = bits width n) : m = n := by
  refine Nat.eq_of_testBit_eq fun i => ?_
  by_cases hi : i < width
  · exact testBit_eq_of_bits_eq h i hi
  · have hpow : 2 ^ width ≤ 2 ^ i := Nat.pow_le_pow_right (by decide) (Nat.not_lt.mp hi)
    rw [Nat.testBit_lt_two_pow (Nat.lt_of_lt_of_le hm hpow),
      Nat.testBit_lt_two_pow (Nat.lt_of_lt_of_le hn hpow)]

theorem length_flatMap_bits (width : Nat) (values : List Nat) :
    (values.flatMap (bits width)).length = values.length * width := by
  induction values with
  | nil => rw [List.flatMap_nil, List.length_nil, List.length_nil, Nat.zero_mul]
  | cons n rest ih =>
      rw [List.flatMap_cons, List.length_append, length_bits, ih, List.length_cons, Nat.succ_mul,
        Nat.add_comm]

/-- Numbers that fit can be read off their bits. -/
theorem eq_of_flatMap_bits_eq {width : Nat} (hwidth : 0 < width) {left right : List Nat}
    (hleft : ∀ n ∈ left, n < 2 ^ width) (hright : ∀ n ∈ right, n < 2 ^ width)
    (h : left.flatMap (bits width) = right.flatMap (bits width)) : left = right := by
  induction left generalizing right with
  | nil =>
      cases right with
      | nil => rfl
      | cons n rest =>
          have hlength := congrArg List.length h
          rw [length_flatMap_bits, length_flatMap_bits, List.length_cons, List.length_nil,
            Nat.succ_mul] at hlength
          omega
  | cons m front ih =>
      cases right with
      | nil =>
          have hlength := congrArg List.length h
          rw [length_flatMap_bits, length_flatMap_bits, List.length_cons, List.length_nil,
            Nat.succ_mul] at hlength
          omega
      | cons n back =>
          obtain ⟨hm, hfront⟩ := List.forall_mem_cons.mp hleft
          obtain ⟨hn, hback⟩ := List.forall_mem_cons.mp hright
          rw [List.flatMap_cons, List.flatMap_cons] at h
          obtain ⟨hfirst, hrest⟩ := List.append_inj h (by rw [length_bits, length_bits])
          rw [eq_of_bits_eq hm hn hfirst, ih hfront hback hrest]

/-! ## The spelling of bytes -/

theorem alphabet_letter : ∀ n < 64, alphabet[n]? = some (letter n) := by decide

theorem lt_of_alphabet {n : Nat} {c : Char} (h : alphabet[n]? = some c) : n < 64 :=
  (List.getElem?_eq_some_iff.mp h).1

/-- Some bytes are spelled in one way only. -/
theorem Spells.unique {text other : List Char} {bytes : Bytes} (h : Spells text bytes)
    (h' : Spells other bytes) : text = other := by
  have hvalue : ∀ {letters : List Char} {values : List Nat},
      letters.map some = values.map (alphabet[·]?) → ∀ n ∈ values, n < 2 ^ 6 := by
    intro letters values heq n hn
    have hmem : alphabet[n]? ∈ letters.map some := heq ▸ List.mem_map_of_mem hn
    obtain ⟨c, -, hc⟩ := List.mem_map.mp hmem
    exact lt_of_alphabet hc.symm
  obtain ⟨letters, values, zeros, marks, rfl, hletters, hbits, hzeros, hmarks, hfour⟩ := h
  obtain ⟨letters', values', zeros', marks', rfl, hletters', hbits', hzeros', hmarks', hfour'⟩ := h'
  -- The number of letters leaves one choice for the zeros, so the letters give the same bits.
  have hlength := congrArg List.length hbits
  have hlength' := congrArg List.length hbits'
  rw [length_flatMap_bits, List.length_append, List.length_replicate] at hlength hlength'
  have hsame : zeros = zeros' := by omega
  have hvalues : values = values' :=
    eq_of_flatMap_bits_eq (by decide) (hvalue hletters) (hvalue hletters')
      (by rw [hbits, hbits', hsame])
  have hspelled : letters = letters' :=
    (List.map_inj_right fun _ _ => Option.some.inj).mp (by rw [hletters, hletters', hvalues])
  rw [List.length_append, List.length_replicate] at hfour hfour'
  rw [hspelled] at hfour ⊢
  have hfill : marks = marks' := by omega
  rw [hfill]

/-- A base64 form is made of letters and marks. -/
theorem Spells.mem {text : List Char} {bytes : Bytes} {c : Char} (h : Spells text bytes)
    (hc : c ∈ text) : c ∈ alphabet ∨ c = '=' := by
  obtain ⟨letters, values, zeros, marks, rfl, hletters, -⟩ := h
  rcases List.mem_append.mp hc with hmem | hmem
  · have hsome : some c ∈ values.map (alphabet[·]?) := hletters ▸ List.mem_map_of_mem hmem
    obtain ⟨n, -, hn⟩ := List.mem_map.mp hsome
    exact .inl (List.mem_of_getElem? hn)
  · exact .inr (List.eq_of_mem_replicate hmem)

theorem map_letter {values : List Nat} (h : ∀ n ∈ values, n < 64) :
    (values.map letter).map some = values.map (alphabet[·]?) := by
  rw [List.map_map]
  exact List.map_congr_left fun n hn => (alphabet_letter n (h n hn)).symm

/-- One byte in two letters. -/
theorem bits_one (a : Nat) :
    bits 6 (a / 4) ++ bits 6 (a % 4 * 16) = bits 8 a ++ List.replicate 4 false := by
  have ha : bits 8 a = bits 6 (a / 4) ++ bits 2 a := bits_append 6 2 a
  have hlast : bits 6 (a % 4 * 16) = bits 2 a ++ List.replicate 4 false := bits_shift 2 4 a
  rw [ha, hlast, List.append_assoc]

/-- Two bytes in three letters. -/
theorem bits_two (a : Nat) {b : Nat} (hb : b < 256) :
    bits 6 (a / 4) ++ (bits 6 (a % 4 * 16 + b / 16) ++ bits 6 (b % 16 * 4))
      = bits 8 a ++ (bits 8 b ++ List.replicate 2 false) := by
  have ha : bits 8 a = bits 6 (a / 4) ++ bits 2 a := bits_append 6 2 a
  have hb' : bits 8 b = bits 4 (b / 16) ++ bits 4 b := bits_append 4 4 b
  have hmiddle : bits 6 (a % 4 * 16 + b / 16) = bits 2 a ++ bits 4 (b / 16) :=
    bits_join 2 4 a (by omega)
  have hlast : bits 6 (b % 16 * 4) = bits 4 b ++ List.replicate 2 false := bits_shift 4 2 b
  rw [ha, hb', hmiddle, hlast]
  simp only [List.append_assoc]

/-- Three bytes in four letters. -/
theorem bits_three (a : Nat) {b c : Nat} (hb : b < 256) (hc : c < 256) :
    bits 6 (a / 4) ++ (bits 6 (a % 4 * 16 + b / 16) ++ (bits 6 (b % 16 * 4 + c / 64) ++ bits 6 (c % 64)))
      = bits 8 a ++ (bits 8 b ++ bits 8 c) := by
  have ha : bits 8 a = bits 6 (a / 4) ++ bits 2 a := bits_append 6 2 a
  have hb' : bits 8 b = bits 4 (b / 16) ++ bits 4 b := bits_append 4 4 b
  have hc' : bits 8 c = bits 2 (c / 64) ++ bits 6 c := bits_append 2 6 c
  have hsecond : bits 6 (a % 4 * 16 + b / 16) = bits 2 a ++ bits 4 (b / 16) :=
    bits_join 2 4 a (by omega)
  have hthird : bits 6 (b % 16 * 4 + c / 64) = bits 4 b ++ bits 2 (c / 64) :=
    bits_join 4 2 b (by omega)
  have hfourth : bits 6 (c % 64) = bits 6 c := bits_mod 6 c
  rw [ha, hb', hc', hsecond, hthird, hfourth]
  simp only [List.append_assoc]

theorem spells_of_values {bytes : Bytes} (values : List Nat) (zeros marks : Nat)
    (hvalues : ∀ n ∈ values, n < 64)
    (hbits : values.flatMap (bits 6)
      = bytes.flatMap (fun byte => bits 8 byte.toNat) ++ List.replicate zeros false)
    (hzeros : zeros < 6) (hmarks : marks < 4) (hfour : 4 ∣ values.length + marks) :
    Spells (values.map letter ++ List.replicate marks '=') bytes := by
  refine ⟨values.map letter, values, zeros, marks, rfl, map_letter hvalues, hbits, hzeros, hmarks, ?_⟩
  rwa [List.length_append, List.length_map, List.length_replicate]

/-- Letters that give whole bytes can stand in front of any spelling. -/
theorem Spells.append {text : List Char} {rest : Bytes} (h : Spells text rest) (front : Bytes)
    (values : List Nat) (hvalues : ∀ n ∈ values, n < 64)
    (hbits : values.flatMap (bits 6) = front.flatMap fun byte => bits 8 byte.toNat)
    (hfour : 4 ∣ values.length) : Spells (values.map letter ++ text) (front ++ rest) := by
  obtain ⟨letters, others, zeros, marks, rfl, hletters, hothers, hzeros, hmarks, hlength⟩ := h
  refine ⟨values.map letter ++ letters, values ++ others, zeros, marks, ?_, ?_, ?_, hzeros, hmarks,
    ?_⟩
  · rw [List.append_assoc]
  · rw [List.map_append, List.map_append, map_letter hvalues, hletters]
  · rw [List.flatMap_append, hbits, hothers, ← List.append_assoc, ← List.flatMap_append]
  · rw [List.length_append, List.length_map]
    exact Nat.dvd_add hfour hlength

/-- The encoding of some bytes spells them. -/
theorem spells_encodeBytes (bytes : Bytes) : Spells (encodeBytes bytes) bytes := by
  induction bytes using encodeBytes.induct with
  | case1 => exact spells_of_values [] 0 0 nofun rfl (by decide) (by decide) (by decide)
  | case2 a =>
      have ha : a.toNat < 256 := a.toNat_lt
      have hvalues : ∀ n ∈ [a.toNat / 4, a.toNat % 4 * 16], n < 64 := by
        simp only [List.forall_mem_cons]
        exact ⟨by omega, by omega, nofun⟩
      rw [encodeBytes]
      exact spells_of_values [a.toNat / 4, a.toNat % 4 * 16] 4 2 hvalues
        (by simpa using bits_one a.toNat) (by decide) (by decide) (by decide : 4 ∣ 2 + 2)
  | case3 a b =>
      have ha : a.toNat < 256 := a.toNat_lt
      have hb : b.toNat < 256 := b.toNat_lt
      have hvalues : ∀ n ∈ [a.toNat / 4, a.toNat % 4 * 16 + b.toNat / 16, b.toNat % 16 * 4],
          n < 64 := by
        simp only [List.forall_mem_cons]
        exact ⟨by omega, by omega, by omega, nofun⟩
      rw [encodeBytes]
      exact spells_of_values
        [a.toNat / 4, a.toNat % 4 * 16 + b.toNat / 16, b.toNat % 16 * 4] 2 1 hvalues
        (by simpa using bits_two a.toNat hb) (by decide) (by decide) (by decide : 4 ∣ 3 + 1)
  | case4 a b c rest ih =>
      have ha : a.toNat < 256 := a.toNat_lt
      have hb : b.toNat < 256 := b.toNat_lt
      have hc : c.toNat < 256 := c.toNat_lt
      have hvalues : ∀ n ∈ [a.toNat / 4, a.toNat % 4 * 16 + b.toNat / 16,
          b.toNat % 16 * 4 + c.toNat / 64, c.toNat % 64], n < 64 := by
        simp only [List.forall_mem_cons]
        exact ⟨by omega, by omega, by omega, by omega, nofun⟩
      have hbits := bits_three a.toNat hb hc
      exact ih.append [a, b, c] _ hvalues (by simpa using hbits) (by decide : 4 ∣ 4)

/-! ## Reading -/

def value? (c : Char) : Option Nat := alphabet.idxOf? c

/-- The byte of two letters, of which the second is not filled. -/
def readOne? (a b : Char) : Option Bytes := do
  let first ← value? a
  let second ← value? b
  guard (second % 16 = 0)
  return [UInt8.ofNat (first * 4 + second / 16)]

/-- The bytes of three letters, of which the third is not filled. -/
def readTwo? (a b c : Char) : Option Bytes := do
  let first ← value? a
  let second ← value? b
  let third ← value? c
  guard (third % 4 = 0)
  return [UInt8.ofNat (first * 4 + second / 16), UInt8.ofNat (second % 16 * 16 + third / 4)]

def readThree? (a b c d : Char) : Option Bytes := do
  let first ← value? a
  let second ← value? b
  let third ← value? c
  let fourth ← value? d
  return [UInt8.ofNat (first * 4 + second / 16), UInt8.ofNat (second % 16 * 16 + third / 4),
    UInt8.ofNat (third % 4 * 64 + fourth)]

/-- The bytes that a text stands for, if it is a base64 form. Forms with other bits than zeros at
the end are refused, so every text stands for bytes in one way only. -/
def decode? : List Char → Option Bytes
  | [] => some []
  | [a, b, '=', '='] => readOne? a b
  | [a, b, c, '='] => readTwo? a b c
  | a :: b :: c :: d :: rest => do
    let front ← readThree? a b c d
    let back ← decode? rest
    return front ++ back
  | _ => none

theorem value?_eq_some_iff {c : Char} {n : Nat} : value? c = some n ↔ n < 64 ∧ letter n = c := by
  constructor
  · intro h
    obtain ⟨hn, hc, -⟩ := List.idxOf?_eq_some_iff.mp h
    have hletter := alphabet_letter n hn
    rw [List.getElem?_eq_getElem hn, hc] at hletter
    exact ⟨hn, (Option.some.inj hletter).symm⟩
  · rintro ⟨hn, rfl⟩
    exact (by decide : ∀ n < 64, value? (letter n) = some n) n hn

theorem letter_ne_mark {n : Nat} (h : n < 64) : letter n ≠ '=' :=
  (by decide : ∀ n < 64, letter n ≠ '=') n h

theorem readOne?_eq_some_iff {a b : Char} {bytes : Bytes} :
    readOne? a b = some bytes ↔
      ∃ x : UInt8, bytes = [x] ∧ a = letter (x.toNat / 4) ∧ b = letter (x.toNat % 4 * 16) := by
  simp only [readOne?, Option.bind_eq_bind, Option.bind_eq_some_iff, value?_eq_some_iff]
  constructor
  · rintro ⟨m, ⟨hm, rfl⟩, n, ⟨hn, rfl⟩, _, hguard, hbytes⟩
    have hzero : n % 16 = 0 := (Option.guard_eq_some' ()).mp hguard
    have hx := toNat_ofNat_of_lt (by omega : m * 4 + n / 16 < 256)
    refine ⟨_, (Option.some.inj hbytes).symm, ?_, ?_⟩
    · rw [hx, show (m * 4 + n / 16) / 4 = m by omega]
    · rw [hx, show (m * 4 + n / 16) % 4 * 16 = n by omega]
  · rintro ⟨x, rfl, rfl, rfl⟩
    have hx : x.toNat < 256 := x.toNat_lt
    refine ⟨_, ⟨by omega, rfl⟩, _, ⟨by omega, rfl⟩, (), ?_, ?_⟩
    · exact (Option.guard_eq_some' ()).mpr (by omega)
    · rw [ofNat_eq_of_toNat (b := x) (by omega)]
      rfl

theorem readTwo?_eq_some_iff {a b c : Char} {bytes : Bytes} :
    readTwo? a b c = some bytes ↔
      ∃ x y : UInt8, bytes = [x, y] ∧ a = letter (x.toNat / 4)
        ∧ b = letter (x.toNat % 4 * 16 + y.toNat / 16) ∧ c = letter (y.toNat % 16 * 4) := by
  simp only [readTwo?, Option.bind_eq_bind, Option.bind_eq_some_iff, value?_eq_some_iff]
  constructor
  · rintro ⟨l, ⟨hl, rfl⟩, m, ⟨hm, rfl⟩, n, ⟨hn, rfl⟩, _, hguard, hbytes⟩
    have hzero : n % 4 = 0 := (Option.guard_eq_some' ()).mp hguard
    have hx := toNat_ofNat_of_lt (by omega : l * 4 + m / 16 < 256)
    have hy := toNat_ofNat_of_lt (by omega : m % 16 * 16 + n / 4 < 256)
    refine ⟨_, _, (Option.some.inj hbytes).symm, ?_, ?_, ?_⟩
    · rw [hx, show (l * 4 + m / 16) / 4 = l by omega]
    · rw [hx, hy, show (l * 4 + m / 16) % 4 * 16 + (m % 16 * 16 + n / 4) / 16 = m by omega]
    · rw [hy, show (m % 16 * 16 + n / 4) % 16 * 4 = n by omega]
  · rintro ⟨x, y, rfl, rfl, rfl, rfl⟩
    have hx : x.toNat < 256 := x.toNat_lt
    have hy : y.toNat < 256 := y.toNat_lt
    refine ⟨_, ⟨by omega, rfl⟩, _, ⟨by omega, rfl⟩, _, ⟨by omega, rfl⟩, (), ?_, ?_⟩
    · exact (Option.guard_eq_some' ()).mpr (by omega)
    · rw [ofNat_eq_of_toNat (b := x) (by omega), ofNat_eq_of_toNat (b := y) (by omega)]
      rfl

theorem readThree?_eq_some_iff {a b c d : Char} {bytes : Bytes} :
    readThree? a b c d = some bytes ↔
      ∃ x y z : UInt8, bytes = [x, y, z] ∧ a = letter (x.toNat / 4)
        ∧ b = letter (x.toNat % 4 * 16 + y.toNat / 16)
        ∧ c = letter (y.toNat % 16 * 4 + z.toNat / 64) ∧ d = letter (z.toNat % 64) := by
  simp only [readThree?, Option.bind_eq_bind, Option.bind_eq_some_iff, value?_eq_some_iff]
  constructor
  · rintro ⟨k, ⟨hk, rfl⟩, l, ⟨hl, rfl⟩, m, ⟨hm, rfl⟩, n, ⟨hn, rfl⟩, hbytes⟩
    have hx := toNat_ofNat_of_lt (by omega : k * 4 + l / 16 < 256)
    have hy := toNat_ofNat_of_lt (by omega : l % 16 * 16 + m / 4 < 256)
    have hz := toNat_ofNat_of_lt (by omega : m % 4 * 64 + n < 256)
    refine ⟨_, _, _, (Option.some.inj hbytes).symm, ?_, ?_, ?_, ?_⟩
    · rw [hx, show (k * 4 + l / 16) / 4 = k by omega]
    · rw [hx, hy, show (k * 4 + l / 16) % 4 * 16 + (l % 16 * 16 + m / 4) / 16 = l by omega]
    · rw [hy, hz, show (l % 16 * 16 + m / 4) % 16 * 4 + (m % 4 * 64 + n) / 64 = m by omega]
    · rw [hz, show (m % 4 * 64 + n) % 64 = n by omega]
  · rintro ⟨x, y, z, rfl, rfl, rfl, rfl, rfl⟩
    have hx : x.toNat < 256 := x.toNat_lt
    have hy : y.toNat < 256 := y.toNat_lt
    have hz : z.toNat < 256 := z.toNat_lt
    refine ⟨_, ⟨by omega, rfl⟩, _, ⟨by omega, rfl⟩, _, ⟨by omega, rfl⟩, _, ⟨by omega, rfl⟩, ?_⟩
    rw [ofNat_eq_of_toNat (b := x) (by omega), ofNat_eq_of_toNat (b := y) (by omega),
      ofNat_eq_of_toNat (b := z) (by omega)]
    rfl

/-- The encoding of some bytes is read back. -/
theorem decode?_encodeBytes (bytes : Bytes) : decode? (encodeBytes bytes) = some bytes := by
  induction bytes using encodeBytes.induct with
  | case1 => rfl
  | case2 a =>
      rw [encodeBytes, decode?]
      exact readOne?_eq_some_iff.mpr ⟨a, rfl, rfl, rfl⟩
  | case3 a b =>
      have hb : b.toNat < 256 := b.toNat_lt
      rw [encodeBytes, decode?]
      · exact readTwo?_eq_some_iff.mpr ⟨a, b, rfl, rfl, rfl, rfl⟩
      · exact letter_ne_mark (by omega)
  | case4 a b c rest ih =>
      -- The last of the four letters is no mark, which leaves the one case of whole groups.
      have hfront := readThree?_eq_some_iff.mpr ⟨a, b, c, rfl, rfl, rfl, rfl, rfl⟩
      have hlast : letter (c.toNat % 64) ≠ '=' := letter_ne_mark (by omega)
      rw [encodeBytes, decode?, hfront, ih]
      · rfl
      · exact fun _ hd _ => hlast hd
      · exact fun hd _ => hlast hd

/-- A text that is read is the encoding of what it is read as. -/
theorem encodeBytes_of_decode? {text : List Char} {bytes : Bytes} (h : decode? text = some bytes) :
    encodeBytes bytes = text := by
  induction text using decode?.induct generalizing bytes with
  | case1 =>
      cases h
      rfl
  | case2 a b =>
      rw [decode?] at h
      obtain ⟨x, rfl, rfl, rfl⟩ := readOne?_eq_some_iff.mp h
      rfl
  | case3 a b c hc =>
      rw [decode?] at h
      · obtain ⟨x, y, rfl, rfl, rfl, rfl⟩ := readTwo?_eq_some_iff.mp h
        rfl
      · exact hc
  | case4 a b c d rest hone htwo ih =>
      rw [decode?] at h
      · simp only [Option.bind_eq_bind, Option.bind_eq_some_iff] at h
        obtain ⟨front, hfront, back, hback, hbytes⟩ := h
        obtain ⟨x, y, z, rfl, rfl, rfl, rfl, rfl⟩ := readThree?_eq_some_iff.mp hfront
        cases hbytes
        rw [← ih hback]
        rfl
      · exact hone
      · exact htwo
  | case5 text hnil hone htwo hthree =>
      rw [decode?] at h
      · cases h
      · exact hnil
      · exact hone
      · exact htwo
      · exact hthree

/-- What is read is exactly what is spelled. -/
theorem decode?_eq_some_iff {text : List Char} {bytes : Bytes} :
    decode? text = some bytes ↔ Spells text bytes := by
  constructor
  · intro h
    rw [← encodeBytes_of_decode? h]
    exact spells_encodeBytes bytes
  · intro h
    rw [h.unique (spells_encodeBytes bytes)]
    exact decode?_encodeBytes bytes

theorem encodeBytes_injective {left right : Bytes} (h : encodeBytes left = encodeBytes right) :
    left = right := by
  have hread := decode?_encodeBytes left
  rw [h, decode?_encodeBytes] at hread
  exact (Option.some.inj hread).symm

end Quadlink.Codec.Base64
