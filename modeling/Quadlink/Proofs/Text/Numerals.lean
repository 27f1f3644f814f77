import Quadlink.Codec.Percent
import Quadlink.Proofs.Text.Pieces
import Quadlink.Text.Unsigned

/-!
# Numerals

The decimal numeral of a number consists of digits, of which the first is a zero only for zero
itself (`eq_zero_of_head?_toString`), and stands for the number (`ofDigitChars_toString`). Readers
differ in how they add digits up and where they stop; `parseUnsigned_toString` is the one for
variables. Hexadecimal numerals, whose count of digits is fixed where they are used, are given by their
value (`hexNumber?`).
-/

namespace Quadlink.Text

variable {n : Nat} {c : Char} {digits : List Char}

/-! ## Digits of a numeral -/

theorem isDigit_of_mem_toString (h : c ∈ (toString n).toList) : c.isDigit = true := by
  rw [Nat.toString_eq_ofList_toDigits, String.toList_ofList] at h
  exact Nat.isDigit_of_mem_toDigits (by decide) (by decide) h

theorem ofDigitChars_toString (n : Nat) : Nat.ofDigitChars 10 (toString n).toList 0 = n := by
  rw [Nat.toString_eq_ofList_toDigits, String.toList_ofList, Nat.ofDigitChars_ten_toDigits]

theorem toString_ne_nil (n : Nat) : (toString n).toList ≠ [] := by
  rw [Nat.toString_eq_ofList_toDigits, String.toList_ofList]
  exact Nat.toDigits_ne_nil

/-- A numeral starts with a digit. -/
theorem toString_eq_cons (n : Nat) :
    ∃ first rest, (toString n).toList = first :: rest ∧ first.isDigit = true := by
  cases hshape : (toString n).toList with
  | nil => exact absurd hshape (toString_ne_nil n)
  | cons first rest =>
      exact ⟨first, rest, rfl, isDigit_of_mem_toString (n := n) (by rw [hshape]; simp)⟩

theorem digitChar_ne_zero (h : n < 10) (hn : n ≠ 0) : n.digitChar ≠ '0' := by
  have hall : ∀ d < 10, d ≠ 0 → d.digitChar ≠ '0' := by decide
  exact hall n h hn

theorem head?_toDigits (hn : n ≠ 0) : (Nat.toDigits 10 n).head? ≠ some '0' := by
  induction n using Nat.strongRecOn with
  | _ n ih =>
      rw [Nat.toDigits_eq_if (by decide)]
      split
      · rename_i hsmall
        simpa using digitChar_ne_zero hsmall hn
      · have hrest := ih (n / 10) (Nat.div_lt_self (by omega) (by decide)) (by omega)
        cases hshape : Nat.toDigits 10 (n / 10) with
        | nil => exact absurd hshape Nat.toDigits_ne_nil
        | cons first rest => simpa [hshape] using hrest

theorem eq_zero_of_head?_toString (h : (toString n).toList.head? = some '0') : n = 0 := by
  rw [Nat.toString_eq_ofList_toDigits, String.toList_ofList] at h
  exact Decidable.byContradiction fun hn => head?_toDigits hn h

/-- No numeral but that of zero goes on behind a zero at its front. -/
theorem toString_eq_zero_cons {rest : List Char} (h : (toString n).toList = '0' :: rest) :
    rest = [] := by
  obtain rfl := eq_zero_of_head?_toString (n := n) (by rw [h]; rfl)
  exact (List.cons.inj h).2.symm

/-! ## Values -/

theorem le_ofDigitChars (digits : List Char) (acc : Nat) :
    acc ≤ Nat.ofDigitChars 10 digits acc := by
  induction digits generalizing acc with
  | nil => exact Nat.le_refl acc
  | cons c tail ih =>
      rw [Nat.ofDigitChars_cons]
      have htail := ih (10 * acc + (c.toNat - '0'.toNat))
      omega

def digitValues (digits : List Char) : List Nat := digits.map fun c => c.toNat - '0'.toNat

theorem foldl_digitValues (digits : List Char) (acc : Nat) :
    (digitValues digits).foldl (fun acc d => acc * 10 + d) acc = Nat.ofDigitChars 10 digits acc := by
  induction digits generalizing acc with
  | nil => rfl
  | cons c tail ih =>
      have htail := ih (acc * 10 + (c.toNat - '0'.toNat))
      rw [Nat.ofDigitChars_cons, Nat.mul_comm 10, ← htail]
      rfl

theorem foldl_digitValues_toString (n : Nat) :
    (digitValues (toString n).toList).foldl (fun acc d => acc * 10 + d) 0 = n := by
  rw [foldl_digitValues, ofDigitChars_toString]

theorem eq_zero_cons_of_digitValues {values : List Nat} (h : ∀ c ∈ digits, c.isDigit = true)
    (hvalues : digitValues digits = 0 :: values) : ∃ rest, digits = '0' :: rest := by
  cases digits with
  | nil => cases hvalues
  | cons c tail =>
      have hc := h c List.mem_cons_self
      simp only [Char.isDigit, Bool.and_eq_true, decide_eq_true_eq] at hc
      have hlow : 48 ≤ c.toNat := hc.1
      have hvalue : c.toNat - 48 = 0 := (List.cons.inj hvalues).1
      have hzero : c = '0' := by rw [← Char.ofNat_toNat c, show c.toNat = 48 by omega]
      exact ⟨tail, by rw [hzero]⟩

/-- A numeral has no needless zeros in front. -/
theorem digitValues_toString_ne {d : Nat} {values : List Nat} :
    digitValues (toString n).toList ≠ 0 :: d :: values := by
  intro hvalues
  obtain ⟨rest, hshape⟩ :=
    eq_zero_cons_of_digitValues (fun c hc => isDigit_of_mem_toString hc) hvalues
  rw [hshape, toString_eq_zero_cons hshape] at hvalues
  cases hvalues

theorem hexValue?_of_isDigit (h : c.isDigit = true) :
    Codec.Percent.hexValue? c = some (c.toNat - '0'.toNat) := by
  simp only [Char.isDigit, Bool.and_eq_true, decide_eq_true_eq] at h
  have hrange : '0' ≤ c ∧ c ≤ '9' := h
  rw [Codec.Percent.hexValue?, if_pos hrange]

/-! ## Unsigned numbers -/

theorem readDigits_eq {limit acc : Nat} (hdigits : ∀ c ∈ digits, c.isDigit = true)
    (hfits : Nat.ofDigitChars 10 digits acc ≤ limit) :
    readDigits limit acc digits = .ok (Nat.ofDigitChars 10 digits acc) := by
  induction digits generalizing acc with
  | nil => rfl
  | cons c tail ih =>
      obtain ⟨hc, htail⟩ := List.forall_mem_cons.mp hdigits
      rw [Nat.ofDigitChars_cons] at hfits ⊢
      have hnext := le_ofDigitChars tail (10 * acc + (c.toNat - '0'.toNat))
      have hsmall : ¬limit < acc * 10 + (c.toNat - '0'.toNat) := by omega
      rw [readDigits, digitValue?, if_pos hc]
      dsimp only
      rw [if_neg hsmall, Nat.mul_comm acc 10]
      exact ih htail hfits

/-- A number that fits is read from its numeral. -/
theorem parseUnsigned_toString {limit : Nat} (h : n ≤ limit) :
    parseUnsigned limit (toString n) = .ok n := by
  have hread : readDigits limit 0 (toString n).toList = .ok n := by
    rw [readDigits_eq (fun c hc => isDigit_of_mem_toString hc) (by rw [ofDigitChars_toString]; exact h),
      ofDigitChars_toString]
  obtain ⟨first, rest, hshape, hfirst⟩ := toString_eq_cons n
  rw [hshape] at hread
  have hsign : first ≠ '+' := by
    rintro rfl
    cases hfirst
  unfold parseUnsigned
  rw [hshape]
  split
  · rename_i heq
    cases heq
  · rename_i heq
    exact absurd (List.cons.inj heq).1 hsign
  · rename_i heq
    exact absurd (List.cons.inj heq).1 hsign
  · exact hread

theorem not_isBlank_of_isDigit (h : c.isDigit = true) : isBlank c = false := by
  simp only [Char.isDigit, Bool.and_eq_true, decide_eq_true_eq] at h
  have hlow : 48 ≤ c.toNat := h.1
  have hhigh : c.toNat ≤ 57 := h.2
  simp only [isBlank, Bool.or_eq_false_iff, Bool.and_eq_false_iff, decide_eq_false_iff_not,
    beq_eq_false_iff_ne]
  omega

/-! ## Hexadecimal numerals -/

def hexNumber? (digits : List Char) : Option Nat :=
  (digits.mapM Codec.Percent.hexValue?).map fun values => values.foldl (fun acc v => acc * 16 + v) 0

/-- Four digits, one by one. -/
theorem hexNumber?_four {w x y z : Char} (h : hexNumber? [w, x, y, z] = some n) :
    ∃ a b c d, Codec.Percent.hexValue? w = some a ∧ Codec.Percent.hexValue? x = some b
      ∧ Codec.Percent.hexValue? y = some c ∧ Codec.Percent.hexValue? z = some d
      ∧ n = ((a * 16 + b) * 16 + c) * 16 + d := by
  obtain ⟨values, hvalues, rfl⟩ := Option.map_eq_some_iff.mp h
  simp only [List.mapM_cons, List.mapM_nil, Option.bind_eq_bind, Option.bind_eq_some_iff] at hvalues
  obtain ⟨a, ha, _, ⟨b, hb, _, ⟨c, hc, _, ⟨d, hd, _, ⟨⟩, ⟨⟩⟩, ⟨⟩⟩, ⟨⟩⟩, ⟨⟩⟩ := hvalues
  exact ⟨a, b, c, d, ha, hb, hc, hd, by simp⟩

end Quadlink.Text
