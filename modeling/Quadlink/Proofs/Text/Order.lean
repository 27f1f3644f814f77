import Quadlink.Proofs.Text.Utf8

/-!
# The order of texts

Texts are compared character by character. Their encodings, compared byte by byte, come in the same
order (`encode_lt_encode`): a later character has the later encoding, whatever stands behind the two
(`encodeChar_lt`).
-/

namespace Quadlink.Text

/-- Of two numbers the smaller one has the smaller quotient, or else the smaller remainder. -/
theorem div_lt_or {v w : Nat} (h : v < w) (n : Nat) :
    v / n < w / n ∨ v / n = w / n ∧ v % n < w % n := by
  rcases Nat.lt_or_eq_of_le (Nat.div_le_div_right (c := n) (Nat.le_of_lt h)) with hlt | heq
  · exact .inl hlt
  · refine .inr ⟨heq, ?_⟩
    have hv := Nat.div_add_mod v n
    have hw := Nat.div_add_mod w n
    rw [heq] at hv
    omega

theorem ofNat_cons_lt_iff {m n : Nat} (hm : m < 256) (hn : n < 256) {front back : Bytes} :
    UInt8.ofNat m :: front < UInt8.ofNat n :: back ↔ m < n ∨ m = n ∧ front < back := by
  rw [List.cons_lt_cons_iff, UInt8.lt_iff_toNat_lt, ← UInt8.toNat_inj, toNat_ofNat_of_lt hm,
    toNat_ofNat_of_lt hn]

/-- The later character has the later encoding, whatever follows. -/
theorem encodeChar_lt {c d : Char} (h : c < d) (front back : Bytes) :
    String.utf8EncodeChar c ++ front < String.utf8EncodeChar d ++ back := by
  have hnumbers : c.val.toNat < d.val.toNat := h
  have hvalid : d.val.toNat < 0xD800 ∨ 0xDFFF < d.val.toNat ∧ d.val.toNat < 0x110000 := d.valid
  unfold String.utf8EncodeChar
  generalize c.val.toNat = v at hnumbers
  generalize d.val.toNat = w at hnumbers hvalid
  have hlast := div_lt_or hnumbers 64
  -- With all quotients by 64, the digits of both numbers compare one after the other.
  have hv : v / 4096 = v / 64 / 64 ∧ v / 262144 = v / 64 / 64 / 64 := by omega
  have hw : w / 4096 = w / 64 / 64 ∧ w / 262144 = w / 64 / 64 / 64 := by omega
  dsimp only
  rw [hv.1, hw.1, hv.2, hw.2]
  clear hv hw
  repeat' split
  all_goals
    simp only [List.cons_append, List.nil_append]
    repeat rw [ofNat_cons_lt_iff (by omega) (by omega)]
    omega

theorem encodeChars_lt {cs ds : List Char} (h : cs < ds) : encodeChars cs < encodeChars ds := by
  induction cs generalizing ds with
  | nil =>
      cases ds with
      | nil => exact absurd h (List.not_lt_nil _)
      | cons d rest =>
          obtain ⟨first, more, hencode, -⟩ := Utf8Step.next_encodeChar d []
          rw [encodeChars_cons, hencode]
          exact List.nil_lt_cons _ _
  | cons c tail ih =>
      cases ds with
      | nil => exact absurd h (List.not_lt_nil _)
      | cons d rest =>
          rw [encodeChars_cons, encodeChars_cons]
          rcases List.cons_lt_cons_iff.mp h with hlt | ⟨rfl, hrest⟩
          · exact encodeChar_lt hlt _ _
          · exact List.append_left_lt (ih hrest)

/-- Texts and their encodings come in the same order. -/
theorem encode_lt_encode {s t : String} (h : s < t) : encode s < encode t :=
  encodeChars_lt h

end Quadlink.Text
