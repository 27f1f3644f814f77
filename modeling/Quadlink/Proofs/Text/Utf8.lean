import Quadlink.Text.Utf8

/-!
# Encoded texts are read back

Decoding gives every text back from its encoding (`decode_encode`), and reads nothing else
(`encode_of_decode`). What stands behind one encoded character does not matter to how it is read
(`Utf8Step.next_encodeChar`), and a character is read from nothing but its encoding
(`Utf8Step.eq_of_next`), so that both are inductions over the characters.
-/

namespace Quadlink.Text

variable {c : Char} {rest : Bytes}

/-! ## Bytes -/

theorem toNat_ofNat_of_lt {n : Nat} (h : n < 256) : (UInt8.ofNat n).toNat = n := by
  rw [UInt8.toNat_ofNat']
  exact Nat.mod_eq_of_lt h

theorem payload_ofNat {n : Nat} (h : n < 64) : payload (UInt8.ofNat (n + 128)) = n := by
  rw [payload, toNat_ofNat_of_lt (by omega)]
  omega

theorem isContinuation_ofNat {n : Nat} (h : n < 64) :
    isContinuation (UInt8.ofNat (n + 128)) = true := by
  simp only [isContinuation, Bool.and_eq_true, decide_eq_true_eq, UInt8.le_iff_toNat_le,
    toNat_ofNat_of_lt (by omega : n + 128 < 256)]
  constructor
  · show 128 ≤ n + 128
    omega
  · show n + 128 ≤ 191
    omega

/-- The length of an encoding, read off the first byte as a number. -/
theorem sequenceLength_ofNat {n : Nat} (h : n < 256) :
    sequenceLength (UInt8.ofNat n) =
      if n < 128 then 1
      else if 194 ≤ n ∧ n ≤ 223 then 2
      else if 224 ≤ n ∧ n ≤ 239 then 3
      else if 240 ≤ n ∧ n ≤ 244 then 4
      else 0 := by
  have hvalue := toNat_ofNat_of_lt h
  simp only [sequenceLength, Bool.and_eq_true, decide_eq_true_eq, UInt8.lt_iff_toNat_lt,
    UInt8.le_iff_toNat_le, hvalue]
  rfl

/-- Which second bytes may follow, as numbers. -/
theorem isSecondByte_ofNat {m n : Nat} (hm : m < 256) (hn : n < 64)
    (hoverlong : m = 224 → 32 ≤ n) (hsurrogate : m = 237 → n < 32)
    (hoverlong' : m = 240 → 16 ≤ n) (hlast : m = 244 → n < 16) :
    isSecondByte (UInt8.ofNat m) (UInt8.ofNat (n + 128)) = true := by
  have heq : ∀ k : Nat, k < 256 → ((UInt8.ofNat m == UInt8.ofNat k) = true ↔ m = k) := by
    intro k hk
    rw [beq_iff_eq, ← UInt8.toNat_inj, toNat_ofNat_of_lt hm, toNat_ofNat_of_lt hk]
  have hle : ∀ k : Nat, k < 256 → (UInt8.ofNat k ≤ UInt8.ofNat (n + 128) ↔ k ≤ n + 128) := by
    intro k hk
    rw [UInt8.le_iff_toNat_le, toNat_ofNat_of_lt hk, toNat_ofNat_of_lt (by omega)]
  have hge : ∀ k : Nat, k < 256 → (UInt8.ofNat (n + 128) ≤ UInt8.ofNat k ↔ n + 128 ≤ k) := by
    intro k hk
    rw [UInt8.le_iff_toNat_le, toNat_ofNat_of_lt hk, toNat_ofNat_of_lt (by omega)]
  unfold isSecondByte
  split
  · rename_i h
    have hn' := hoverlong ((heq 224 (by omega)).mp h)
    rw [Bool.and_eq_true, decide_eq_true_eq, decide_eq_true_eq]
    exact ⟨(hle 160 (by omega)).mpr (by omega), (hge 191 (by omega)).mpr (by omega)⟩
  · split
    · rename_i h
      have hn' := hsurrogate ((heq 237 (by omega)).mp h)
      rw [Bool.and_eq_true, decide_eq_true_eq, decide_eq_true_eq]
      exact ⟨(hle 128 (by omega)).mpr (by omega), (hge 159 (by omega)).mpr (by omega)⟩
    · split
      · rename_i h
        have hn' := hoverlong' ((heq 240 (by omega)).mp h)
        rw [Bool.and_eq_true, decide_eq_true_eq, decide_eq_true_eq]
        exact ⟨(hle 144 (by omega)).mpr (by omega), (hge 191 (by omega)).mpr (by omega)⟩
      · split
        · rename_i h
          have hn' := hlast ((heq 244 (by omega)).mp h)
          rw [Bool.and_eq_true, decide_eq_true_eq, decide_eq_true_eq]
          exact ⟨(hle 128 (by omega)).mpr (by omega), (hge 143 (by omega)).mpr (by omega)⟩
        · exact isContinuation_ofNat hn

theorem ofNat_eq_of_toNat {n : Nat} {b : UInt8} (h : n = b.toNat) : UInt8.ofNat n = b := by
  rw [h, UInt8.ofNat_toNat]

theorem isContinuation_iff {b : UInt8} :
    isContinuation b = true ↔ 128 ≤ b.toNat ∧ b.toNat ≤ 191 := by
  simp only [isContinuation, Bool.and_eq_true, decide_eq_true_eq, UInt8.le_iff_toNat_le]
  exact Iff.rfl

/-- The second bytes that may follow, as numbers. -/
theorem bounds_of_isSecondByte {a b : UInt8} (h : isSecondByte a b = true) :
    (128 ≤ b.toNat ∧ b.toNat ≤ 191) ∧ (a.toNat = 224 → 160 ≤ b.toNat)
      ∧ (a.toNat = 237 → b.toNat ≤ 159) ∧ (a.toNat = 240 → 144 ≤ b.toNat)
      ∧ (a.toNat = 244 → b.toNat ≤ 143) := by
  have hfirst : ∀ k : Nat, k < 256 → ((a == UInt8.ofNat k) = true ↔ a.toNat = k) := by
    intro k hk
    rw [beq_iff_eq, ← UInt8.toNat_inj, toNat_ofNat_of_lt hk]
  have hrange : ∀ m n : Nat, m < 256 → n < 256 →
      (decide (UInt8.ofNat m ≤ b) && decide (b ≤ UInt8.ofNat n)) = true →
        m ≤ b.toNat ∧ b.toNat ≤ n := by
    intro m n hm hn h
    rwa [Bool.and_eq_true, decide_eq_true_eq, decide_eq_true_eq, UInt8.le_iff_toNat_le,
      UInt8.le_iff_toNat_le, toNat_ofNat_of_lt hm, toNat_ofNat_of_lt hn] at h
  unfold isSecondByte at h
  split at h
  · rename_i ha
    have ha := (hfirst 224 (by omega)).mp ha
    have hb := hrange 160 191 (by omega) (by omega) h
    omega
  · split at h
    · rename_i ha
      have ha := (hfirst 237 (by omega)).mp ha
      have hb := hrange 128 159 (by omega) (by omega) h
      omega
    · split at h
      · rename_i ha
        have ha := (hfirst 240 (by omega)).mp ha
        have hb := hrange 144 191 (by omega) (by omega) h
        omega
      · split at h
        · rename_i ha
          have ha := (hfirst 244 (by omega)).mp ha
          have hb := hrange 128 143 (by omega) (by omega) h
          omega
        · rename_i hoverlong hsurrogate hoverlong' hlast
          have hb := isContinuation_iff.mp h
          have ha := mt (hfirst 224 (by omega)).mpr hoverlong
          have ha₁ := mt (hfirst 237 (by omega)).mpr hsurrogate
          have ha₂ := mt (hfirst 240 (by omega)).mpr hoverlong'
          have ha₃ := mt (hfirst 244 (by omega)).mpr hlast
          omega

/-- The first bytes of encodings of each length, as numbers. -/
theorem bounds_of_sequenceLength (first : UInt8) :
    (sequenceLength first = 1 → first.toNat < 128)
      ∧ (sequenceLength first = 2 → 194 ≤ first.toNat ∧ first.toNat ≤ 223)
      ∧ (sequenceLength first = 3 → 224 ≤ first.toNat ∧ first.toNat ≤ 239)
      ∧ (sequenceLength first = 4 → 240 ≤ first.toNat ∧ first.toNat ≤ 244) := by
  have hlength := sequenceLength_ofNat first.toNat_lt
  rw [UInt8.ofNat_toNat] at hlength
  repeat' split at hlength
  all_goals omega

/-- A byte that continues an encoding, from what it contributes. -/
theorem ofNat_payload {b : UInt8} (h : 128 ≤ b.toNat ∧ b.toNat ≤ 191) :
    UInt8.ofNat (payload b + 128) = b := by
  refine ofNat_eq_of_toNat ?_
  rw [payload]
  omega

theorem payload_lt (b : UInt8) : payload b < 64 := Nat.mod_lt _ (by decide)

/-! ## Characters -/

theorem toNat_val_ofNat {n : Nat} (h : n.isValidChar) : (Char.ofNat n).val.toNat = n := by
  rw [Char.ofNat, dif_pos h]
  rfl

theorem encodeChar_one {x : Nat} (hx : x < 128) :
    String.utf8EncodeChar (Char.ofNat x) = [UInt8.ofNat x] := by
  have hvalue := toNat_val_ofNat (Or.inl (by omega) : x.isValidChar)
  rw [String.utf8EncodeChar, hvalue]
  simp only [show x ≤ 127 by omega, if_true]

theorem encodeChar_two {x y : Nat} (hx : 2 ≤ x ∧ x < 32) (hy : y < 64) :
    String.utf8EncodeChar (Char.ofNat (x * 64 + y))
      = [UInt8.ofNat (x + 192), UInt8.ofNat (y + 128)] := by
  have hvalue := toNat_val_ofNat (Or.inl (by omega) : (x * 64 + y).isValidChar)
  rw [String.utf8EncodeChar, hvalue]
  simp only [show ¬ x * 64 + y ≤ 127 by omega, show x * 64 + y ≤ 2047 by omega, if_true, if_false]
  rw [show (x * 64 + y) / 64 % 32 = x by omega, show (x * 64 + y) % 64 = y by omega]

theorem encodeChar_three {x y z : Nat} (hx : x < 16) (hy : y < 64) (hz : z < 64)
    (hoverlong : x = 0 → 32 ≤ y) (hsurrogate : x = 13 → y < 32) :
    String.utf8EncodeChar (Char.ofNat ((x * 64 + y) * 64 + z))
      = [UInt8.ofNat (x + 224), UInt8.ofNat (y + 128), UInt8.ofNat (z + 128)] := by
  generalize hn : (x * 64 + y) * 64 + z = n
  have hvalue := toNat_val_ofNat (n := n) (by rw [Nat.isValidChar]; omega)
  rw [String.utf8EncodeChar, hvalue]
  simp only [show ¬ n ≤ 127 by omega, show ¬ n ≤ 2047 by omega, show n ≤ 65535 by omega, if_true,
    if_false]
  rw [show n / 4096 % 16 = x by omega, show n / 64 % 64 = y by omega, show n % 64 = z by omega]

theorem encodeChar_four {x y z w : Nat} (hx : x ≤ 4) (hy : y < 64) (hz : z < 64) (hw : w < 64)
    (hoverlong : x = 0 → 16 ≤ y) (hlast : x = 4 → y < 16) :
    String.utf8EncodeChar (Char.ofNat (((x * 64 + y) * 64 + z) * 64 + w))
      = [UInt8.ofNat (x + 240), UInt8.ofNat (y + 128), UInt8.ofNat (z + 128),
          UInt8.ofNat (w + 128)] := by
  generalize hn : ((x * 64 + y) * 64 + z) * 64 + w = n
  have hvalue := toNat_val_ofNat (n := n) (by rw [Nat.isValidChar]; omega)
  rw [String.utf8EncodeChar, hvalue]
  simp only [show ¬ n ≤ 127 by omega, show ¬ n ≤ 2047 by omega, show ¬ n ≤ 65535 by omega,
    if_false]
  rw [show n / 262144 % 8 = x by omega, show n / 4096 % 64 = y by omega,
    show n / 64 % 64 = z by omega, show n % 64 = w by omega]

/-- The first byte of a character continues nothing, and all others do. -/
theorem isContinuation_encodeChar {c : Char} {first : UInt8} {tail : Bytes}
    (h : String.utf8EncodeChar c = first :: tail) :
    isContinuation first = false ∧ ∀ b ∈ tail, isContinuation b = true := by
  have hlead : ∀ n, n < 128 ∨ 192 ≤ n → n < 256 → isContinuation (UInt8.ofNat n) = false := by
    intro n hn hlt
    rw [Bool.eq_false_iff, ne_eq, isContinuation_iff, toNat_ofNat_of_lt hlt]
    omega
  have hmod : ∀ n, isContinuation (UInt8.ofNat (n % 64 + 128)) = true := fun n =>
    isContinuation_ofNat (Nat.mod_lt n (by decide))
  unfold String.utf8EncodeChar at h
  dsimp only at h
  split at h
  · obtain ⟨rfl, rfl⟩ := List.cons.inj h
    exact ⟨hlead _ (by omega) (by omega), nofun⟩
  · split at h
    · obtain ⟨rfl, rfl⟩ := List.cons.inj h
      exact ⟨hlead _ (by omega) (by omega), List.forall_mem_cons.mpr ⟨hmod _, nofun⟩⟩
    · split at h
      · obtain ⟨rfl, rfl⟩ := List.cons.inj h
        exact ⟨hlead _ (by omega) (by omega), List.forall_mem_cons.mpr
          ⟨hmod _, List.forall_mem_cons.mpr ⟨hmod _, nofun⟩⟩⟩
      · obtain ⟨rfl, rfl⟩ := List.cons.inj h
        exact ⟨hlead _ (by omega) (by omega), List.forall_mem_cons.mpr
          ⟨hmod _, List.forall_mem_cons.mpr ⟨hmod _, List.forall_mem_cons.mpr ⟨hmod _, nofun⟩⟩⟩⟩

namespace Utf8Step

theorem next_one {x : Nat} (hx : x < 128) : next (UInt8.ofNat x) rest = .char (Char.ofNat x) rest := by
  unfold next
  rw [sequenceLength_ofNat (by omega), if_pos hx]
  simp [toNat_ofNat_of_lt (by omega : x < 256)]

theorem next_two {x y : Nat} (hx : 2 ≤ x ∧ x < 32) (hy : y < 64) :
    next (UInt8.ofNat (x + 192)) (UInt8.ofNat (y + 128) :: rest)
      = .char (Char.ofNat (x * 64 + y)) rest := by
  have hsecond := isSecondByte_ofNat (m := x + 192) (by omega) hy (by omega) (by omega) (by omega)
    (by omega)
  unfold next
  rw [sequenceLength_ofNat (by omega), if_neg (by omega), if_pos (by omega)]
  simp only [hsecond, if_true, toNat_ofNat_of_lt (by omega : x + 192 < 256), payload_ofNat hy]
  rw [show (x + 192) % 32 = x by omega]

theorem next_three {x y z : Nat} (hx : x < 16) (hy : y < 64) (hz : z < 64)
    (hoverlong : x = 0 → 32 ≤ y) (hsurrogate : x = 13 → y < 32) :
    next (UInt8.ofNat (x + 224)) (UInt8.ofNat (y + 128) :: UInt8.ofNat (z + 128) :: rest)
      = .char (Char.ofNat ((x * 64 + y) * 64 + z)) rest := by
  have hsecond := isSecondByte_ofNat (m := x + 224) (by omega) hy (by omega) (by omega) (by omega)
    (by omega)
  unfold next
  rw [sequenceLength_ofNat (by omega), if_neg (by omega), if_neg (by omega), if_pos (by omega)]
  simp only [hsecond, isContinuation_ofNat hz, if_true, payload_ofNat hy, payload_ofNat hz,
    toNat_ofNat_of_lt (by omega : x + 224 < 256)]
  rw [show (x + 224) % 16 = x by omega]

theorem next_four {x y z w : Nat} (hx : x ≤ 4) (hy : y < 64) (hz : z < 64) (hw : w < 64)
    (hoverlong : x = 0 → 16 ≤ y) (hlast : x = 4 → y < 16) :
    next (UInt8.ofNat (x + 240))
        (UInt8.ofNat (y + 128) :: UInt8.ofNat (z + 128) :: UInt8.ofNat (w + 128) :: rest)
      = .char (Char.ofNat (((x * 64 + y) * 64 + z) * 64 + w)) rest := by
  have hsecond := isSecondByte_ofNat (m := x + 240) (by omega) hy (by omega) (by omega) (by omega)
    (by omega)
  unfold next
  rw [sequenceLength_ofNat (by omega), if_neg (by omega), if_neg (by omega), if_neg (by omega),
    if_pos (by omega)]
  simp only [hsecond, isContinuation_ofNat hz, isContinuation_ofNat hw, if_true, payload_ofNat hy,
    payload_ofNat hz, payload_ofNat hw, toNat_ofNat_of_lt (by omega : x + 240 < 256)]
  rw [show (x + 240) % 8 = x by omega]

/-- A character is read back from the front of its encoding, whatever follows. -/
theorem next_encodeChar (c : Char) (rest : Bytes) :
    ∃ first tail, String.utf8EncodeChar c = first :: tail
      ∧ next first (tail ++ rest) = .char c rest := by
  have hvalid : c.val.toNat < 0xD800 ∨ 0xDFFF < c.val.toNat ∧ c.val.toNat < 0x110000 := c.valid
  have hchar : ∀ n, n = c.val.toNat → Char.ofNat n = c := by
    rintro _ rfl
    exact Char.ofNat_toNat c
  unfold String.utf8EncodeChar
  generalize c.val.toNat = v at hvalid hchar
  dsimp only
  split
  · refine ⟨_, [], rfl, ?_⟩
    rw [List.nil_append, next_one (by omega), hchar v rfl]
  · split
    · refine ⟨_, [_], rfl, ?_⟩
      rw [List.singleton_append, next_two (by omega) (by omega), hchar _ (by omega)]
    · split
      · refine ⟨_, [_, _], rfl, ?_⟩
        rw [List.cons_append, List.singleton_append, next_three (by omega) (by omega) (by omega)
          (by omega) (by omega), hchar _ (by omega)]
      · refine ⟨_, [_, _, _], rfl, ?_⟩
        rw [List.cons_append, List.cons_append, List.singleton_append, next_four (by omega)
          (by omega) (by omega) (by omega) (by omega) (by omega), hchar _ (by omega)]

/-- What is read as a character is its encoding. -/
theorem eq_of_next {first : UInt8} {rest' : Bytes} (h : next first rest = .char c rest') :
    first :: rest = String.utf8EncodeChar c ++ rest' := by
  obtain ⟨hone, htwo, hthree, hfour⟩ := bounds_of_sequenceLength first
  unfold next at h
  split at h
  · rename_i hlength
    cases h
    rw [encodeChar_one (hone hlength), UInt8.ofNat_toNat, List.singleton_append]
  · rename_i hlength
    have hfirst := htwo hlength
    split at h
    · cases h
    · split at h
      · rename_i hsecond
        have hb := (bounds_of_isSecondByte hsecond).1
        cases h
        rw [encodeChar_two (by omega) (payload_lt _), ofNat_payload hb,
          ofNat_eq_of_toNat (b := first) (by omega)]
        rfl
      · cases h
  · rename_i hlength
    have hfirst := hthree hlength
    split at h
    · cases h
    · split at h
      · rename_i hsecond
        obtain ⟨hb, hoverlong, hsurrogate, -⟩ := bounds_of_isSecondByte hsecond
        split at h
        · cases h
        · split at h
          · rename_i hthird
            cases h
            rw [encodeChar_three (by omega) (payload_lt _) (payload_lt _)
              (by rw [payload]; omega) (by rw [payload]; omega), ofNat_payload hb,
              ofNat_payload (isContinuation_iff.mp hthird), ofNat_eq_of_toNat (b := first) (by omega)]
            rfl
          · cases h
      · cases h
  · rename_i hlength
    have hfirst := hfour hlength
    split at h
    · cases h
    · split at h
      · rename_i hsecond
        obtain ⟨hb, -, -, hoverlong, hlast⟩ := bounds_of_isSecondByte hsecond
        split at h
        · cases h
        · split at h
          · rename_i hthird
            split at h
            · cases h
            · split at h
              · rename_i hfourth
                cases h
                rw [encodeChar_four (by omega) (payload_lt _) (payload_lt _) (payload_lt _)
                  (by rw [payload]; omega) (by rw [payload]; omega), ofNat_payload hb,
                  ofNat_payload (isContinuation_iff.mp hthird),
                  ofNat_payload (isContinuation_iff.mp hfourth),
                  ofNat_eq_of_toNat (b := first) (by omega)]
                rfl
              · cases h
          · cases h
      · cases h
  · cases h

end Utf8Step

theorem encodeChar_append_inj {d : Char} {rest' : Bytes}
    (h : String.utf8EncodeChar c ++ rest = String.utf8EncodeChar d ++ rest') :
    c = d ∧ rest = rest' := by
  obtain ⟨first, more, hc, hread⟩ := Utf8Step.next_encodeChar c rest
  obtain ⟨first', more', hd, hread'⟩ := Utf8Step.next_encodeChar d rest'
  rw [hc, hd, List.cons_append, List.cons_append, List.cons.injEq] at h
  rw [h.1, h.2, hread'] at hread
  cases hread
  exact ⟨rfl, rfl⟩

/-! ## Texts -/

theorem encodeChars_cons (c : Char) (cs : List Char) :
    encodeChars (c :: cs) = String.utf8EncodeChar c ++ encodeChars cs :=
  List.flatMap_cons

theorem encodeChars_append (front back : List Char) :
    encodeChars (front ++ back) = encodeChars front ++ encodeChars back :=
  List.flatMap_append

theorem length_le_encodeChars (cs : List Char) : cs.length ≤ (encodeChars cs).length := by
  induction cs with
  | nil => exact Nat.zero_le _
  | cons c tail ih =>
      obtain ⟨first, more, hencode, _⟩ := Utf8Step.next_encodeChar c []
      rw [encodeChars_cons, hencode, List.length_cons, List.length_append, List.length_cons]
      omega

theorem decodeFrom_encodeChars (index : Nat) (cs : List Char) :
    decodeFrom index (encodeChars cs) = .ok cs := by
  induction cs generalizing index with
  | nil => rw [encodeChars, List.flatMap_nil, decodeFrom]
  | cons c tail ih =>
      obtain ⟨first, more, hencode, hnext⟩ := Utf8Step.next_encodeChar c (encodeChars tail)
      have hshape : encodeChars (c :: tail) = first :: (more ++ encodeChars tail) := by
        rw [encodeChars_cons, hencode, List.cons_append]
      rw [hshape, decodeFrom]
      split
      · rename_i d after hd
        rw [hnext] at hd
        cases hd
        rw [ih]
        rfl
      · rename_i length after hd
        rw [hnext] at hd
        cases hd
      · rename_i hd
        rw [hnext] at hd
        cases hd

/-- An encoded text is read back. -/
theorem decode_encode (s : String) : decode (encode s) = .ok s := by
  rw [decode, decodeChars, encode, decodeFrom_encodeChars]
  exact congrArg Except.ok (String.ofList_toList)

theorem encodeChars_of_decodeFrom {index : Nat} {bytes : Bytes} {cs : List Char}
    (h : decodeFrom index bytes = .ok cs) : bytes = encodeChars cs := by
  induction cs generalizing index bytes with
  | nil =>
      cases bytes with
      | nil => rfl
      | cons first rest =>
          rw [decodeFrom] at h
          split at h
          · rename_i c rest' hnext
            cases hmore : decodeFrom (index + c.utf8Size) rest' with
            | error fault => rw [hmore] at h; cases h
            | ok more => rw [hmore] at h; cases h
          · cases h
          · cases h
  | cons c tail ih =>
      cases bytes with
      | nil => rw [decodeFrom] at h; cases h
      | cons first rest =>
          rw [decodeFrom] at h
          split at h
          · rename_i d rest' hnext
            cases hmore : decodeFrom (index + d.utf8Size) rest' with
            | error fault => rw [hmore] at h; cases h
            | ok more =>
                rw [hmore] at h
                cases h
                rw [Utf8Step.eq_of_next hnext, encodeChars_cons, ← ih hmore]
          · cases h
          · cases h

/-- What is decoded is an encoding. -/
theorem encode_of_decode {bytes : Bytes} {s : String} (h : decode bytes = .ok s) :
    bytes = encode s := by
  rw [decode] at h
  cases hchars : decodeChars bytes with
  | error fault => rw [hchars] at h; cases h
  | ok cs =>
      rw [hchars] at h
      cases h
      rw [encode, String.toList_ofList]
      exact encodeChars_of_decodeFrom hchars

theorem decode_eq_ok_iff {bytes : Bytes} {s : String} : decode bytes = .ok s ↔ bytes = encode s :=
  ⟨encode_of_decode, fun h => h ▸ decode_encode s⟩

theorem decodeLossyChars_encodeChars (cs : List Char) :
    decodeLossyChars (encodeChars cs) = cs := by
  induction cs with
  | nil => rw [encodeChars, List.flatMap_nil, decodeLossyChars]
  | cons c tail ih =>
      obtain ⟨first, more, hencode, hnext⟩ := Utf8Step.next_encodeChar c (encodeChars tail)
      have hshape : encodeChars (c :: tail) = first :: (more ++ encodeChars tail) := by
        rw [encodeChars_cons, hencode, List.cons_append]
      rw [hshape, decodeLossyChars]
      split
      · rename_i d after hd
        rw [hnext] at hd
        cases hd
        rw [ih]
      · rename_i length after hd
        rw [hnext] at hd
        cases hd
      · rename_i hd
        rw [hnext] at hd
        cases hd

/-- Nothing in an encoded text needs to be replaced. -/
theorem decodeLossy_encode (s : String) : decodeLossy (encode s) = s := by
  rw [decodeLossy, encode, decodeLossyChars_encodeChars, String.ofList_toList]

end Quadlink.Text
