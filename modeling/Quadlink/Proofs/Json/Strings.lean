import Quadlink.Json.Scalar
import Quadlink.Proofs.Codec.Percent
import Quadlink.Proofs.Text.Numerals
import Quadlink.Proofs.Text.Utf8

/-!
# Strings of JSON

The ways to write a text as a JSON string, whoever writes it: each character as it is or behind a
backslash, in one of up to four forms (`IsCharText`). However it is written, it is read as the text
(`IsBody.readString?`).

Not every string stands for a text. A half of a pair of surrogates can be written without the other
(`IsEscaped`), and does no harm in a string that nobody reads: where a string ends depends on its
pieces only (`lexString_eq_some_iff`).
-/

namespace Quadlink.Json

open Text Codec

/-! ## The grammar -/

def shortEscapes : List (Char × Char) :=
  [('"', '"'), ('\\', '\\'), ('/', '/'), ('b', '\x08'), ('f', '\x0C'), ('n', '\n'), ('r', '\r'),
    ('t', '\t')]

/-- The ways to write a character within a string: as it is, by one letter behind a backslash, or by
its code units, of which there are two for a character beyond 16 bits. -/
inductive IsCharText : Char → List Char → Prop where
  | plain {c : Char} (hcontrol : 0x20 ≤ c.toNat) (hquote : c ≠ '"') (hslash : c ≠ '\\') :
      IsCharText c [c]
  | short {c letter : Char} (h : (letter, c) ∈ shortEscapes) : IsCharText c ['\\', letter]
  | unit {c w x y z : Char} (h : hexNumber? [w, x, y, z] = some c.toNat) :
      IsCharText c ['\\', 'u', w, x, y, z]
  | pair {c w x y z w' x' y' z' : Char} {high low : Nat}
      (hhigh : hexNumber? [w, x, y, z] = some (0xD800 + high))
      (hlow : hexNumber? [w', x', y', z'] = some (0xDC00 + low)) (hlt : high < 0x400)
      (hlt' : low < 0x400) (hvalue : c.toNat = 0x10000 + high * 0x400 + low) :
      IsCharText c ['\\', 'u', w, x, y, z, '\\', 'u', w', x', y', z']

/-- The ways to write a text between the quotes of a string, character by character. -/
inductive IsBody : List Char → List Char → Prop where
  | nil : IsBody [] []
  | cons {c : Char} {text cs body : List Char} (hchar : IsCharText c text) (hrest : IsBody cs body) :
      IsBody (c :: cs) (text ++ body)

/-- One piece of a string: a character as it is, or an escape. The four digits of an escape may be
those of a surrogate, which is no character. -/
inductive IsPiece : List Char → Prop where
  | plain {c : Char} (hcontrol : 0x20 ≤ c.toNat) (hquote : c ≠ '"') (hslash : c ≠ '\\') :
      IsPiece [c]
  | short {letter : Char} (h : letter ∈ shortEscapes.map Prod.fst) : IsPiece ['\\', letter]
  | unit {w x y z : Char} {n : Nat} (h : hexNumber? [w, x, y, z] = some n) :
      IsPiece ['\\', 'u', w, x, y, z]

/-- What may stand between the quotes of a string, whether it stands for a text or not. Half of a
surrogate pair may be escaped alone, and a string that nobody asks for is not looked into. -/
inductive IsEscaped : List Char → Prop where
  | nil : IsEscaped []
  | cons {text body : List Char} (hpiece : IsPiece text) (hrest : IsEscaped body) :
      IsEscaped (text ++ body)

/-- A written character is one piece, or two for a pair of surrogates. -/
theorem IsCharText.isEscaped {c : Char} {text body : List Char} (h : IsCharText c text)
    (hbody : IsEscaped body) : IsEscaped (text ++ body) := by
  cases h with
  | plain hcontrol hquote hslash => exact .cons (.plain hcontrol hquote hslash) hbody
  | short h => exact .cons (.short (List.mem_map_of_mem h)) hbody
  | unit h => exact .cons (.unit h) hbody
  | pair hhigh hlow _ _ _ =>
      have hboth := IsEscaped.cons (.unit hhigh) (IsEscaped.cons (.unit hlow) hbody)
      exact hboth

theorem IsBody.isEscaped {cs body : List Char} (h : IsBody cs body) : IsEscaped body := by
  induction h with
  | nil => exact .nil
  | cons hchar _ ih => exact hchar.isEscaped ih

/-! ## Bytes of written characters -/

theorem utf8EncodeChar_of_ascii {c : Char} (h : c.toNat < 128) :
    String.utf8EncodeChar c = [byte c] := by
  have hsmall : c.val.toNat ≤ 127 := by
    have hlt : c.val.toNat < 128 := h
    omega
  unfold String.utf8EncodeChar
  dsimp only
  rw [if_pos hsmall]
  rfl

theorem toNat_byte {c : Char} (h : c.toNat < 128) : (byte c).toNat = c.toNat :=
  toNat_ofNat_of_lt (by omega)

theorem byte_eq_iff {c d : Char} (hc : c.toNat < 128) (hd : d.toNat < 128) :
    byte c = byte d ↔ c = d := by
  rw [← UInt8.toNat_inj, toNat_byte hc, toNat_byte hd]
  refine ⟨fun h => ?_, fun h => by rw [h]⟩
  rw [← Char.ofNat_toNat c, h, Char.ofNat_toNat]

/-- The bytes of a character that may stand for itself end neither a string nor anything in it. -/
theorem plain_of_mem_utf8EncodeChar {c : Char} (hcontrol : 0x20 ≤ c.toNat) (hquote : c ≠ '"')
    (hslash : c ≠ '\\') {b : UInt8} (h : b ∈ String.utf8EncodeChar c) :
    ¬ b < 0x20 ∧ b ≠ byte '"' ∧ b ≠ byte '\\' := by
  have hnat : ∀ k : Nat, k < 128 → k ≠ b.toNat → b ≠ UInt8.ofNat k := by
    rintro k hk hne rfl
    exact hne (toNat_ofNat_of_lt (by omega)).symm
  by_cases hascii : c.toNat < 128
  · rw [utf8EncodeChar_of_ascii hascii, List.mem_singleton] at h
    subst h
    refine ⟨?_, fun heq => hquote ?_, fun heq => hslash ?_⟩
    · rw [UInt8.lt_iff_toNat_lt, toNat_byte hascii]
      exact Nat.not_lt.mpr hcontrol
    · exact (byte_eq_iff hascii (by decide)).mp heq
    · exact (byte_eq_iff hascii (by decide)).mp heq
  · have hlarge : 128 ≤ b.toNat := by
      have hvalue : ¬ c.val.toNat ≤ 127 := by
        have hge : ¬ c.val.toNat < 128 := hascii
        omega
      unfold String.utf8EncodeChar at h
      dsimp only at h
      rw [if_neg hvalue] at h
      split at h
      · simp only [List.mem_cons, List.not_mem_nil, or_false] at h
        rcases h with rfl | rfl <;> rw [toNat_ofNat_of_lt (by omega)] <;> omega
      · split at h
        · simp only [List.mem_cons, List.not_mem_nil, or_false] at h
          rcases h with rfl | rfl | rfl <;> rw [toNat_ofNat_of_lt (by omega)] <;> omega
        · simp only [List.mem_cons, List.not_mem_nil, or_false] at h
          rcases h with rfl | rfl | rfl | rfl <;> rw [toNat_ofNat_of_lt (by omega)] <;> omega
    refine ⟨?_, hnat 34 (by omega) (by omega), hnat 92 (by omega) (by omega)⟩
    rw [UInt8.lt_iff_toNat_lt]
    exact Nat.not_lt.mpr (Nat.le_trans (by decide) hlarge)

/-- A hexadecimal digit is one byte, with the same value. -/
theorem hexOf?_of_hexValue? {c : Char} {n : Nat} (h : Percent.hexValue? c = some n) :
    String.utf8EncodeChar c = [byte c] ∧ hexOf? (byte c) = some n := by
  have hsome : (Percent.hexValue? c).isSome = true := by rw [h]; rfl
  have hascii : c.toNat < 128 := Percent.lt_of_hexValue? hsome
  have hsame : hexOf? (byte c) = Percent.hexValue? c :=
    Percent.forall_hexValue? (P := fun c => hexOf? (byte c) = Percent.hexValue? c) (by decide) hsome
  exact ⟨utf8EncodeChar_of_ascii hascii, hsame.trans h⟩

/-- An escape with four digits in bytes. -/
theorem unit_of_hexNumber? {w x y z : Char} {n : Nat} (h : hexNumber? [w, x, y, z] = some n) :
    (∀ more, encodeChars ('\\' :: 'u' :: w :: x :: y :: z :: more)
        = byte '\\' :: byte 'u' :: byte w :: byte x :: byte y :: byte z :: encodeChars more)
      ∧ hexUnit (byte w) (byte x) (byte y) (byte z) = n
      ∧ [byte w, byte x, byte y, byte z].all (fun h => (hexOf? h).isSome) = true := by
  obtain ⟨a, b, c, d, hw, hx, hy, hz, rfl⟩ := hexNumber?_four h
  obtain ⟨hw, hw'⟩ := hexOf?_of_hexValue? hw
  obtain ⟨hx, hx'⟩ := hexOf?_of_hexValue? hx
  obtain ⟨hy, hy'⟩ := hexOf?_of_hexValue? hy
  obtain ⟨hz, hz'⟩ := hexOf?_of_hexValue? hz
  refine ⟨fun more => ?_, by simp [hexUnit, hw', hx', hy', hz'], by simp [hw', hx', hy', hz']⟩
  have hslash : String.utf8EncodeChar '\\' = [byte '\\'] := by decide
  have hletter : String.utf8EncodeChar 'u' = [byte 'u'] := by decide
  simp only [encodeChars_cons, hslash, hletter, hw, hx, hy, hz, List.singleton_append]

/-! ## The end of a string -/

section Ends

variable {b e w x y z : UInt8} {rest : Bytes}

theorem lexString_quote : lexString (byte '"' :: rest) = some ([], rest) := by
  rw [lexString.eq_def]
  rfl

theorem lexString_plain (hcontrol : ¬b < 0x20) (hquote : b ≠ byte '"') (hslash : b ≠ byte '\\') :
    lexString (b :: rest) = (lexString rest).map fun parts => (b :: parts.1, parts.2) := by
  rw [lexString.eq_def]
  simp only [beq_iff_eq, hquote, hslash, hcontrol, if_false]

theorem lexString_short (h : isEscape e = true) :
    lexString (byte '\\' :: e :: rest)
      = (lexString rest).map fun parts => (byte '\\' :: e :: parts.1, parts.2) := by
  have hquote : ¬byte '\\' = byte '"' := by decide
  rw [lexString.eq_def]
  simp only [beq_iff_eq, hquote, h, if_false, if_true]

theorem lexString_unit (h : [w, x, y, z].all (fun h => (hexOf? h).isSome) = true) :
    lexString (byte '\\' :: byte 'u' :: w :: x :: y :: z :: rest)
      = (lexString rest).map fun parts =>
          (byte '\\' :: byte 'u' :: w :: x :: y :: z :: parts.1, parts.2) := by
  have hquote : ¬byte '\\' = byte '"' := by decide
  have hletter : isEscape (byte 'u') = false := by decide
  rw [lexString.eq_def]
  simp only [beq_iff_eq, hquote, hletter, h, if_false, if_true, Bool.false_eq_true]

/-- The bytes of a string between its quotes, piece by piece. Bytes that are no UTF-8 are pieces
too: only who reads the string decodes it. -/
inductive IsRaw : Bytes → Prop where
  | nil : IsRaw []
  | plain {b : UInt8} {rest : Bytes} (hcontrol : ¬b < 0x20) (hquote : b ≠ byte '"')
      (hslash : b ≠ byte '\\') (hrest : IsRaw rest) : IsRaw (b :: rest)
  | short {e : UInt8} {rest : Bytes} (h : isEscape e = true) (hrest : IsRaw rest) :
      IsRaw (byte '\\' :: e :: rest)
  | unit {w x y z : UInt8} {rest : Bytes}
      (h : [w, x, y, z].all (fun h => (hexOf? h).isSome) = true) (hrest : IsRaw rest) :
      IsRaw (byte '\\' :: byte 'u' :: w :: x :: y :: z :: rest)

theorem IsRaw.lexString {raw : Bytes} (h : IsRaw raw) (rest : Bytes) :
    lexString (raw ++ byte '"' :: rest) = some (raw, rest) := by
  induction h with
  | nil => exact lexString_quote
  | plain hcontrol hquote hslash _ ih =>
      rw [List.cons_append, lexString_plain hcontrol hquote hslash, ih]
      rfl
  | short h _ ih =>
      rw [List.cons_append, List.cons_append, lexString_short h, ih]
      rfl
  | unit h _ ih =>
      simp only [List.cons_append]
      rw [lexString_unit h, ih]
      rfl

theorem isRaw_of_lexString {bytes raw : Bytes} (h : lexString bytes = some (raw, rest)) :
    IsRaw raw ∧ bytes = raw ++ byte '"' :: rest := by
  fun_induction lexString bytes generalizing raw rest with
  | case1 => cases h
  | case2 b after hquote =>
      cases h
      exact ⟨.nil, by rw [eq_of_beq hquote]; rfl⟩
  | case3 => cases h
  | case4 b _ hslash e after hescape ih =>
      obtain ⟨parts, hparts, heq⟩ := Option.map_eq_some_iff.mp h
      cases heq
      obtain ⟨hraw, rfl⟩ := ih hparts
      rw [eq_of_beq hslash]
      exact ⟨.short hescape hraw, rfl⟩
  | case5 b _ hslash e _ hletter w x y z after hdigits ih =>
      obtain ⟨parts, hparts, heq⟩ := Option.map_eq_some_iff.mp h
      cases heq
      obtain ⟨hraw, rfl⟩ := ih hparts
      rw [eq_of_beq hslash, eq_of_beq hletter]
      exact ⟨.unit hdigits hraw, rfl⟩
  | case6 => cases h
  | case7 => cases h
  | case8 => cases h
  | case9 => cases h
  | case10 b after hquote hslash hcontrol ih =>
      obtain ⟨parts, hparts, heq⟩ := Option.map_eq_some_iff.mp h
      cases heq
      obtain ⟨hraw, rfl⟩ := ih hparts
      exact ⟨.plain hcontrol (by simpa using hquote) (by simpa using hslash) hraw, rfl⟩

/-- A string is cut out up to the first quote that is no part of a piece. -/
theorem lexString_eq_some_iff {bytes raw : Bytes} :
    lexString bytes = some (raw, rest) ↔ IsRaw raw ∧ bytes = raw ++ byte '"' :: rest :=
  ⟨isRaw_of_lexString, fun ⟨h, hbytes⟩ => hbytes ▸ h.lexString rest⟩

end Ends

/-! ## What a string stands for -/

section Meaning

variable {b e w x y z w' x' y' z' : UInt8} {rest : Bytes}

theorem resolveEscapes_plain (h : b ≠ byte '\\') :
    resolveEscapes (b :: rest) = (resolveEscapes rest).map (b :: ·) := by
  rw [resolveEscapes.eq_def]
  simp only [beq_iff_eq, h, if_false]

theorem resolveEscapes_short (h : e ≠ byte 'u') :
    resolveEscapes (byte '\\' :: e :: rest) = (resolveEscapes rest).map (escapedByte e :: ·) := by
  rw [resolveEscapes.eq_def]
  simp only [beq_iff_eq, h, if_false, if_true]

theorem resolveEscapes_unit (hlow : isLowSurrogate (hexUnit w x y z) = false)
    (hhigh : isHighSurrogate (hexUnit w x y z) = false) :
    resolveEscapes (byte '\\' :: byte 'u' :: w :: x :: y :: z :: rest)
      = (resolveEscapes rest).map (String.utf8EncodeChar (Char.ofNat (hexUnit w x y z)) ++ ·) := by
  rw [resolveEscapes.eq_def]
  simp only [beq_iff_eq, hlow, hhigh, if_true, if_false, Bool.false_eq_true]

theorem resolveEscapes_pair (hlow : isLowSurrogate (hexUnit w x y z) = false)
    (hhigh : isHighSurrogate (hexUnit w x y z) = true)
    (hnext : isLowSurrogate (hexUnit w' x' y' z') = true) :
    resolveEscapes (byte '\\' :: byte 'u' :: w :: x :: y :: z
        :: byte '\\' :: byte 'u' :: w' :: x' :: y' :: z' :: rest)
      = (resolveEscapes rest).map
          (String.utf8EncodeChar (pairedChar (hexUnit w x y z) (hexUnit w' x' y' z')) ++ ·) := by
  have hpair : lowSurrogate? (byte '\\' :: byte 'u' :: w' :: x' :: y' :: z' :: rest)
      = some (hexUnit w' x' y' z', rest) := by
    simp [lowSurrogate?, hnext]
  rw [resolveEscapes.eq_def]
  simp only [beq_iff_eq, hlow, hhigh, if_true, if_false, Bool.false_eq_true]
  split
  · rename_i hnone
    rw [hpair] at hnone
    cases hnone
  · rename_i low after hsome
    rw [hpair] at hsome
    cases hsome
    rfl

end Meaning

/-! ## Written characters -/

section Characters

variable {c letter : Char} {text : List Char} {rest front : Bytes}

/-- The letter of a short escape and the byte that it stands for. -/
theorem short_of_mem (h : (letter, c) ∈ shortEscapes) :
    encodeChars ['\\', letter] = [byte '\\', byte letter] ∧ isEscape (byte letter) = true
      ∧ byte letter ≠ byte 'u' ∧ String.utf8EncodeChar c = [escapedByte (byte letter)] := by
  simp only [shortEscapes, List.mem_cons, List.not_mem_nil, or_false, Prod.mk.injEq] at h
  rcases h with ⟨rfl, rfl⟩ | ⟨rfl, rfl⟩ | ⟨rfl, rfl⟩ | ⟨rfl, rfl⟩ | ⟨rfl, rfl⟩ | ⟨rfl, rfl⟩
    | ⟨rfl, rfl⟩ | ⟨rfl, rfl⟩ <;> exact ⟨by decide, by decide, by decide, by decide⟩

theorem IsRaw.run (h : ∀ b ∈ front, ¬b < 0x20 ∧ b ≠ byte '"' ∧ b ≠ byte '\\') (hrest : IsRaw rest) :
    IsRaw (front ++ rest) := by
  induction front with
  | nil => exact hrest
  | cons b tail ih =>
      obtain ⟨⟨hcontrol, hquote, hslash⟩, htail⟩ := List.forall_mem_cons.mp h
      exact .plain hcontrol hquote hslash (ih htail)

theorem resolveEscapes_run (h : ∀ b ∈ front, b ≠ byte '\\') :
    resolveEscapes (front ++ rest) = (resolveEscapes rest).map (front ++ ·) := by
  induction front with
  | nil => simp
  | cons b tail ih =>
      obtain ⟨hslash, htail⟩ := List.forall_mem_cons.mp h
      rw [List.cons_append, resolveEscapes_plain hslash, ih htail, Option.map_map]
      rfl

theorem IsPiece.isRaw (h : IsPiece text) (hrest : IsRaw rest) :
    IsRaw (encodeChars text ++ rest) := by
  cases h with
  | plain hcontrol hquote hslash =>
      rw [encodeChars_cons, encodeChars, List.flatMap_nil, List.append_nil]
      exact .run (fun b hb => plain_of_mem_utf8EncodeChar hcontrol hquote hslash hb) hrest
  | short h =>
      obtain ⟨⟨letter, c⟩, hmem, rfl⟩ := List.mem_map.mp h
      obtain ⟨hbytes, hletter, _, _⟩ := short_of_mem hmem
      rw [hbytes]
      exact .short hletter hrest
  | unit h =>
      obtain ⟨hbytes, _, hall⟩ := unit_of_hexNumber? h
      rw [hbytes]
      exact .unit hall hrest

theorem IsEscaped.isRaw {body : List Char} (h : IsEscaped body) : IsRaw (encodeChars body) := by
  induction h with
  | nil => exact .nil
  | cons hpiece _ ih =>
      rw [encodeChars_append]
      exact hpiece.isRaw ih

/-- A written character stands for its own encoding. -/
theorem IsCharText.resolveEscapes (h : IsCharText c text) (rest : Bytes) :
    resolveEscapes (encodeChars text ++ rest)
      = (Json.resolveEscapes rest).map (String.utf8EncodeChar c ++ ·) := by
  cases h with
  | plain hcontrol hquote hslash =>
      rw [encodeChars_cons, encodeChars, List.flatMap_nil, List.append_nil]
      exact resolveEscapes_run fun b hb => (plain_of_mem_utf8EncodeChar hcontrol hquote hslash hb).2.2
  | short h =>
      obtain ⟨hbytes, _, hletter, hvalue⟩ := short_of_mem h
      rw [hbytes, hvalue]
      exact resolveEscapes_short hletter
  | @unit w x y z h =>
      obtain ⟨hbytes, hvalue, _⟩ := unit_of_hexNumber? h
      have hchar : c.toNat < 0xD800 ∨ 0xDFFF < c.toNat ∧ c.toNat < 0x110000 := c.valid
      have hunit := @resolveEscapes_unit (byte w) (byte x) (byte y) (byte z) rest
        (by rw [hvalue, isLowSurrogate]; simp; omega)
        (by rw [hvalue, isHighSurrogate]; simp; omega)
      rw [hvalue, Char.ofNat_toNat] at hunit
      rw [hbytes]
      exact hunit
  | @pair w x y z w' x' y' z' high low hhigh hlow hlt hlt' hc =>
      obtain ⟨hbytes, hvalue, _⟩ := unit_of_hexNumber? hhigh
      obtain ⟨hbytes', hvalue', _⟩ := unit_of_hexNumber? hlow
      have hpair := @resolveEscapes_pair (byte w) (byte x) (byte y) (byte z) (byte w') (byte x')
        (byte y') (byte z') rest
        (by rw [hvalue, isLowSurrogate]; simp; omega)
        (by rw [hvalue, isHighSurrogate]; simp; omega)
        (by rw [hvalue', isLowSurrogate]; simp; omega)
      have hpaired : pairedChar (0xD800 + high) (0xDC00 + low) = c := by
        rw [pairedChar, Nat.add_sub_cancel_left, Nat.add_sub_cancel_left, ← hc, Char.ofNat_toNat]
      rw [hvalue, hvalue', hpaired] at hpair
      rw [hbytes, hbytes']
      exact hpair

end Characters

/-! ## Written texts -/

variable {cs body : List Char}

theorem resolveEscapes_body (h : IsBody cs body) :
    resolveEscapes (encodeChars body) = some (encodeChars cs) := by
  induction h with
  | nil => rw [encodeChars, List.flatMap_nil, resolveEscapes]
  | cons hchar _ ih =>
      rw [encodeChars_append, hchar.resolveEscapes, ih]
      rfl

/-- However a text is written, it is read. -/
theorem IsBody.readString? {s : String} (h : IsBody s.toList body) :
    readString? (encodeChars body) = some s := by
  have hdecode : decode (encodeChars s.toList) = .ok s := decode_encode s
  rw [Json.readString?, resolveEscapes_body h]
  simp only [hdecode]

end Quadlink.Json
