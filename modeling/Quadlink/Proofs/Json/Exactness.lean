import Mathlib.Data.List.Chain
import Quadlink.Proofs.Json.Documents

/-!
# What is read is JSON

The converse of reading what is written: a document that is read has been written, in the grammar
of `Proofs.Json.Documents` and no other way. With that the grammar and the reader say the same,
and a text that is not read is not JSON.

The proof takes the reader apart level by level, each with what it leaves of the bytes.

* Strings. Resolving escapes works on bytes, the grammar on characters, and the two meet only if
  the resolved bytes are UTF-8. A byte that continues a character then cannot come from an escape
  (`resolveEscapes_continuation`), so the bytes can be cut where the characters end
  (`readString?_eq_some_iff`).
* Numbers and tokens. The reader does not look behind a number, and would read `1true` as two
  tokens; the grammar forbids that. It is the structure of documents that rules it out: behind a
  number stands a comma or a closing mark (`isChain_tokens`).
* Documents. What is read is its own tokens (`tokens_of_readValue`).

A document whose strings stand for no text can be read too, out of bytes that are no UTF-8 and so
no text at all. `isText_of_parse` therefore asks that each string can be read.
-/

namespace Quadlink.Json

open Text Codec

/-! ## Strings -/

theorem lt_of_hexOf? {b : UInt8} (h : (hexOf? b).isSome = true) : b.toNat < 128 := by
  simp only [hexOf?, isDigit, Bool.and_eq_true, decide_eq_true_eq, UInt8.le_iff_toNat_le] at h
  split at h
  · rename_i hrange
    exact Nat.lt_of_le_of_lt hrange.2 (by decide)
  · split at h
    · rename_i hrange
      exact Nat.lt_of_le_of_lt hrange.2 (by decide)
    · split at h
      · rename_i hrange
        exact Nat.lt_of_le_of_lt hrange.2 (by decide)
      · cases h

/-- The byte of a hexadecimal digit, as the character that it is. -/
theorem hexOf?_eq_hexValue? {b : UInt8} (h : b.toNat < 128) :
    hexOf? b = Percent.hexValue? (Char.ofNat b.toNat) := by
  have hall : ∀ n < 128, hexOf? (UInt8.ofNat n) = Percent.hexValue? (Char.ofNat n) := by decide
  have hb := hall b.toNat h
  rwa [UInt8.ofNat_toNat] at hb

theorem encodeChars_ofNat {b : UInt8} (h : b.toNat < 128) :
    String.utf8EncodeChar (Char.ofNat b.toNat) = [b] := by
  rw [encodeChar_one h, UInt8.ofNat_toNat]

theorem lt_of_hexValue?_eq {c : Char} {n : Nat} (h : Percent.hexValue? c = some n) : n < 16 := by
  have hall : ∀ n < 128, ∀ v ∈ Percent.hexValue? (Char.ofNat n), v < 16 := by decide
  have hc := hall c.toNat (Percent.lt_of_hexValue? (by rw [h]; rfl))
  rw [Char.ofNat_toNat] at hc
  exact hc n h

/-- Four hexadecimal digits in bytes, as the characters that they are. -/
theorem exists_hexNumber? {w x y z : UInt8}
    (h : [w, x, y, z].all (fun h => (hexOf? h).isSome) = true) :
    ∃ a b c d, encodeChars [a, b, c, d] = [w, x, y, z]
      ∧ hexNumber? [a, b, c, d] = some (hexUnit w x y z) ∧ hexUnit w x y z < 0x10000 := by
  simp only [List.all_cons, List.all_nil, Bool.and_true, Bool.and_eq_true] at h
  obtain ⟨hw, hx, hy, hz⟩ := h
  have hdigit : ∀ b : UInt8, (hexOf? b).isSome = true → ∃ n < 16, hexOf? b = some n
      ∧ Percent.hexValue? (Char.ofNat b.toNat) = some n
      ∧ String.utf8EncodeChar (Char.ofNat b.toNat) = [b] := by
    intro b hb
    obtain ⟨n, hn⟩ := Option.isSome_iff_exists.mp hb
    have hascii := lt_of_hexOf? hb
    have hvalue := (hexOf?_eq_hexValue? hascii).symm.trans hn
    exact ⟨n, lt_of_hexValue?_eq hvalue, hn, hvalue, encodeChars_ofNat hascii⟩
  obtain ⟨i, hi, hw, hw', hwb⟩ := hdigit w hw
  obtain ⟨j, hj, hx, hx', hxb⟩ := hdigit x hx
  obtain ⟨k, hk, hy, hy', hyb⟩ := hdigit y hy
  obtain ⟨l, hl, hz, hz', hzb⟩ := hdigit z hz
  refine ⟨Char.ofNat w.toNat, Char.ofNat x.toNat, Char.ofNat y.toNat, Char.ofNat z.toNat, ?_, ?_,
    ?_⟩
  · rw [encodeChars_cons, encodeChars_cons, encodeChars_cons, encodeChars_cons, hwb, hxb, hyb, hzb]
    rfl
  · simp [hexNumber?, hexUnit, hw, hx, hy, hz, hw', hx', hy', hz']
  · simp only [hexUnit, hw, hx, hy, hz, Option.getD_some]
    omega

/-- The bytes that a short escape stands for are one byte that continues nothing. -/
theorem exists_short {e : UInt8} (h : isEscape e = true) :
    ∃ letter c, (letter, c) ∈ shortEscapes ∧ byte letter = e ∧ e ≠ byte 'u'
      ∧ String.utf8EncodeChar c = [escapedByte e] := by
  have hall : ∀ pair ∈ shortEscapes, byte pair.1 ≠ byte 'u'
      ∧ String.utf8EncodeChar pair.2 = [escapedByte (byte pair.1)] := by decide
  have hletter : ∃ pair ∈ shortEscapes, byte pair.1 = e := by
    simp only [isEscape, List.any_eq_true, beq_iff_eq] at h
    obtain ⟨letter, hmem, rfl⟩ := h
    have hletters : ['"', '\\', '/', 'b', 'f', 'n', 'r', 't'] = shortEscapes.map Prod.fst := rfl
    rw [hletters] at hmem
    obtain ⟨pair, hpair, rfl⟩ := List.mem_map.mp hmem
    exact ⟨pair, hpair, rfl⟩
  obtain ⟨⟨letter, c⟩, hmem, rfl⟩ := hletter
  exact ⟨letter, c, hmem, rfl, hall _ hmem⟩

theorem lowSurrogate?_eq_some {bytes rest : Bytes} {low : Nat}
    (h : lowSurrogate? bytes = some (low, rest)) :
    ∃ w x y z, bytes = byte '\\' :: byte 'u' :: w :: x :: y :: z :: rest
      ∧ low = hexUnit w x y z ∧ isLowSurrogate low = true := by
  unfold lowSurrogate? at h
  split at h
  · split at h
    · rename_i b u w x y z after hguard
      cases h
      simp only [Bool.and_eq_true, beq_iff_eq] at hguard
      obtain ⟨⟨rfl, rfl⟩, hlow⟩ := hguard
      exact ⟨w, x, y, z, rfl, rfl, hlow⟩
    · cases h
  · cases h

theorem IsRaw.of_unit {w x y z : UInt8} {rest : Bytes}
    (h : IsRaw (byte '\\' :: byte 'u' :: w :: x :: y :: z :: rest)) :
    [w, x, y, z].all (fun h => (hexOf? h).isSome) = true ∧ IsRaw rest := by
  cases h with
  | plain _ _ hslash _ => exact absurd rfl hslash
  | short hescape _ => exact absurd hescape (by decide)
  | unit hdigits hrest => exact ⟨hdigits, hrest⟩

/-- An escape with four digits, in bytes and in characters. -/
theorem exists_unit {w x y z : UInt8}
    (h : [w, x, y, z].all (fun h => (hexOf? h).isSome) = true) :
    ∃ a b c d, hexNumber? [a, b, c, d] = some (hexUnit w x y z)
      ∧ ∀ rest, byte '\\' :: byte 'u' :: w :: x :: y :: z :: rest
        = encodeChars ['\\', 'u', a, b, c, d] ++ rest := by
  obtain ⟨a, b, c, d, hbytes, hnumber, -⟩ := exists_hexNumber? h
  have hslash : encodeChars ['\\', 'u'] = [byte '\\', byte 'u'] := by decide
  have happend := encodeChars_append ['\\', 'u'] [a, b, c, d]
  rw [hslash, hbytes] at happend
  refine ⟨a, b, c, d, hnumber, fun rest => ?_⟩
  rw [show ['\\', 'u', a, b, c, d] = ['\\', 'u'] ++ [a, b, c, d] from rfl, happend]
  rfl

/-- Two escapes that are the halves of a character are a way to write it. -/
theorem exists_pair {w x y z w' x' y' z' : UInt8} {rest : Bytes}
    (hdigits : [w, x, y, z].all (fun h => (hexOf? h).isSome) = true)
    (hdigits' : [w', x', y', z'].all (fun h => (hexOf? h).isSome) = true)
    (hhigh : isHighSurrogate (hexUnit w x y z) = true)
    (hlow : isLowSurrogate (hexUnit w' x' y' z') = true) :
    ∃ text, IsCharText (pairedChar (hexUnit w x y z) (hexUnit w' x' y' z')) text
      ∧ byte '\\' :: byte 'u' :: w :: x :: y :: z
          :: byte '\\' :: byte 'u' :: w' :: x' :: y' :: z' :: rest = encodeChars text ++ rest := by
  obtain ⟨a, b, c, d, hnumber, hbytes⟩ := exists_unit hdigits
  obtain ⟨a', b', c', d', hnumber', hbytes'⟩ := exists_unit hdigits'
  simp only [isLowSurrogate, isHighSurrogate, Bool.and_eq_true, decide_eq_true_eq] at hhigh hlow
  have hvalue : (pairedChar (hexUnit w x y z) (hexUnit w' x' y' z')).toNat
      = 0x10000 + (hexUnit w x y z - 0xD800) * 0x400 + (hexUnit w' x' y' z' - 0xDC00) :=
    toNat_val_ofNat (by rw [Nat.isValidChar]; omega)
  refine ⟨['\\', 'u', a, b, c, d, '\\', 'u', a', b', c', d'],
    @IsCharText.pair _ a b c d a' b' c' d' (hexUnit w x y z - 0xD800)
      (hexUnit w' x' y' z' - 0xDC00) ?_ ?_ (by omega) (by omega) hvalue, ?_⟩
  · exact hnumber.trans (congrArg some (by omega))
  · exact hnumber'.trans (congrArg some (by omega))
  · rw [hbytes, hbytes', ← List.append_assoc, ← encodeChars_append]
    rfl

/-- What an escape with four digits stands for: a character, or a half of one whose other half
follows. -/
theorem resolveEscapes_unit_cases {w x y z : UInt8} {rest out : Bytes}
    (hraw : IsRaw (byte '\\' :: byte 'u' :: w :: x :: y :: z :: rest))
    (h : resolveEscapes (byte '\\' :: byte 'u' :: w :: x :: y :: z :: rest) = some out) :
    ∃ c text after more, IsCharText c text ∧ IsRaw after
      ∧ byte '\\' :: byte 'u' :: w :: x :: y :: z :: rest = encodeChars text ++ after
      ∧ out = String.utf8EncodeChar c ++ more ∧ resolveEscapes after = some more := by
  obtain ⟨hdigits, hrest⟩ := hraw.of_unit
  cases hlow : isLowSurrogate (hexUnit w x y z) with
  | true =>
      rw [resolveEscapes.eq_def] at h
      simp [hlow] at h
  | false =>
      cases hhigh : isHighSurrogate (hexUnit w x y z) with
      | false =>
          rw [resolveEscapes_unit hlow hhigh] at h
          obtain ⟨more, hmore, rfl⟩ := Option.map_eq_some_iff.mp h
          obtain ⟨-, -, -, -, -, -, hlt⟩ := exists_hexNumber? hdigits
          obtain ⟨a, b, c, d, hnumber, hbytes⟩ := exists_unit hdigits
          have hvalue : (Char.ofNat (hexUnit w x y z)).toNat = hexUnit w x y z := by
            refine toNat_val_ofNat ?_
            simp [isLowSurrogate, isHighSurrogate] at hlow hhigh
            rw [Nat.isValidChar]
            omega
          exact ⟨_, _, _, _, .unit (hnumber.trans (congrArg some hvalue.symm)), hrest, hbytes rest,
            rfl, hmore⟩
      | true =>
          cases hnext : lowSurrogate? rest with
          | none =>
              rw [resolveEscapes.eq_def] at h
              simp only [beq_self_eq_true, hlow, hhigh, if_true, if_false, Bool.false_eq_true] at h
              split at h
              · cases h
              · rename_i hsome
                rw [hnext] at hsome
                cases hsome
          | some found =>
              obtain ⟨low, after⟩ := found
              obtain ⟨w', x', y', z', rfl, rfl, hnextLow⟩ := lowSurrogate?_eq_some hnext
              obtain ⟨hdigits', hafter⟩ := hrest.of_unit
              rw [resolveEscapes_pair hlow hhigh hnextLow] at h
              obtain ⟨more, hmore, rfl⟩ := Option.map_eq_some_iff.mp h
              obtain ⟨text, htext, hbytes⟩ := exists_pair hdigits hdigits' hhigh hnextLow
              exact ⟨_, text, after, more, htext, hafter, hbytes, rfl, hmore⟩

/-- A byte that continues a character is not what an escape stands for. -/
theorem resolveEscapes_continuation {raw out : Bytes} {b : UInt8} (hraw : IsRaw raw)
    (hb : isContinuation b = true) (h : resolveEscapes raw = some (b :: out)) :
    ∃ rest, raw = b :: rest ∧ IsRaw rest ∧ resolveEscapes rest = some out := by
  have hfirst : ∀ {c : Char} {more : Bytes}, b :: out ≠ String.utf8EncodeChar c ++ more := by
    intro c more heq
    obtain ⟨first, tail, hc, -⟩ := Utf8Step.next_encodeChar c []
    rw [hc, List.cons_append, List.cons.injEq] at heq
    rw [heq.1, (isContinuation_encodeChar hc).1] at hb
    cases hb
  cases hraw with
  | nil =>
      rw [resolveEscapes] at h
      cases h
  | plain hcontrol hquote hslash hrest =>
      rw [resolveEscapes_plain hslash] at h
      obtain ⟨more, hmore, heq⟩ := Option.map_eq_some_iff.mp h
      obtain ⟨rfl, rfl⟩ := List.cons.inj heq
      exact ⟨_, rfl, hrest, hmore⟩
  | short hescape hrest =>
      obtain ⟨letter, c, -, -, hne, hc⟩ := exists_short hescape
      rw [resolveEscapes_short hne] at h
      obtain ⟨more, hmore, heq⟩ := Option.map_eq_some_iff.mp h
      exact absurd (by rw [hc, ← heq]; rfl) (@hfirst c more)
  | unit hdigits hrest =>
      obtain ⟨c, -, -, more, -, -, -, heq, -⟩ := resolveEscapes_unit_cases (.unit hdigits hrest) h
      exact absurd heq hfirst

theorem resolveEscapes_continuations {raw tail out : Bytes} (hraw : IsRaw raw)
    (htail : ∀ b ∈ tail, isContinuation b = true) (h : resolveEscapes raw = some (tail ++ out)) :
    ∃ rest, raw = tail ++ rest ∧ IsRaw rest ∧ resolveEscapes rest = some out := by
  induction tail generalizing raw with
  | nil => exact ⟨raw, rfl, hraw, h⟩
  | cons b tail ih =>
      obtain ⟨hb, htail⟩ := List.forall_mem_cons.mp htail
      obtain ⟨after, rfl, hafter, hmore⟩ := resolveEscapes_continuation hraw hb h
      obtain ⟨rest, rfl, hrest, hout⟩ := ih hafter htail hmore
      exact ⟨rest, rfl, hrest, hout⟩

/-- The front of a string whose bytes begin with a character is a way to write it. -/
theorem exists_charText {raw out : Bytes} {c : Char} (hraw : IsRaw raw)
    (h : resolveEscapes raw = some (String.utf8EncodeChar c ++ out)) :
    ∃ text rest, IsCharText c text ∧ raw = encodeChars text ++ rest ∧ IsRaw rest
      ∧ resolveEscapes rest = some out := by
  cases hraw with
  | nil =>
      obtain ⟨first, tail, hc, -⟩ := Utf8Step.next_encodeChar c []
      rw [resolveEscapes, hc] at h
      cases h
  | @plain b rest hcontrol hquote hslash hrest =>
      obtain ⟨first, tail, hc, -⟩ := Utf8Step.next_encodeChar c []
      rw [resolveEscapes_plain hslash, hc] at h
      obtain ⟨more, hmore, heq⟩ := Option.map_eq_some_iff.mp h
      obtain ⟨rfl, rfl⟩ := List.cons.inj heq
      obtain ⟨after, rfl, hafter, hout⟩ :=
        resolveEscapes_continuations hrest (isContinuation_encodeChar hc).2 hmore
      have hascii : ∀ d : Char, d.toNat < 128 → c = d → b = byte d := by
        rintro d hd rfl
        rw [utf8EncodeChar_of_ascii hd] at hc
        exact (List.cons.inj hc).1.symm
      refine ⟨[c], after, .plain ?_ ?_ ?_, ?_, hafter, hout⟩
      · refine Nat.le_of_not_lt fun hlt => hcontrol ?_
        rw [hascii c (by omega) rfl, UInt8.lt_iff_toNat_lt, toNat_byte (by omega)]
        exact hlt
      · exact fun heq => hquote (hascii _ (by decide) heq)
      · exact fun heq => hslash (hascii _ (by decide) heq)
      · rw [encodeChars_cons, hc, encodeChars, List.flatMap_nil, List.append_nil, List.cons_append]
  | short hescape hrest =>
      obtain ⟨letter, d, hmem, rfl, hne, hd⟩ := exists_short hescape
      rw [resolveEscapes_short hne] at h
      obtain ⟨more, hmore, heq⟩ := Option.map_eq_some_iff.mp h
      obtain ⟨rfl, rfl⟩ : d = c ∧ more = out := encodeChar_append_inj (by rw [hd, ← heq]; rfl)
      refine ⟨['\\', letter], _, .short hmem, ?_, hrest, hmore⟩
      rw [(short_of_mem hmem).1]
      rfl
  | unit hdigits hrest =>
      obtain ⟨d, text, after, more, htext, hafter, hbytes, heq, hmore⟩ :=
        resolveEscapes_unit_cases (.unit hdigits hrest) h
      obtain ⟨rfl, rfl⟩ := encodeChar_append_inj heq
      exact ⟨text, after, htext, hbytes, hafter, hmore⟩

/-- A string whose bytes are those of a text is a way to write the text. -/
theorem isBody_of_resolveEscapes {raw : Bytes} {cs : List Char} (hraw : IsRaw raw)
    (h : resolveEscapes raw = some (encodeChars cs)) :
    ∃ body, IsBody cs body ∧ raw = encodeChars body := by
  induction cs generalizing raw with
  | nil =>
      cases hraw with
      | nil => exact ⟨[], .nil, rfl⟩
      | plain _ _ hslash _ =>
          rw [resolveEscapes_plain hslash] at h
          obtain ⟨_, _, ⟨⟩⟩ := Option.map_eq_some_iff.mp h
      | short hescape _ =>
          obtain ⟨_, _, _, _, hne, _⟩ := exists_short hescape
          rw [resolveEscapes_short hne] at h
          obtain ⟨_, _, ⟨⟩⟩ := Option.map_eq_some_iff.mp h
      | unit hdigits hrest =>
          obtain ⟨c, -, -, more, -, -, -, heq, -⟩ := resolveEscapes_unit_cases (.unit hdigits hrest) h
          obtain ⟨first, tail, hc, -⟩ := Utf8Step.next_encodeChar c []
          rw [hc] at heq
          cases heq
  | cons c cs ih =>
      rw [encodeChars_cons] at h
      obtain ⟨text, rest, htext, rfl, hrest, hmore⟩ := exists_charText hraw h
      obtain ⟨body, hbody, rfl⟩ := ih hrest hmore
      exact ⟨text ++ body, .cons htext hbody, by rw [encodeChars_append]⟩

/-- A string is read as a text exactly if it is a way to write it. -/
theorem readString?_eq_some_iff {raw : Bytes} {s : String} (hraw : IsRaw raw) :
    readString? raw = some s ↔ ∃ body, IsBody s.toList body ∧ raw = encodeChars body := by
  constructor
  · intro h
    rw [readString?] at h
    split at h
    · cases h
    · rename_i bytes hbytes
      split at h
      · rename_i text hdecode
        cases h
        rw [decode_eq_ok_iff.mp hdecode] at hbytes
        exact isBody_of_resolveEscapes hraw hbytes
      · cases h
  · rintro ⟨body, hbody, rfl⟩
    exact hbody.readString?

/-! ## Numbers -/

section Numbers

variable {bytes rest : Bytes} {negative : Bool}

/-- A byte that is a digit is the encoding of one, with the same value. -/
theorem exists_digit {b : UInt8} (h : isDigit b = true) :
    ∃ c : Char, c.isDigit = true ∧ String.utf8EncodeChar c = [b]
      ∧ c.toNat - '0'.toNat = digitOf b := by
  simp only [isDigit, Bool.and_eq_true, decide_eq_true_eq, UInt8.le_iff_toNat_le] at h
  have hlow : 48 ≤ b.toNat := h.1
  have hhigh : b.toNat ≤ 57 := h.2
  have hvalue : (Char.ofNat b.toNat).toNat = b.toNat := toNat_val_ofNat (Or.inl (by omega))
  refine ⟨Char.ofNat b.toNat, ?_, encodeChars_ofNat (by omega), by rw [hvalue, digitOf]⟩
  simp only [Char.isDigit, Bool.and_eq_true, decide_eq_true_eq]
  exact ⟨Nat.le_trans hlow (Nat.le_of_eq hvalue.symm), Nat.le_trans (Nat.le_of_eq hvalue) hhigh⟩

/-- Digits in bytes are a numeral, or nothing. -/
theorem exists_takeDigits (bytes : Bytes) :
    ∃ text, text.all Char.isDigit = true
      ∧ takeDigits bytes = (digitValues text, bytes.dropWhile isDigit)
      ∧ bytes = encodeChars text ++ bytes.dropWhile isDigit := by
  induction bytes with
  | nil => exact ⟨[], rfl, rfl, rfl⟩
  | cons b tail ih =>
      by_cases hb : isDigit b = true
      · obtain ⟨c, hc, hencode, hvalue⟩ := exists_digit hb
        obtain ⟨text, hall, htake, hsplit⟩ := ih
        refine ⟨c :: text, by rw [List.all_cons, hc, hall]; rfl, ?_, ?_⟩
        · simp only [takeDigits, Prod.mk.injEq, and_true] at htake ⊢
          rw [List.takeWhile_cons_of_pos hb, List.map_cons, htake, ← hvalue]
          rfl
        · rw [List.dropWhile_cons_of_pos hb, encodeChars_cons, hencode, List.append_assoc, ← hsplit]
          rfl
      · refine ⟨[], rfl, ?_, ?_⟩
        · rw [takeDigits, List.takeWhile_cons_of_neg hb]
          rfl
        · rw [List.dropWhile_cons_of_neg hb]
          rfl

/-- A numeral that has been taken is not empty if there is a first digit. -/
theorem isDigits_of_takeDigits {d : Nat} {digits : List Nat}
    (h : takeDigits bytes = (d :: digits, rest)) :
    ∃ text, IsDigits text ∧ digitValues text = d :: digits ∧ bytes = encodeChars text ++ rest := by
  obtain ⟨text, hall, htake, hsplit⟩ := exists_takeDigits bytes
  rw [htake, Prod.mk.injEq] at h
  refine ⟨text, ⟨?_, hall⟩, h.1, h.2 ▸ hsplit⟩
  rintro rfl
  cases h.1

theorem isFractionText_of_lexFraction {fraction : Option (List Nat)}
    (h : lexFraction bytes = some (fraction, rest)) :
    ∃ text, IsFractionText fraction text ∧ bytes = encodeChars text ++ rest := by
  unfold lexFraction at h
  split at h
  · rename_i b tail
    split at h
    · rename_i hpoint
      split at h
      · cases h
      · rename_i digits after hne htake
        cases h
        cases digits with
        | nil => exact (hne rfl).elim
        | cons d digits =>
            obtain ⟨text, hdigits, hvalues, rfl⟩ := isDigits_of_takeDigits htake
            rw [← hvalues, eq_of_beq hpoint]
            exact ⟨'.' :: text, .some hdigits, rfl⟩
    · cases h
      exact ⟨[], .none, rfl⟩
  · cases h
    exact ⟨[], .none, rfl⟩

theorem exists_splitSign (bytes : Bytes) :
    ∃ sign, ((splitSign bytes).1, sign)
        ∈ [(Bool.false, []), (Bool.false, ['+']), (Bool.true, ['-'])]
      ∧ bytes = encodeChars sign ++ (splitSign bytes).2 := by
  unfold splitSign
  split
  · exact ⟨[], by simp, rfl⟩
  · split
    · rename_i hminus
      exact ⟨['-'], by simp, by rw [eq_of_beq hminus]; rfl⟩
    · split
      · rename_i hplus
        exact ⟨['+'], by simp, by rw [eq_of_beq hplus]; rfl⟩
      · exact ⟨[], by simp, rfl⟩

theorem isExponentText_of_lexExponent {exponent : Option (Bool × List Nat)}
    (h : lexExponent bytes = some (exponent, rest)) :
    ∃ text, IsExponentText exponent text ∧ bytes = encodeChars text ++ rest := by
  cases bytes with
  | nil =>
      cases h
      exact ⟨[], .none, rfl⟩
  | cons b tail =>
      by_cases hb : b = byte 'e' ∨ b = byte 'E'
      · rw [lexExponent_cons hb, lexSigned] at h
        split at h
        · cases h
        · rename_i digits after hne htake
          cases h
          cases digits with
          | nil => exact (hne rfl).elim
          | cons d digits =>
              obtain ⟨text, hdigits, hvalues, hafter⟩ := isDigits_of_takeDigits htake
              obtain ⟨sign, hsign, htail⟩ := exists_splitSign tail
              obtain ⟨letter, hletter, hencode⟩ : ∃ letter ∈ ['e', 'E'],
                  String.utf8EncodeChar letter = [b] := by
                rcases hb with rfl | rfl
                · exact ⟨'e', by simp, by decide⟩
                · exact ⟨'E', by simp, by decide⟩
              rw [← hvalues]
              refine ⟨letter :: (sign ++ text), .some hletter hsign hdigits, ?_⟩
              rw [encodeChars_cons, encodeChars_append, hencode, List.append_assoc,
                List.append_assoc, ← hafter, ← htail]
              rfl
      · rw [lexExponent.eq_def] at h
        dsimp only at h
        rw [if_neg (by simpa using hb)] at h
        cases h
        exact ⟨[], .none, rfl⟩

/-- What is read as a number is written as one. -/
theorem isUnsignedText_of_lexNumber {token : NumberToken}
    (h : lexNumber negative bytes = some (token, rest)) :
    ∃ text, IsUnsignedText negative token text ∧ bytes = encodeChars text ++ rest := by
  unfold lexNumber at h
  split at h
  · cases h
  · cases h
  · rename_i digits afterWhole hsome hzero htake
    split at h
    · cases h
    · rename_i fraction afterFraction hfraction
      split at h
      · cases h
      · rename_i exponent afterExponent hexponent
        cases h
        cases digits with
        | nil => exact (hsome rfl).elim
        | cons d digits =>
            obtain ⟨whole, hwhole, hvalues, rfl⟩ := isDigits_of_takeDigits htake
            obtain ⟨fractionText, hfractionText, rfl⟩ := isFractionText_of_lexFraction hfraction
            obtain ⟨exponentText, hexponentText, rfl⟩ := isExponentText_of_lexExponent hexponent
            have hlead : ∀ tail, whole = '0' :: tail → tail = [] := by
              rintro tail rfl
              cases tail with
              | nil => rfl
              | cons c more =>
                  obtain ⟨rfl, rfl⟩ := List.cons.inj hvalues
                  exact (hzero _ _ rfl).elim
            refine ⟨whole ++ (fractionText ++ exponentText), ?_, ?_⟩
            · rw [← hvalues]
              exact .mk hwhole hlead hfractionText hexponentText
            · rw [encodeChars_append, encodeChars_append, List.append_assoc, List.append_assoc]

end Numbers

/-! ## Tokens -/

section Tokens

variable {bytes rest : Bytes} {token : Token} {tokens : List Token}

theorem eq_of_lexWord {word : List Char} {parts : Token × Bytes}
    (h : lexWord word token bytes = some parts) :
    parts.1 = token ∧ bytes = word.map byte ++ parts.2 := by
  unfold lexWord at h
  split at h
  · rename_i htake
    cases h
    refine ⟨rfl, ?_⟩
    rw [← htake, List.take_append_drop]
  · cases h

theorem exists_text_of_lexWord {word : List Char} {given : Token} (hword : (given, word) ∈ words)
    (h : lexWord word given bytes = some (token, rest)) :
    ∃ text, IsTokenText token text ∧ bytes = encodeChars text ++ rest := by
  have hencode : ∀ pair ∈ words, encodeChars pair.2 = pair.2.map byte := by decide
  obtain ⟨rfl, hbytes⟩ := eq_of_lexWord h
  exact ⟨word, .word hword, by rw [hencode _ hword, hbytes]⟩

/-- The bytes that a token can begin with, apart from digits. -/
def leads : List Char := marks.map Prod.snd ++ ['"', '-', 'n', 't', 'f']

theorem lexOne_eq_none {b : UInt8} (hleads : ∀ c ∈ leads, b ≠ byte c) (hdigit : isDigit b = false)
    (tail : Bytes) : lexOne (b :: tail) = none := by
  simp only [leads, marks, List.map_cons, List.map_nil, List.cons_append, List.nil_append,
    List.forall_mem_cons] at hleads
  obtain ⟨h₁, h₂, h₃, h₄, h₅, h₆, h₇, h₈, h₉, h₁₀, h₁₁, -⟩ := hleads
  simp only [lexOne, beq_eq_false_iff_ne.mpr h₁, beq_eq_false_iff_ne.mpr h₂,
    beq_eq_false_iff_ne.mpr h₃, beq_eq_false_iff_ne.mpr h₄, beq_eq_false_iff_ne.mpr h₅,
    beq_eq_false_iff_ne.mpr h₆, beq_eq_false_iff_ne.mpr h₇, beq_eq_false_iff_ne.mpr h₈,
    beq_eq_false_iff_ne.mpr h₉, beq_eq_false_iff_ne.mpr h₁₀, beq_eq_false_iff_ne.mpr h₁₁, hdigit,
    Bool.false_eq_true, if_false]

/-- A token that is read is written so, if it is no string or a string that stands for a text. -/
theorem isTokenText_of_lexOne {b : UInt8} {tail : Bytes}
    (h : lexOne (b :: tail) = some (token, rest))
    (hstring : ∀ raw, token = .string raw → ∃ s, readString? raw = some s) :
    ∃ text, IsTokenText token text ∧ b :: tail = encodeChars text ++ rest := by
  by_cases hmark : ∃ pair ∈ marks, b = byte pair.2
  · obtain ⟨⟨mark, c⟩, hmem, rfl⟩ := hmark
    have hencode : ∀ pair ∈ marks, encodeChars [pair.2] = [byte pair.2] := by decide
    have hread := lexOne_mark hmem tail
    rw [hencode _ hmem, List.singleton_append, h] at hread
    cases hread
    exact ⟨[c], .mark hmem, by rw [hencode _ hmem]; rfl⟩
  by_cases hquote : b = byte '"'
  · subst hquote
    rw [lexOne_string] at h
    obtain ⟨⟨raw, after⟩, hraw, heq⟩ := Option.map_eq_some_iff.mp h
    cases heq
    obtain ⟨hpieces, rfl⟩ := isRaw_of_lexString hraw
    obtain ⟨s, hs⟩ := hstring raw rfl
    obtain ⟨body, hbody, rfl⟩ := (readString?_eq_some_iff hpieces).mp hs
    refine ⟨'"' :: (body ++ ['"']), .string hbody.isEscaped, ?_⟩
    rw [encodeChars_cons, encodeChars_append, List.append_assoc, List.append_assoc]
    rfl
  by_cases hminus : b = byte '-'
  · subst hminus
    rw [lexOne_minus] at h
    obtain ⟨⟨number, after⟩, hnumber, heq⟩ := Option.map_eq_some_iff.mp h
    cases heq
    obtain ⟨text, htext, rfl⟩ := isUnsignedText_of_lexNumber hnumber
    exact ⟨'-' :: text, .negative htext, rfl⟩
  by_cases hdigit : isDigit b = true
  · rw [lexOne_digit hdigit] at h
    obtain ⟨⟨number, after⟩, hnumber, heq⟩ := Option.map_eq_some_iff.mp h
    cases heq
    obtain ⟨text, htext, hbytes⟩ := isUnsignedText_of_lexNumber hnumber
    exact ⟨text, .natural htext, hbytes⟩
  by_cases hnull : b = byte 'n'
  · subst hnull
    exact exists_text_of_lexWord (by decide : (Token.null, _) ∈ words) h
  by_cases htrue : b = byte 't'
  · subst htrue
    exact exists_text_of_lexWord (by decide : (Token.true, _) ∈ words) h
  by_cases hfalse : b = byte 'f'
  · subst hfalse
    exact exists_text_of_lexWord (by decide : (Token.false, _) ∈ words) h
  have hleads : ∀ c ∈ leads, b ≠ byte c := by
    refine List.forall_mem_append.mpr ⟨?_, ?_⟩
    · rintro c hc rfl
      obtain ⟨pair, hpair, rfl⟩ := List.mem_map.mp hc
      exact hmark ⟨pair, hpair, rfl⟩
    · simp only [List.forall_mem_cons]
      exact ⟨hquote, hminus, hnull, htrue, hfalse, nofun⟩
  rw [lexOne_eq_none hleads (by simpa using hdigit)] at h
  cases h

/-- The white space at the front of some bytes. -/
theorem exists_gap (bytes : Bytes) :
    ∃ gap, (∀ c ∈ gap, c ∈ spaces) ∧ bytes = encodeChars gap ++ bytes.dropWhile isSpace := by
  induction bytes with
  | nil => exact ⟨[], nofun, rfl⟩
  | cons b tail ih =>
      by_cases hb : isSpace b = true
      · obtain ⟨gap, hgap, hsplit⟩ := ih
        obtain ⟨c, hc, hencode⟩ : ∃ c ∈ spaces, String.utf8EncodeChar c = [b] := by
          simp only [isSpace, Bool.or_eq_true, beq_iff_eq] at hb
          rcases hb with ((rfl | rfl) | rfl) | rfl
          · exact ⟨' ', by decide, by decide⟩
          · exact ⟨'\n', by decide, by decide⟩
          · exact ⟨'\r', by decide, by decide⟩
          · exact ⟨'\t', by decide, by decide⟩
        refine ⟨c :: gap, List.forall_mem_cons.mpr ⟨hc, hgap⟩, ?_⟩
        rw [List.dropWhile_cons_of_pos hb, encodeChars_cons, hencode, List.append_assoc, ← hsplit]
        rfl
      · rw [List.dropWhile_cons_of_neg hb]
        exact ⟨[], nofun, rfl⟩

/-- What can stand behind a number in a document. Behind other tokens there is no restriction: they
end by themselves. -/
def MayFollow (first second : Token) : Prop :=
  (∃ number, first = .number number) → second ∈ [.comma, .closeBracket, .closeBrace]

theorem IsTokenText.exists_ending {text : List Char} (h : IsTokenText token text)
    (hclosing : token ∈ [.comma, .closeBracket, .closeBrace]) :
    ∃ c, text = [c] ∧ c ∈ [',', ']', '\x7d'] := by
  simp only [List.mem_cons, List.not_mem_nil, or_false] at hclosing
  cases h with
  | mark h =>
      simp only [marks, List.mem_cons, List.not_mem_nil, or_false, Prod.mk.injEq] at h
      rcases hclosing with rfl | rfl | rfl <;> simp_all
  | word h =>
      simp only [words, List.mem_cons, List.not_mem_nil, or_false, Prod.mk.injEq] at h
      rcases hclosing with rfl | rfl | rfl <;> simp at h
  | natural _ => simp at hclosing
  | negative _ => simp at hclosing
  | string _ => simp at hclosing

/-- A number ends where another token follows that may follow it. -/
theorem IsText.endsNumber {number : NumberToken} {text : List Char} (h : IsText tokens text)
    (hnext : ∀ token ∈ tokens.head?, MayFollow (.number number) token) : EndsNumber text := by
  cases h with
  | nil hgap =>
      intro c hc
      exact List.mem_append_left _ (hgap c (List.mem_of_mem_head? hc))
  | @cons token tokens gap text rest hgap htoken _ _ =>
      intro c hc
      cases gap with
      | cons space gap =>
          cases hc
          exact List.mem_append_left _ (hgap _ List.mem_cons_self)
      | nil =>
          obtain ⟨d, rfl, hd⟩ := htoken.exists_ending (hnext token rfl ⟨number, rfl⟩)
          cases hc
          exact List.mem_append_right _ hd

theorem isText_of_lexAll {fuel : Nat} (h : lexAll fuel bytes = some tokens)
    (hchain : tokens.IsChain MayFollow)
    (hstrings : ∀ raw, .string raw ∈ tokens → ∃ s, readString? raw = some s) :
    ∃ text, IsText tokens text ∧ bytes = encodeChars text := by
  induction fuel generalizing bytes tokens with
  | zero => cases h
  | succ fuel ih =>
      obtain ⟨gap, hgap, hbytes⟩ := exists_gap bytes
      rw [lexAll] at h
      split at h
      · rename_i hend
        cases h
        rw [hend, List.append_nil] at hbytes
        exact ⟨gap, .nil hgap, hbytes⟩
      · rename_i b tail hfront
        split at h
        · cases h
        · rename_i token after htoken
          obtain ⟨more, hmore, rfl⟩ := Option.map_eq_some_iff.mp h
          obtain ⟨hnext, hchain⟩ := List.isChain_cons.mp hchain
          obtain ⟨rest, hrest, rfl⟩ := ih hmore hchain fun raw hraw =>
            hstrings raw (List.mem_cons_of_mem _ hraw)
          obtain ⟨text, htext, hsplit⟩ := isTokenText_of_lexOne htoken fun raw hraw =>
            hstrings raw (hraw ▸ List.mem_cons_self)
          refine ⟨gap ++ (text ++ rest), .cons hgap htext hrest ?_, ?_⟩
          · rintro number rfl
            exact hrest.endsNumber hnext
          · rw [hbytes, hfront, hsplit, encodeChars_append, encodeChars_append]

end Tokens

/-! ## Documents -/

namespace Document

mutual

/-- What is read as a document is its tokens. -/
theorem tokens_of_readValue (fuel : Nat) {tokens rest : List Token} {document : Document}
    (h : readValue fuel tokens = some (document, rest)) : tokens = document.tokens ++ rest := by
  cases fuel with
  | zero => cases h
  | succ fuel =>
      unfold readValue at h
      split at h
      · cases h; rfl
      · cases h; rfl
      · cases h; rfl
      · cases h; rfl
      · cases h; rfl
      · cases h; rfl
      · obtain ⟨⟨items, after⟩, hitems, heq⟩ := Option.map_eq_some_iff.mp h
        cases heq
        obtain ⟨-, rfl⟩ := tokens_of_readItems fuel hitems
        simp [tokens]
      · cases h; rfl
      · obtain ⟨⟨members, after⟩, hmembers, heq⟩ := Option.map_eq_some_iff.mp h
        cases heq
        obtain ⟨-, rfl⟩ := tokens_of_readMembers fuel hmembers
        simp [tokens]
      · cases h
  termination_by fuel

theorem tokens_of_readItems (fuel : Nat) {tokens rest : List Token} {items : List Document}
    (h : readItems fuel tokens = some (items, rest)) :
    items ≠ [] ∧ tokens = itemTokens items ++ .closeBracket :: rest := by
  cases fuel with
  | zero => cases h
  | succ fuel =>
      unfold readItems at h
      split at h
      · rename_i item after hitem
        obtain ⟨⟨items, last⟩, hitems, heq⟩ := Option.map_eq_some_iff.mp h
        cases heq
        obtain ⟨hne, rfl⟩ := tokens_of_readItems fuel hitems
        obtain ⟨next, more, rfl⟩ := List.exists_cons_of_ne_nil hne
        rw [tokens_of_readValue fuel hitem]
        exact ⟨nofun, by simp [itemTokens]⟩
      · rename_i item after hitem
        cases h
        rw [tokens_of_readValue fuel hitem]
        exact ⟨nofun, rfl⟩
      · cases h
  termination_by fuel

theorem tokens_of_readMembers (fuel : Nat) {tokens rest : List Token}
    {members : List (Bytes × Document)} (h : readMembers fuel tokens = some (members, rest)) :
    members ≠ [] ∧ tokens = memberTokens members ++ .closeBrace :: rest := by
  cases fuel with
  | zero => cases h
  | succ fuel =>
      unfold readMembers at h
      split at h
      · rename_i name after
        split at h
        · rename_i value after' hvalue
          obtain ⟨⟨members, last⟩, hmembers, heq⟩ := Option.map_eq_some_iff.mp h
          cases heq
          obtain ⟨hne, rfl⟩ := tokens_of_readMembers fuel hmembers
          obtain ⟨⟨name', value'⟩, more, rfl⟩ := List.exists_cons_of_ne_nil hne
          rw [tokens_of_readValue fuel hvalue]
          exact ⟨nofun, by simp [memberTokens]⟩
        · rename_i value after' hvalue
          cases h
          rw [tokens_of_readValue fuel hvalue]
          exact ⟨nofun, rfl⟩
        · cases h
      · cases h
  termination_by fuel

end

theorem mayFollow_closing {first second : Token}
    (h : second ∈ [.comma, .closeBracket, .closeBrace]) : MayFollow first second := fun _ => h

theorem isChain_closed {tokens rest : List Token} {closing : Token}
    (hclosing : closing ∈ [.comma, .closeBracket, .closeBrace]) (h : tokens.IsChain MayFollow)
    (hrest : (closing :: rest).IsChain MayFollow) :
    (tokens ++ closing :: rest).IsChain MayFollow := by
  refine List.isChain_append.mpr ⟨h, hrest, ?_⟩
  rintro last - _ ⟨⟩
  exact mayFollow_closing hclosing

theorem isChain_opened {tokens : List Token} {opening : Token}
    (hopening : ∀ number, opening ≠ .number number) (h : tokens.IsChain MayFollow) :
    (opening :: tokens).IsChain MayFollow := by
  refine List.isChain_cons.mpr ⟨?_, h⟩
  rintro next - ⟨number, hnumber⟩
  exact absurd hnumber (hopening number)

mutual

/-- Behind a number stands what may follow it. -/
theorem isChain_tokens : (document : Document) → document.tokens.IsChain MayFollow
  | .null => .singleton _
  | .bool _ => .singleton _
  | .number _ => .singleton _
  | .string _ => .singleton _
  | .array items =>
    isChain_opened nofun (isChain_closed (by decide) (isChain_itemTokens items) (.singleton _))
  | .object members =>
    isChain_opened nofun (isChain_closed (by decide) (isChain_memberTokens members) (.singleton _))

theorem isChain_itemTokens : (items : List Document) → (itemTokens items).IsChain MayFollow
  | [] => .nil
  | [item] => isChain_tokens item
  | item :: next :: rest =>
    isChain_closed (by decide) (isChain_tokens item)
      (isChain_opened nofun (isChain_itemTokens (next :: rest)))

theorem isChain_memberTokens :
    (members : List (Bytes × Document)) → (memberTokens members).IsChain MayFollow
  | [] => .nil
  | [(_, value)] => isChain_opened nofun (isChain_opened nofun (isChain_tokens value))
  | (_, value) :: next :: rest =>
    isChain_opened nofun (isChain_opened nofun (isChain_closed (by decide) (isChain_tokens value)
      (isChain_opened nofun (isChain_memberTokens (next :: rest)))))

end

/-- A document that is read is written, if all its strings stand for texts. -/
theorem isText_of_parse {bytes : Bytes} {document : Document} (h : parse bytes = some document)
    (hstrings : ∀ raw, .string raw ∈ document.tokens → ∃ s, readString? raw = some s) :
    ∃ text, IsText document.tokens text ∧ bytes = encodeChars text := by
  rw [parse] at h
  split at h
  · cases h
  · rename_i tokens hlex
    split at h
    · rename_i hread
      cases h
      have htokens := tokens_of_readValue _ hread
      rw [List.append_nil] at htokens
      subst htokens
      exact isText_of_lexAll hlex document.isChain_tokens hstrings
    · cases h

end Document

end Quadlink.Json
