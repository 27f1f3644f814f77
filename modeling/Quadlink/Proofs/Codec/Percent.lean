import Quadlink.Codec.Percent
import Quadlink.Proofs.Text.Utf8

/-!
# What percent-encoding keeps

Encoding does not change what a text stands for (`decode_encode`), and leaves no character of its
set (`not_in_of_mem_encode`). A text stands for its own UTF-8 encoding exactly where it has no
escape, that is, no `%` with two hexadecimal digits behind it: each escape makes it shorter.
-/

namespace Quadlink.Codec.Percent

open Text

variable {set : Char → Bool} {cs : List Char} {c : Char}

/-! ## Escapes -/

/-- A hexadecimal digit and what follows it. -/
def readDigit? : List Char → Option (Nat × List Char)
  | [] => none
  | c :: rest => (hexValue? c).map fun n => (n, rest)

/-- The byte that the two characters behind a `%` stand for, and what follows them. -/
def readByte? (cs : List Char) : Option (UInt8 × List Char) :=
  (readDigit? cs).bind fun (hi, rest) =>
    (readDigit? rest).map fun (lo, rest) => (UInt8.ofNat (hi * 16 + lo), rest)

/-- Whether a `%` with two hexadecimal digits behind it stands in a text. Only such a `%` is read as
part of an encoding. -/
def hasEscape : List Char → Bool
  | [] => false
  | c :: rest => (c == '%' && (readByte? rest).isSome) || hasEscape rest

theorem decode_of_ne (h : c ≠ '%') : decode (c :: cs) = String.utf8EncodeChar c ++ decode cs := by
  rw [decode.eq_def]
  split
  · rename_i heq
    cases heq
  · rename_i heq
    cases heq
    exact absurd rfl h
  · rename_i heq
    cases heq
    rfl

theorem decode_percent (cs : List Char) :
    decode ('%' :: cs) =
      match readByte? cs with
      | some (byte, rest) => byte :: decode rest
      | none => String.utf8EncodeChar '%' ++ decode cs := by
  match cs with
  | [] => rfl
  | [a] => cases ha : hexValue? a <;> simp [decode, readByte?, readDigit?, ha]
  | a :: b :: rest =>
      cases ha : hexValue? a <;> cases hb : hexValue? b <;>
        simp [decode, readByte?, readDigit?, ha, hb]

/-- A byte takes two digits. -/
theorem eq_cons_of_readByte? {byte : UInt8} {rest : List Char}
    (h : readByte? cs = some (byte, rest)) :
    ∃ a b, cs = a :: b :: rest := by
  match cs with
  | [] => cases h
  | [a] => cases ha : hexValue? a <;> simp [readByte?, readDigit?, ha] at h
  | a :: b :: tail =>
      cases ha : hexValue? a <;> cases hb : hexValue? b <;>
        simp [readByte?, readDigit?, ha, hb] at h
      exact ⟨a, b, by rw [h.2]⟩

/-! ## Encoded texts -/

/-- A set that percent-encoding can be used with: it holds neither `%` nor a hexadecimal digit.
Otherwise what is encoded would be encoded again. -/
structure IsSet (set : Char → Bool) : Prop where
  percent : set '%' = false
  digit : ∀ c, (hexValue? c).isSome = true → set c = false

theorem lt_of_hexValue? (h : (hexValue? c).isSome = true) : c.toNat < 128 := by
  unfold hexValue? at h
  split at h
  · rename_i hrange
    exact Nat.lt_of_le_of_lt (show c.toNat ≤ '9'.toNat from hrange.2) (by decide)
  · split at h
    · rename_i hrange
      exact Nat.lt_of_le_of_lt (show c.toNat ≤ 'f'.toNat from hrange.2) (by decide)
    · split at h
      · rename_i hrange
        exact Nat.lt_of_le_of_lt (show c.toNat ≤ 'F'.toNat from hrange.2) (by decide)
      · cases h

/-- What holds of the hexadecimal digits can be looked up among the characters of ASCII. -/
theorem forall_hexValue? {P : Char → Prop}
    (h : ∀ n < 128, (hexValue? (Char.ofNat n)).isSome = true → P (Char.ofNat n))
    (hc : (hexValue? c).isSome = true) : P c := by
  have hself : Char.ofNat c.toNat = c := Char.ofNat_toNat c
  rw [← hself]
  exact h c.toNat (lt_of_hexValue? hc) (by rwa [hself])

theorem isSet_of_ascii (hpercent : set '%' = false)
    (hascii : ∀ n < 128, (hexValue? (Char.ofNat n)).isSome = true → set (Char.ofNat n) = false) :
    IsSet set :=
  ⟨hpercent, fun _ hc => forall_hexValue? (P := fun c => set c = false) hascii hc⟩

theorem isSet_inPath : IsSet inPath := isSet_of_ascii (by decide) (by decide)

theorem isSet_inUserInfo : IsSet inUserInfo := isSet_of_ascii (by decide) (by decide)

theorem isSet_inFragment : IsSet inFragment := isSet_of_ascii (by decide) (by decide)

theorem isSet_inSpecialQuery : IsSet inSpecialQuery := isSet_of_ascii (by decide) (by decide)

theorem hexValue?_hexDigit {n : Nat} (h : n < 16) : hexValue? (hexDigit n) = some n :=
  (by decide : ∀ n < 16, hexValue? (hexDigit n) = some n) n h

theorem readByte?_encoded (byte : UInt8) (rest : List Char) :
    readByte? (hexDigit (byte.toNat / 16) :: hexDigit (byte.toNat % 16) :: rest) =
      some (byte, rest) := by
  have hbyte : byte.toNat < 256 := byte.toNat_lt
  have hvalue : byte.toNat / 16 * 16 + byte.toNat % 16 = byte.toNat := by omega
  have hhi : hexValue? (hexDigit (byte.toNat / 16)) = some (byte.toNat / 16) :=
    hexValue?_hexDigit (by omega)
  have hlo : hexValue? (hexDigit (byte.toNat % 16)) = some (byte.toNat % 16) :=
    hexValue?_hexDigit (by omega)
  simp only [readByte?, readDigit?, hhi, hlo, Option.map_some, Option.bind_some, hvalue,
    UInt8.ofNat_toNat]

theorem decode_encodeBytes (bytes : Bytes) (rest : List Char) :
    decode (bytes.flatMap encodeByte ++ rest) = bytes ++ decode rest := by
  induction bytes with
  | nil => rfl
  | cons byte tail ih =>
      rw [List.flatMap_cons, List.append_assoc, encodeByte]
      show decode ('%' :: hexDigit (byte.toNat / 16) :: hexDigit (byte.toNat % 16) ::
        (tail.flatMap encodeByte ++ rest)) = byte :: (tail ++ decode rest)
      rw [decode_percent, readByte?_encoded]
      exact congrArg (byte :: ·) ih

theorem encode_cons_of_in (h : set c = true) :
    encode set (c :: cs) = (String.utf8EncodeChar c).flatMap encodeByte ++ encode set cs := by
  simp [encode, h]

theorem encode_cons_of_not_in (h : set c = false) : encode set (c :: cs) = c :: encode set cs := by
  simp [encode, h]

theorem encode_eq_self (h : ∀ c ∈ cs, set c = false) : encode set cs = cs := by
  induction cs with
  | nil => rfl
  | cons c tail ih =>
      rw [encode_cons_of_not_in (h c List.mem_cons_self),
        ih fun d hd => h d (List.mem_cons_of_mem _ hd)]

theorem encoded_eq_cons (c : Char) :
    ∃ tail, (String.utf8EncodeChar c).flatMap encodeByte = '%' :: tail := by
  cases hbytes : String.utf8EncodeChar c with
  | nil => simp at hbytes
  | cons byte tail => exact ⟨_, by rw [List.flatMap_cons, encodeByte]; rfl⟩

theorem encode_ne_nil (h : cs = [] → False) : encode set cs ≠ [] := by
  cases cs with
  | nil => exact absurd rfl h
  | cons c rest =>
      cases hin : set c with
      | false => simp [encode_cons_of_not_in hin]
      | true =>
          obtain ⟨tail, htail⟩ := encoded_eq_cons c
          simp [encode_cons_of_in hin, htail]

/-- Encoding keeps the digits where they are. -/
theorem readDigit?_encode (hset : IsSet set) (cs : List Char) :
    readDigit? (encode set cs) = (readDigit? cs).map fun (n, rest) => (n, encode set rest) := by
  cases cs with
  | nil => rfl
  | cons c rest =>
      cases hin : set c with
      | false =>
          rw [encode_cons_of_not_in hin]
          cases hc : hexValue? c <;> simp [readDigit?, hc]
      | true =>
          have hnone : hexValue? c = none := by
            cases hc : hexValue? c with
            | none => rfl
            | some n =>
                have hout := hset.digit c (by rw [hc]; rfl)
                rw [hin] at hout
                cases hout
          obtain ⟨tail, htail⟩ := encoded_eq_cons c
          rw [encode_cons_of_in hin, htail, readDigit?, hnone]
          rfl

theorem readByte?_encode (hset : IsSet set) (cs : List Char) :
    readByte? (encode set cs) =
      (readByte? cs).map fun (byte, rest) => (byte, encode set rest) := by
  rw [readByte?, readDigit?_encode hset]
  cases hhi : readDigit? cs with
  | none => simp [readByte?, hhi]
  | some first =>
      obtain ⟨hi, rest⟩ := first
      simp only [Option.map_some, Option.bind_some, readByte?, hhi, readDigit?_encode hset]
      cases readDigit? rest <;> rfl

theorem decode_encode (hset : IsSet set) : ∀ cs, decode (encode set cs) = decode cs
  | [] => rfl
  | c :: rest => by
      have ih := decode_encode hset rest
      by_cases hpercent : c = '%'
      · subst hpercent
        rw [encode_cons_of_not_in hset.percent, decode_percent, decode_percent,
          readByte?_encode hset]
        cases hbyte : readByte? rest with
        | none =>
            simp only [Option.map_none, ih]
        | some found =>
            obtain ⟨byte, tail⟩ := found
            obtain ⟨a, b, hrest⟩ := eq_cons_of_readByte? hbyte
            have hshorter : tail.length < rest.length + 1 := by
              rw [hrest, List.length_cons, List.length_cons]
              omega
            exact congrArg (byte :: ·) (decode_encode hset tail)
      · cases hin : set c with
        | false => rw [encode_cons_of_not_in hin, decode_of_ne hpercent, decode_of_ne hpercent, ih]
        | true => rw [encode_cons_of_in hin, decode_encodeBytes, decode_of_ne hpercent, ih]
  termination_by cs => cs.length

theorem mem_encodeByte {byte : UInt8} (h : c ∈ encodeByte byte) :
    c = '%' ∨ (hexValue? c).isSome = true := by
  have hbyte : byte.toNat < 256 := byte.toNat_lt
  simp only [encodeByte, List.mem_cons, List.not_mem_nil, or_false] at h
  rcases h with rfl | rfl | rfl
  · exact .inl rfl
  · rw [hexValue?_hexDigit (by omega)]
    exact .inr rfl
  · rw [hexValue?_hexDigit (by omega)]
    exact .inr rfl

/-- What stands in an encoded text: characters of the text that are not in the set, and what
escapes are made of. -/
theorem mem_encode (h : c ∈ encode set cs) :
    (c ∈ cs ∧ set c = false) ∨ c = '%' ∨ (hexValue? c).isSome = true := by
  obtain ⟨d, hd, hc⟩ := List.mem_flatMap.mp h
  cases hin : set d with
  | false =>
      rw [hin, if_neg (by decide), List.mem_singleton] at hc
      subst hc
      exact .inl ⟨hd, hin⟩
  | true =>
      rw [hin, if_pos rfl] at hc
      obtain ⟨byte, -, hmem⟩ := List.mem_flatMap.mp hc
      exact .inr (mem_encodeByte hmem)

theorem not_in_of_mem_encode (hset : IsSet set) (h : c ∈ encode set cs) : set c = false := by
  rcases mem_encode h with ⟨-, hout⟩ | rfl | hdigit
  · exact hout
  · exact hset.percent
  · exact hset.digit c hdigit

theorem encode_encode (hset : IsSet set) (cs : List Char) :
    encode set (encode set cs) = encode set cs :=
  encode_eq_self fun _ hc => not_in_of_mem_encode hset hc

/-! ## What a text stands for -/

theorem encodeChars_injective {front back : List Char} (h : encodeChars front = encodeChars back) :
    front = back := by
  have hbytes : front.utf8Encode = back.utf8Encode := congrArg List.toByteArray h
  have htext : String.ofList front = String.ofList back := by
    simp only [String.ofList, hbytes]
  simpa using congrArg String.toList htext

theorem decode_of_not_hasEscape (h : hasEscape cs = false) : decode cs = encodeChars cs := by
  induction cs with
  | nil => rfl
  | cons c rest ih =>
      rw [hasEscape, Bool.or_eq_false_iff] at h
      obtain ⟨hhere, hlater⟩ := h
      by_cases hpercent : c = '%'
      · subst hpercent
        have hnone : readByte? rest = none := by simpa using hhere
        rw [decode_percent, hnone, encodeChars, List.flatMap_cons]
        exact congrArg (String.utf8EncodeChar '%' ++ ·) (ih hlater)
      · rw [decode_of_ne hpercent, ih hlater, encodeChars, encodeChars, List.flatMap_cons]

/-- A text stands for no more bytes than it has, and for fewer if there is an escape in it. -/
theorem length_decode : ∀ cs, (decode cs).length ≤ (encodeChars cs).length
      ∧ (hasEscape cs = true → (decode cs).length < (encodeChars cs).length)
  | [] => ⟨Nat.le_refl _, nofun⟩
  | c :: rest => by
      obtain ⟨hle, hlt⟩ := length_decode rest
      have hpositive : 0 < (String.utf8EncodeChar c).length := by simp [Char.utf8Size_pos]
      rw [encodeChars_cons, List.length_append]
      by_cases hpercent : c = '%'
      · subst hpercent
        rw [decode_percent]
        cases hbyte : readByte? rest with
        | none =>
            simp only [List.length_append]
            refine ⟨by omega, ?_⟩
            intro hescape
            have hlater : hasEscape rest = true := by simpa [hasEscape, hbyte] using hescape
            have := hlt hlater
            omega
        | some found =>
            obtain ⟨byte, tail⟩ := found
            obtain ⟨a, b, hrest⟩ := eq_cons_of_readByte? hbyte
            have hshorter : tail.length < rest.length + 1 := by
              rw [hrest, List.length_cons, List.length_cons]
              omega
            have htail := (length_decode tail).1
            have ha : 0 < (String.utf8EncodeChar a).length := by simp [Char.utf8Size_pos]
            simp only [List.length_cons, hrest, encodeChars_cons, List.length_append]
            exact ⟨by omega, fun _ => by omega⟩
      · rw [decode_of_ne hpercent, List.length_append]
        refine ⟨by omega, ?_⟩
        intro hescape
        have hlater : hasEscape rest = true := by simpa [hasEscape, hpercent] using hescape
        have := hlt hlater
        omega
  termination_by cs => cs.length

theorem decode_eq_encodeChars_iff : decode cs = encodeChars cs ↔ hasEscape cs = false := by
  refine ⟨?_, decode_of_not_hasEscape⟩
  intro h
  cases hescape : hasEscape cs with
  | false => rfl
  | true =>
      have hlt := (length_decode cs).2 hescape
      rw [h] at hlt
      omega

/-- To leave characters out of a text makes its encoding shorter. -/
theorem eq_of_sublist_of_length {part : List Char} (h : part.Sublist cs)
    (hlength : (encodeChars cs).length ≤ (encodeChars part).length) : part = cs := by
  have hle : ∀ {front back : List Char}, front.Sublist back →
      (encodeChars front).length ≤ (encodeChars back).length := by
    intro front back hsub
    induction hsub with
    | slnil => exact Nat.le_refl _
    | cons c _ ih =>
        rw [encodeChars_cons, List.length_append]
        omega
    | cons_cons c _ ih =>
        rw [encodeChars_cons, encodeChars_cons, List.length_append, List.length_append]
        omega
  induction h with
  | slnil => rfl
  | cons c hsub ih =>
      have hpositive : 0 < (String.utf8EncodeChar c).length := by simp [Char.utf8Size_pos]
      have hshorter := hle hsub
      rw [encodeChars_cons, List.length_append] at hlength
      omega
  | cons_cons c hsub ih =>
      rw [encodeChars_cons, encodeChars_cons, List.length_append, List.length_append] at hlength
      rw [ih (by omega)]

end Quadlink.Codec.Percent
