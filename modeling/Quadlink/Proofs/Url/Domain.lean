import Quadlink.Proofs.Text.Pieces
import Quadlink.Url.Domain

/-!
# What the ASCII form of a name is made of

No ASCII form of a domain name holds a character that is forbidden in names
(`toAscii?_not_forbidden`), however the name was written. For a part in punycode this rests on what
its distances can say: they insert only characters outside ASCII, so the ASCII characters of the part
that it stands for are those of the form (`Punycode.mem_form_of_mem_decode?`).
-/

namespace Quadlink.Url

open Text

namespace Punycode

variable {cs form decoded : List Char} {c : Char}

theorem toNat_ofNat {n : Nat} (h : n.isValidChar) : (Char.ofNat n).toNat = n := by
  rw [Char.ofNat, dif_pos h]
  rfl

/-! ## Reading -/

theorem mem_of_splitForm (h : c ∈ (splitForm form).1) : c ∈ form := by
  unfold splitForm at h
  split at h
  · rename_i basic distances hcut
    rw [cutAtLast?_eq_some hcut]
    exact List.mem_append_left _ h
  · cases h

/-- The characters that distances insert are not below the code point that they start from. -/
theorem mem_of_readPoints {out result : List Char} {n i bias : Nat} {first : Bool}
    (h : readPoints out n i bias first cs = some result) (hc : c ∈ result) :
    c ∈ out ∨ n ≤ c.toNat := by
  fun_induction readPoints out n i bias first cs with
  | case1 =>
      cases h
      exact .inl hc
  | case2 => cases h
  | case3 out n i bias first d tail j rest hdelta hshorter count point place hvalid ih =>
      rcases ih h with hmem | hle
      · rcases List.mem_append.mp hmem with hfront | hback
        · exact .inl (List.mem_of_mem_take hfront)
        · rcases List.mem_cons.mp hback with rfl | hlater
          · right
            rw [toNat_ofNat hvalid]
            exact Nat.le_add_right n _
          · exact .inl (List.mem_of_mem_drop hlater)
      · exact .inr (Nat.le_trans (Nat.le_add_right n _) hle)
  | case4 => cases h

/-- The ASCII characters of a part stand in its form. -/
theorem mem_form_of_mem_decode? (h : decode? form = some decoded) (hc : c ∈ decoded)
    (hascii : c.toNat < 0x80) : c ∈ form := by
  simp only [decode?] at h
  split at h
  · rcases mem_of_readPoints h hc with hbasic | hle
    · exact mem_of_splitForm hbasic
    · omega
  · cases h

/-! ## Writing -/

/-- Small letters, digits and the hyphen, of which all that is added to a form consists. -/
def isFormChar (c : Char) : Bool :=
  ('a' ≤ c && c ≤ 'z') || c.isDigit || c == '-'

theorem isFormChar_digit {n : Nat} (h : n < 36) : isFormChar (digit n) = true :=
  (by decide : ∀ n < 36, isFormChar (digit n) = true) n h

theorem isFormChar_of_mem_writeDelta {bias k q : Nat} (h : c ∈ writeDelta bias k q) :
    isFormChar c = true := by
  fun_induction writeDelta bias k q with
  | case1 k q t hsmall =>
      rw [List.mem_singleton] at h
      have hle : t ≤ 26 := threshold_le bias k
      rw [h]
      exact isFormChar_digit (by omega)
  | case2 k q t hlarge ih =>
      rcases List.mem_cons.mp h with rfl | hlater
      · have hle : t ≤ 26 := threshold_le bias k
        have hmod : (q - t) % (36 - t) < 36 - t := Nat.mod_lt _ (by omega)
        exact isFormChar_digit (by omega)
      · exact ih hlater

theorem mem_writePass {basic n : Nat} {progress : Progress} {part : List Char}
    (h : c ∈ (writePass basic n progress part).out) : c ∈ progress.out ∨ isFormChar c = true := by
  induction part generalizing progress with
  | nil => exact .inl h
  | cons d rest ih =>
      unfold writePass at h
      split at h
      · have hout := ih h
        exact hout
      · split at h
        · rcases ih h with hout | hform
          · rcases List.mem_append.mp hout with hbefore | hdelta
            · exact .inl hbefore
            · exact .inr (isFormChar_of_mem_writeDelta hdelta)
          · exact .inr hform
        · exact ih h

theorem mem_writePasses {basic n : Nat} {progress : Progress} {part : List Char}
    {points : List Nat} (h : c ∈ (writePasses basic part n progress points).out) :
    c ∈ progress.out ∨ isFormChar c = true := by
  induction points generalizing n progress with
  | nil => exact .inl h
  | cons m rest ih =>
      rcases ih h with hout | hform
      · have hpass := mem_writePass hout
        exact hpass
      · exact .inr hform

/-- A form consists of ASCII characters of its part and of letters, digits and hyphens. -/
theorem mem_encode {part : List Char} (h : c ∈ encode part) :
    (c ∈ part ∧ c.toNat < 0x80) ∨ isFormChar c = true := by
  rcases mem_writePasses h with hstart | hform
  · dsimp only at hstart
    split at hstart
    · cases hstart
    · rcases List.mem_append.mp hstart with hbasic | hhyphen
      · obtain ⟨hmem, hascii⟩ := List.mem_filter.mp hbasic
        exact .inl ⟨hmem, by simpa using hascii⟩
      · rw [List.mem_singleton.mp hhyphen]
        exact .inr (by decide)
  · exact .inr hform

end Punycode

namespace Domain

variable {name part ascii : List Char} {c : Char}

theorem isAscii_iff : isAscii c = true ↔ c.toNat < 0x80 := by
  simp [isAscii]

theorem not_forbidden_of_isFormChar (h : Punycode.isFormChar c = true) :
    isForbidden c = false := by
  have hself : Char.ofNat c.toNat = c := Char.ofNat_toNat c
  have hsmall : c.toNat < 128 := by
    rw [Punycode.isFormChar, Bool.or_eq_true, Bool.or_eq_true, Bool.and_eq_true,
      decide_eq_true_eq, decide_eq_true_eq, beq_iff_eq] at h
    rcases h with (⟨-, hletter⟩ | hdigit) | rfl
    · exact Nat.lt_of_le_of_lt (show c.toNat ≤ 'z'.toNat from hletter) (by decide)
    · have hle : c.toNat ≤ '9'.toNat := by
        simp only [Char.isDigit, Bool.and_eq_true, decide_eq_true_eq] at hdigit
        exact hdigit.2
      exact Nat.lt_of_le_of_lt hle (by decide)
    · decide
  rw [← hself] at h ⊢
  exact (by decide : ∀ n < 128, Punycode.isFormChar (Char.ofNat n) = true →
    isForbidden (Char.ofNat n) = false) c.toNat hsmall h

theorem not_forbidden_toLower (hascii : isAscii c = true) (h : isForbidden c = false) :
    isForbidden c.toLower = false := by
  have hself : Char.ofNat c.toNat = c := Char.ofNat_toNat c
  rw [← hself] at h ⊢
  exact (by decide : ∀ n < 128, isForbidden (Char.ofNat n) = false →
    isForbidden (Char.ofNat n).toLower = false) c.toNat (isAscii_iff.mp hascii) h

/-! ## Parts -/

/-- The ASCII characters of what a part stands for stand in the part. -/
theorem mem_of_readPart? {decoded : List Char} (h : readPart? part = some decoded)
    (hc : c ∈ decoded) (hascii : isAscii c = true) : c ∈ part := by
  unfold readPart? at h
  split at h
  · rename_i form hform
    split at h
    · split at h
      · rename_i found hdecode
        split at h
        · cases h
          rw [dropPrefix?_eq_some hform]
          exact List.mem_append_right _
            (Punycode.mem_form_of_mem_decode? hdecode hc (isAscii_iff.mp hascii))
        · cases h
      · cases h
    · cases h
  · split at h
    · cases h
      exact hc
    · cases h

theorem exists_of_mem_readParts? {raws parts : List (List Char)} (h : readParts? raws = some parts)
    (hpart : part ∈ parts) : ∃ raw ∈ raws, readPart? raw = some part := by
  induction raws generalizing parts with
  | nil =>
      cases h
      cases hpart
  | cons raw rest ih =>
      rw [readParts?] at h
      split at h
      · rename_i front back hfront hback
        cases h
        rcases List.mem_cons.mp hpart with rfl | hlater
        · exact ⟨raw, List.mem_cons_self, hfront⟩
        · obtain ⟨other, hother, hread⟩ := ih hback hlater
          exact ⟨other, List.mem_cons_of_mem _ hother, hread⟩
      · cases h

/-- What is written for a part holds no forbidden character if its ASCII characters are not
forbidden. -/
theorem not_forbidden_of_mem_writePart
    (h : ∀ d ∈ part, isAscii d = true → isForbidden d = false) (hc : c ∈ writePart part) :
    isForbidden c = false := by
  unfold writePart at hc
  split at hc
  · rename_i hall
    exact h c hc (List.all_eq_true.mp hall c hc)
  · rcases List.mem_append.mp hc with hmark | hform
    · exact any_eq_false_iff.mp (by decide) c hmark
    · rcases Punycode.mem_encode hform with ⟨hmem, hascii⟩ | hchar
      · exact h c hmem (isAscii_iff.mpr hascii)
      · exact not_forbidden_of_isFormChar hchar

/-! ## Names -/

theorem mem_intercalate {seps : List Char} {parts : List (List Char)}
    (h : c ∈ List.intercalate seps parts) : c ∈ seps ∨ ∃ part ∈ parts, c ∈ part := by
  induction parts with
  | nil => cases h
  | cons first rest ih =>
      cases rest with
      | nil => exact .inr ⟨first, List.mem_cons_self, by simpa [List.intercalate] using h⟩
      | cons next others =>
          have hshape : List.intercalate seps (first :: next :: others) =
              first ++ (seps ++ List.intercalate seps (next :: others)) := by
            simp [List.intercalate]
          rw [hshape] at h
          rcases List.mem_append.mp h with hfirst | hlater
          · exact .inr ⟨first, List.mem_cons_self, hfirst⟩
          · rcases List.mem_append.mp hlater with hsep | hrest
            · exact .inl hsep
            · rcases ih hrest with hsep | ⟨part, hpart, hmem⟩
              · exact .inl hsep
              · exact .inr ⟨part, List.mem_cons_of_mem _ hpart, hmem⟩

theorem settle?_not_forbidden (h : settle? name = some ascii) (hc : c ∈ ascii) :
    isForbidden c = false := by
  unfold settle? at h
  split at h
  · cases h
  · rename_i mapped hmapped
    dsimp only at h
    split at h
    · cases h
    · rename_i hforbidden
      have hclean : ∀ d ∈ Unicode.compose mapped, isAscii d = true → isForbidden d = false := by
        simpa using hforbidden
      split at h
      · cases h
      · rename_i parts hparts
        split at h
        · cases h
        · cases h
          rcases mem_intercalate hc with hdot | ⟨written, hwritten, hmem⟩
          · rw [List.mem_singleton.mp hdot]
            decide
          · obtain ⟨part, hpart, rfl⟩ := List.mem_map.mp hwritten
            refine not_forbidden_of_mem_writePart ?_ hmem
            intro d hd hascii
            obtain ⟨raw, hraw, hread⟩ := exists_of_mem_readParts? hparts hpart
            have hcomposed := (mem_of_mem_piece hraw (mem_of_readPart? hread hd hascii)).1
            exact hclean d hcomposed hascii

theorem toAscii?_not_forbidden (h : toAscii? name = some ascii) (hc : c ∈ ascii) :
    isForbidden c = false := by
  unfold toAscii? at h
  split at h
  · rename_i hplain
    split at h
    · cases h
    · rename_i hclean
      cases h
      obtain ⟨d, hd, rfl⟩ := List.mem_map.mp hc
      rw [isPlain, Bool.and_eq_true] at hplain
      refine not_forbidden_toLower (List.all_eq_true.mp hplain.1 d hd) ?_
      exact any_eq_false_iff.mp (by simpa using hclean) d hd
  · exact settle?_not_forbidden h hc

end Domain

end Quadlink.Url
