import Quadlink.Http.MediaType
import Quadlink.Proofs.Text.Pieces

/-!
# Spellings of media types

`MediaType.Alike` says which spellings mean the same type, by what may be changed about one: letter
case, white space around it, and parameters. `alike_iff` shows that these are the spellings which
`MediaType.normalize` makes equal. So a normal form is its own normal form, and it does not matter how
often and at which places types are normalized.
-/

namespace Quadlink

/-! ## Letter case -/

namespace Text

theorem isBlank_toLower (c : Char) : isBlank c.toLower = isBlank c := by
  rcases toLower_cases c with hself | ⟨hlow, hhigh, hlower⟩
  · rw [hself]
  · -- Neither a capital letter nor its lower case is white space.
    have hnot : ∀ d : Char, 65 ≤ d.toNat → d.toNat ≤ 122 → isBlank d = false := by
      intro d hlow hhigh
      simp only [isBlank, Bool.or_eq_false_iff, Bool.and_eq_false_iff, decide_eq_false_iff_not,
        beq_eq_false_iff_ne]
      omega
    rw [hnot c hlow (by omega), hnot c.toLower (by omega) (by omega)]

theorem toLower_ne_iff (c : Char) {mark : Char} (hmark : mark.toNat < 65) :
    c.toLower ≠ mark ↔ c ≠ mark := by
  rcases toLower_cases c with hself | ⟨hlow, -, hlower⟩
  · rw [hself]
  · refine ⟨fun _ h => ?_, fun _ h => ?_⟩
    · rw [h] at hlow
      omega
    · rw [h] at hlower
      omega

theorem dropTrailing_map {p : Char → Bool} {f : Char → Char} (h : ∀ c, p (f c) = p c)
    (cs : List Char) : dropTrailing p (cs.map f) = (dropTrailing p cs).map f := by
  have hcomp : p ∘ f = p := funext h
  rw [dropTrailing, dropTrailing, ← List.map_reverse, List.dropWhile_map, hcomp, List.map_reverse]

theorem trimChars_toLower (cs : List Char) :
    trimChars (cs.map Char.toLower) = (trimChars cs).map Char.toLower := by
  have hcomp : isBlank ∘ Char.toLower = isBlank := funext isBlank_toLower
  rw [trimChars, List.dropWhile_map, hcomp, dropTrailing_map isBlank_toLower, ← trimChars]

end Text

/-! ## Spellings of media types -/

namespace MediaType

open Text

/-- Spellings of one media type: letter case, white space around it and what follows a semicolon do
not matter. The relation is generated by these three and knows nothing of a normal form. -/
inductive Alike : String → String → Prop
  | case {a b : String} (h : lower a = lower b) : Alike a b
  | padding {type padded : String} (h : IsPadded type.toList padded.toList) : Alike padded type
  | parameters (type rest : String) : Alike (type ++ ";" ++ rest) type
  | symm {a b : String} (h : Alike a b) : Alike b a
  | trans {a b c : String} (h : Alike a b) (h' : Alike b c) : Alike a c

/-- The part of a type in front of the first semicolon. -/
def essence (cs : List Char) : List Char := cs.takeWhile (· != ';')

theorem normalize_eq (raw : String) :
    normalize raw = String.ofList ((trimChars (essence raw.toList)).map Char.toLower) := by
  rw [normalize, trim, lower, String.toList_ofList, String.toList_ofList]
  rfl

theorem essence_append (cs rest : List Char) : essence (cs ++ ';' :: rest) = essence cs := by
  induction cs with
  | nil => rfl
  | cons c tail ih =>
      rw [essence, essence, List.cons_append, List.takeWhile_cons, List.takeWhile_cons]
      split
      · exact congrArg (c :: ·) ih
      · rfl

theorem essence_toLower (cs : List Char) :
    essence (cs.map Char.toLower) = (essence cs).map Char.toLower := by
  have hcomp : (fun c : Char => c != ';') ∘ Char.toLower = fun c => c != ';' := by
    funext c
    rw [Bool.eq_iff_iff]
    have hmark : ';'.toNat < 65 := by decide
    simpa using toLower_ne_iff c hmark
  rw [essence, List.takeWhile_map, hcomp]
  rfl

theorem ne_of_mem_essence {cs : List Char} {c : Char} (h : c ∈ essence cs) : (c != ';') = true :=
  List.all_eq_true.mp List.all_takeWhile c h

/-- A text without a semicolon counts as a whole, and any other up to its first semicolon. -/
theorem essence_cases (cs : List Char) :
    essence cs = cs ∨ ∃ rest, cs = essence cs ++ ';' :: rest := by
  have hsplit : essence cs ++ cs.dropWhile (· != ';') = cs := List.takeWhile_append_dropWhile
  cases hrest : cs.dropWhile (· != ';') with
  | nil =>
      rw [hrest, List.append_nil] at hsplit
      exact .inl hsplit
  | cons mark rest =>
      have hnot := List.head?_dropWhile_not (· != ';') cs
      rw [hrest] at hnot
      obtain rfl : mark = ';' := by simpa using hnot
      rw [hrest] at hsplit
      exact .inr ⟨rest, hsplit.symm⟩

/-- White space around a type stays around the part that counts. -/
theorem isPadded_essence {cs padded : List Char} (h : IsPadded cs padded) :
    IsPadded (essence cs) (essence padded) := by
  obtain ⟨left, right, hleft, hright, rfl⟩ := h
  have hplain : ∀ c, isBlank c = true → (c != ';') = true := by
    intro c hc
    refine bne_iff_ne.mpr ?_
    rintro rfl
    cases hc
  rcases essence_cases cs with hwhole | ⟨rest, hcut⟩
  · refine ⟨left, right, hleft, hright, ?_⟩
    rw [hwhole]
    refine takeWhile_eq_self (List.all_eq_true.mpr fun c hc => ?_)
    rcases List.mem_append.mp hc with hc | hc
    · exact hplain c (hleft c hc)
    · rcases List.mem_append.mp hc with hc | hc
      · exact ne_of_mem_essence (hwhole.symm ▸ hc)
      · exact hplain c (hright c hc)
  · refine ⟨left, [], hleft, nofun, ?_⟩
    have hpadded : left ++ (cs ++ right) = left ++ essence cs ++ ';' :: (rest ++ right) := by
      calc left ++ (cs ++ right) = left ++ (essence cs ++ ';' :: rest ++ right) := by rw [← hcut]
        _ = left ++ essence cs ++ ';' :: (rest ++ right) := by simp
    rw [hpadded, List.append_nil]
    refine takeWhile_append_stop (List.all_eq_true.mpr fun c hc => ?_) rfl
    rcases List.mem_append.mp hc with hc | hc
    · exact hplain c (hleft c hc)
    · exact ne_of_mem_essence hc

theorem normalize_of_alike {a b : String} (h : Alike a b) : normalize a = normalize b := by
  induction h with
  | @case a b h =>
      have hlower : a.toList.map Char.toLower = b.toList.map Char.toLower :=
        String.ofList_injective h
      rw [normalize_eq, normalize_eq, ← trimChars_toLower, ← trimChars_toLower, ← essence_toLower,
        ← essence_toLower, hlower]
  | padding h => rw [normalize_eq, normalize_eq, IsPadded.trimChars_congr (isPadded_essence h)]
  | parameters type rest =>
      rw [normalize_eq, normalize_eq, String.toList_append, String.toList_append, List.append_assoc]
      exact congrArg (fun cs => String.ofList ((trimChars cs).map Char.toLower))
        (essence_append type.toList rest.toList)
  | symm _ ih => exact ih.symm
  | trans _ _ ih ih' => exact ih.trans ih'

/-- What counts of a type is another spelling of it. -/
theorem alike_essence (raw : String) : Alike raw (String.ofList (essence raw.toList)) := by
  rcases essence_cases raw.toList with hwhole | ⟨rest, hcut⟩
  · rw [hwhole, String.ofList_toList]
    exact .case rfl
  · have hraw : raw = String.ofList (essence raw.toList) ++ ";" ++ String.ofList rest := by
      rw [← String.toList_inj]
      simp only [String.toList_append, String.toList_ofList, List.append_assoc]
      exact hcut
    have halike := Alike.parameters (String.ofList (essence raw.toList)) (String.ofList rest)
    rwa [← hraw] at halike

/-- So is its normal form. -/
theorem alike_normalize (raw : String) : Alike raw (normalize raw) := by
  have htrimmed : Alike (String.ofList (essence raw.toList))
      (trim (String.ofList (essence raw.toList))) := by
    refine .padding ?_
    rw [trim, String.toList_ofList, String.toList_ofList]
    exact isPadded_trimChars _
  exact ((alike_essence raw).trans htrimmed).trans (.case (lower_lower _).symm)

/-- Spellings mean the same type if they have the same normal form. -/
theorem alike_iff {a b : String} : Alike a b ↔ normalize a = normalize b := by
  refine ⟨normalize_of_alike, fun h => ?_⟩
  have ha := alike_normalize a
  rw [h] at ha
  exact ha.trans (alike_normalize b).symm

@[simp] theorem normalize_normalize (raw : String) : normalize (normalize raw) = normalize raw :=
  (normalize_of_alike (alike_normalize raw)).symm

end MediaType

end Quadlink
