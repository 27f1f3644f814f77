import Quadlink.Json.Writer
import Quadlink.Proofs.Json.Records

/-!
# Writing documents

What is written by the writer of JSON is one of the ways to write it: strings
(`isJsonString_writtenString`), whose control characters are escaped by their number, and natural
numbers. The other tokens are put in front of a text by `IsText.mark`.
-/

namespace Quadlink

/-- A control character by its number, in the four digits of an escape. -/
theorem hexNumber?_control {n : Nat} (h : n < 128) :
    Text.hexNumber? ['0', '0', Json.hexDigit (n / 16), Json.hexDigit (n % 16)] = some n := by
  have hall : ∀ n < 128,
      Text.hexNumber? ['0', '0', Json.hexDigit (n / 16), Json.hexDigit (n % 16)] = some n := by
    decide
  exact hall n h

namespace Json

theorem isCharText_escapeChar (c : Char) : IsCharText c (escapeChar c) := by
  unfold escapeChar
  split
  · rename_i hc
    subst hc
    exact .short (by decide)
  · rename_i hquote
    split
    · rename_i hc
      subst hc
      exact .short (by decide)
    · rename_i hslash
      split
      · exact .unit (hexNumber?_control (by omega))
      · exact .plain (by omega) hquote hslash

theorem isBody_escape (cs : List Char) : IsBody cs (cs.flatMap escapeChar) := by
  induction cs with
  | nil => exact .nil
  | cons c tail ih =>
      rw [List.flatMap_cons]
      exact .cons (isCharText_escapeChar c) ih

theorem isTokenText_natural (n : Nat) :
    IsTokenText (.number ⟨false, Text.digitValues (toString n).toList, none, none⟩)
      (toString n).toList := by
  have hdigits : IsDigits (toString n).toList :=
    ⟨Text.toString_ne_nil n, List.all_eq_true.mpr fun c hc => Text.isDigit_of_mem_toString hc⟩
  have hunsigned := @IsUnsignedText.mk false _ _ _ _ _ hdigits
    (fun rest h => Text.toString_eq_zero_cons h) .none .none
  rw [List.append_nil, List.append_nil] at hunsigned
  exact .natural hunsigned

/-- A token that is no number ends by itself. -/
theorem IsText.next {token : Token} {tokens : List Token} {text rest : List Char}
    (htoken : IsTokenText token text) (hnumber : ∀ number, token ≠ .number number)
    (hrest : IsText tokens rest) : IsText (token :: tokens) (text ++ rest) :=
  @IsText.cons token tokens [] text rest nofun htoken hrest fun number h => absurd h (hnumber number)

theorem IsText.mark {token : Token} {c : Char} {tokens : List Token} {rest : List Char}
    (h : (token, c) ∈ marks) (hrest : IsText tokens rest) : IsText (token :: tokens) (c :: rest) := by
  refine IsText.next (.mark h) ?_ hrest
  rintro number rfl
  simp [marks] at h

theorem endsNumber_cons {c : Char} (h : c ∈ spaces ++ [',', ']', '\x7d']) (rest : List Char) :
    EndsNumber (c :: rest) := by
  rintro _ ⟨⟩
  exact h

/-- White space may stand in front of a text. -/
theorem IsText.space {c : Char} {tokens : List Token} {text : List Char} (hc : c ∈ spaces)
    (h : IsText tokens text) : IsText tokens (c :: text) := by
  cases h with
  | nil hgap => exact .nil (List.forall_mem_cons.mpr ⟨hc, hgap⟩)
  | @cons _ _ gap _ _ hgap htoken hrest hend =>
      exact @IsText.cons _ _ (c :: gap) _ _ (List.forall_mem_cons.mpr ⟨hc, hgap⟩) htoken hrest hend

end Json

open Json

def writtenString (s : String) : Json.Document :=
  .string (Text.encodeChars (s.toList.flatMap escapeChar))

theorem isJsonString_writtenString (s : String) : IsJsonString s (writtenString s) :=
  ⟨_, isBody_escape s.toList, rfl⟩

theorem isText_body {cs body : List Char} (h : IsBody cs body) {tokens : List Token}
    {rest : List Char} (hrest : IsText tokens rest) :
    IsText (.string (Text.encodeChars body) :: tokens) ('"' :: (body ++ ['"']) ++ rest) :=
  .next (.string h.isEscaped) nofun hrest

theorem isText_string (s : String) {tokens : List Token} {rest : List Char}
    (hrest : IsText tokens rest) :
    IsText ((writtenString s).tokens ++ tokens) ((quoted s).toList ++ rest) := by
  rw [quoted, String.toList_ofList]
  exact isText_body (isBody_escape s.toList) hrest

/-- An object whose names are written by the writer of JSON. -/
def writtenObject (entries : List (String × Json.Document)) : Json.Document :=
  .object (entries.map fun entry =>
    (Text.encodeChars (entry.1.toList.flatMap escapeChar), entry.2))

theorem hasEntries_writtenObject {entries : List (String × Json.Document)}
    (hnames : (entries.map Prod.fst).Nodup) : (writtenObject entries).HasEntries entries := by
  refine ⟨hnames, _, rfl, ?_⟩
  rw [List.forall₂_map_right_iff]
  exact List.forall₂_same.mpr fun entry _ => ⟨⟨_, isBody_escape _, rfl⟩, rfl⟩

end Quadlink
