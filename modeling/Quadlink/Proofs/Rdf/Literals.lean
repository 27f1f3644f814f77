import Quadlink.Proofs.Codec.Percent
import Quadlink.Proofs.Rdf.Notation
import Quadlink.Proofs.Text.Numerals

/-!
# Literals of the grammar

The ways to write a literal that the grammar of N-Triples derives: its value between quotes, each
character as it is, as a letter behind a backslash, or by its code point (`Delimited.Spells`), and
behind the quotes a language, a datatype or nothing (`Annotates`). The reader of the grammar gets
from every one of them the literal that is meant (`readLiteral?_spelled`).

The reader of parameters knows five of the letters. What it makes of the others, and of code points,
is the letter itself, so `Term.readObject_spelled` has a condition: it reads what is meant exactly
where none of `unknownLetters` stands behind a backslash. Both directions are by induction on the
spelling; where an escape is misread, the value comes out too long for what is left of it, or differs
in its first character.
-/

namespace Quadlink

namespace NQuads

open Text Codec

/-! ## Spellings -/

def pointMarks : List (Char × Nat) := [('u', 4), ('U', 8)]

/-- The ways to write a value in a delimited text: each character as it is, as a letter, or as a
code point of four or eight digits. -/
inductive Delimited.Spells (kind : Delimited) : List Char → List Char → Prop where
  | nil : kind.Spells [] []
  | plain {c : Char} {value text : List Char} (hc : kind.isPlain c = true)
      (hrest : kind.Spells value text) : kind.Spells (c :: value) (c :: text)
  | letter {c letter : Char} {value text : List Char} (hletter : kind.letter? letter = some c)
      (hrest : kind.Spells value text) : kind.Spells (c :: value) ('\\' :: letter :: text)
  | point {c mark : Char} {digits value text : List Char}
      (hmark : (mark, digits.length) ∈ pointMarks)
      (hdigits : hexNumber? digits = some c.toNat) (hrest : kind.Spells value text) :
      kind.Spells (c :: value) ('\\' :: mark :: (digits ++ text))

/-- What may stand behind the quotes of a literal with a datatype, with a language, or neither. No
form has both. -/
inductive Annotates : Option String → Option String → List Char → Prop where
  | nothing : Annotates none none []
  | language {tag : String} (htag : isTag tag.toList = true) :
      Annotates none (some tag) ('@' :: tag.toList)
  | datatype {iri : String} {text : List Char} (hiri : iriText.Spells iri.toList text) :
      Annotates (some iri) none ('^' :: '^' :: '<' :: (text ++ ['>']))

/-- A kind of delimited text in which one character can tell where a reader stands: neither the
closing character nor a backslash stands for itself, and no letter starts a code point. -/
structure Delimited.IsProper (kind : Delimited) : Prop where
  close_ne : kind.close ≠ '\\'
  plain_ne : ∀ c, kind.isPlain c = true → c ≠ kind.close ∧ c ≠ '\\'
  letter_ne : ∀ letter c, kind.letter? letter = some c → letter ≠ 'u' ∧ letter ≠ 'U'

theorem literalText_isProper : literalText.IsProper where
  close_ne := by decide
  plain_ne := fun _ hc =>
    have ⟨hquote, hslash, _⟩ := isLiteralChar_iff.mp hc
    ⟨hquote, hslash⟩
  letter_ne := by
    intro letter c h
    constructor <;> rintro rfl <;> cases h

theorem iriText_isProper : iriText.IsProper where
  close_ne := by decide
  plain_ne := fun _ hc =>
    have ⟨_, _, hclose, _, _, _, _, _, _, hslash⟩ := isIriChar_iff.mp hc
    ⟨hclose, hslash⟩
  letter_ne := nofun

variable {kind : Delimited} {c mark : Char} {digits value text body suffix rest : List Char}
  {datatype language : Option String}

theorem mark_cases (hmark : (mark, digits.length) ∈ pointMarks) :
    (mark = 'u' ∧ digits.length = 4) ∨ (mark = 'U' ∧ digits.length = 8) := by
  simpa [pointMarks] using hmark

/-! ## The grammar's reader -/

theorem read?_digits {values : List Nat} {more acc : Nat}
    (hvalues : digits.mapM Percent.hexValue? = some values) (hlength : digits.length = more + 1)
    (hvalue : values.foldl (fun acc v => acc * 16 + v) acc = c.toNat) (rest : List Char) :
    kind.read? (.digits more acc) (digits ++ rest) = withFirst c (kind.read? .plain rest) := by
  induction digits generalizing values more acc with
  | nil => cases hlength
  | cons d tail ih =>
      simp only [List.mapM_cons, Option.bind_eq_bind, Option.bind_eq_some_iff] at hvalues
      obtain ⟨digit, hdigit, others, hothers, ⟨⟩⟩ := hvalues
      rw [List.foldl_cons] at hvalue
      rw [List.cons_append, Delimited.read?, hdigit]
      cases more with
      | zero =>
          obtain rfl : tail = [] := List.length_eq_zero_iff.mp (Nat.succ.inj hlength)
          cases hothers
          have hnumber : acc * 16 + digit = c.toNat := hvalue
          have hvalid : c.toNat.isValidChar := c.valid
          dsimp only
          rw [hnumber, if_pos hvalid, Char.ofNat_toNat, List.nil_append]
      | succ more => exact ih hothers (Nat.succ.inj hlength) hvalue

namespace Delimited.Spells

/-- Whatever is written of a value is read as the value. -/
theorem read?_close (hproper : kind.IsProper) (h : kind.Spells value text) (rest : List Char) :
    kind.read? .plain (text ++ kind.close :: rest) = some (value, rest) := by
  induction h with
  | nil => rw [List.nil_append, Delimited.read?, if_pos rfl]
  | plain hc _ ih =>
      obtain ⟨hclose, hslash⟩ := hproper.plain_ne _ hc
      rw [List.cons_append, Delimited.read?, if_neg hclose, if_neg hslash, if_pos hc, ih]
      rfl
  | letter hletter _ ih =>
      obtain ⟨hu, hU⟩ := hproper.letter_ne _ _ hletter
      rw [List.cons_append, List.cons_append, Delimited.read?, if_neg hproper.close_ne.symm,
        if_pos rfl, Delimited.read?, if_neg hu, if_neg hU, hletter]
      dsimp only
      rw [ih]
      rfl
  | @point c mark digits value text hmark hdigits _ ih =>
      obtain ⟨values, hvalues, hvalue⟩ := Option.map_eq_some_iff.mp hdigits
      rw [List.cons_append, List.cons_append, List.append_assoc, Delimited.read?,
        if_neg hproper.close_ne.symm, if_pos rfl]
      rcases mark_cases hmark with ⟨rfl, hlength⟩ | ⟨rfl, hlength⟩
      · rw [Delimited.read?, if_pos rfl, read?_digits hvalues hlength hvalue, ih]
        rfl
      · rw [Delimited.read?, if_neg (by decide), if_pos rfl,
          read?_digits hvalues hlength hvalue, ih]
        rfl

end Delimited.Spells

theorem Annotates.readAnnotation?_eq (h : Annotates datatype language suffix) (value : String) :
    readAnnotation? value suffix = some (.literal value datatype language, []) := by
  cases h with
  | nothing => rfl
  | @language tag htag =>
      have htaken : tag.toList.takeWhile inTag = tag.toList :=
        takeWhile_eq_self (all_inTag_of_isTag htag)
      have hleft : tag.toList.dropWhile inTag = [] := dropWhile_eq_nil (all_inTag_of_isTag htag)
      show Option.map _ (readTag? tag.toList) = _
      rw [readTag?, htaken, hleft, if_pos htag, Option.map_some, String.ofList_toList]
  | datatype hiri =>
      show Option.map _ (iriText.read? .plain (_ ++ iriText.close :: [])) = _
      rw [hiri.read?_close iriText_isProper, Option.map_some, String.ofList_toList]

/-- However a literal is written, the reader of the grammar gets it. -/
theorem readLiteral?_spelled {value : String} (hvalue : literalText.Spells value.toList body)
    (hsuffix : Annotates datatype language suffix) :
    readLiteral? ('"' :: (body ++ '"' :: suffix)) =
      some (.literal value datatype language, []) := by
  have hread : literalText.read? .plain (body ++ '"' :: suffix) = some (value.toList, suffix) :=
    hvalue.read?_close literalText_isProper suffix
  rw [readLiteral?, hread, Option.bind_some, String.ofList_toList, hsuffix.readAnnotation?_eq]

/-! ## Letters behind backslashes -/

def escapeLetters : List Char → List Char
  | '\\' :: letter :: rest => letter :: escapeLetters rest
  | _ :: rest => escapeLetters rest
  | [] => []

theorem escapeLetters_cons (h : c ≠ '\\') (cs : List Char) :
    escapeLetters (c :: cs) = escapeLetters cs := by
  rw [escapeLetters.eq_def]
  split
  · rename_i heq
    exact absurd (List.cons.inj heq).1 h
  · rename_i heq
    rw [(List.cons.inj heq).2]
  · rename_i heq
    cases heq

theorem escapeLetters_append_of_all (h : ∀ c ∈ value, c ≠ '\\') (rest : List Char) :
    escapeLetters (value ++ rest) = escapeLetters rest := by
  induction value with
  | nil => rfl
  | cons c tail ih =>
      obtain ⟨hc, htail⟩ := List.forall_mem_cons.mp h
      rw [List.cons_append, escapeLetters_cons hc, ih htail]

theorem isSome_of_mem_hexNumber? {n : Nat} (h : hexNumber? digits = some n) :
    ∀ c ∈ digits, (Percent.hexValue? c).isSome = true := by
  obtain ⟨values, hvalues, -⟩ := Option.map_eq_some_iff.mp h
  clear h
  induction digits generalizing values with
  | nil => exact nofun
  | cons d tail ih =>
      simp only [List.mapM_cons, Option.bind_eq_bind, Option.bind_eq_some_iff] at hvalues
      obtain ⟨digit, hdigit, others, hothers, -⟩ := hvalues
      exact List.forall_mem_cons.mpr ⟨by rw [hdigit]; rfl, ih others hothers⟩

/-- No digit is a character with a meaning of its own. -/
theorem ne_of_mem_hexNumber? {n : Nat} (h : hexNumber? digits = some n) (hc : c ∈ digits) :
    c ≠ '\\' ∧ c ≠ '"' :=
  Codec.Percent.forall_hexValue? (P := fun c => c ≠ '\\' ∧ c ≠ '"') (by decide)
    (isSome_of_mem_hexNumber? h c hc)

theorem Delimited.Spells.escapeLetters_append (hproper : kind.IsProper)
    (h : kind.Spells value text) (rest : List Char) :
    escapeLetters (text ++ rest) = escapeLetters text ++ escapeLetters rest := by
  induction h with
  | nil => rfl
  | plain hc _ ih =>
      have hslash := (hproper.plain_ne _ hc).2
      rw [List.cons_append, escapeLetters_cons hslash, escapeLetters_cons hslash, ih]
  | letter _ _ ih =>
      rw [List.cons_append, List.cons_append, escapeLetters, escapeLetters, ih, List.cons_append]
  | point _ hdigits _ ih =>
      have hslash := fun c hc => (ne_of_mem_hexNumber? (c := c) hdigits hc).1
      rw [List.cons_append, List.cons_append, List.append_assoc, escapeLetters, escapeLetters,
        escapeLetters_append_of_all hslash, escapeLetters_append_of_all hslash, ih,
        List.cons_append]

/-! ## What stands behind the quotes -/

theorem Delimited.Spells.quote_not_mem (h : iriText.Spells value text) : '"' ∉ text := by
  induction h with
  | nil => exact nofun
  | plain hc _ ih =>
      obtain ⟨-, -, -, hquote, -⟩ := isIriChar_iff.mp hc
      rw [List.mem_cons, not_or]
      exact ⟨hquote.symm, ih⟩
  | letter hletter _ _ => cases hletter
  | @point _ mark _ _ _ hmark hdigits _ ih =>
      have hletter : '"' ≠ mark := by
        rcases mark_cases hmark with ⟨rfl, -⟩ | ⟨rfl, -⟩ <;> decide
      simp only [List.mem_cons, List.mem_append, not_or]
      exact ⟨by decide, hletter, fun hmem => (ne_of_mem_hexNumber? hdigits hmem).2 rfl, ih⟩

theorem ne_of_inTag (h : inTag c = true) : c ≠ '"' ∧ c ≠ '\\' ∧ isBlank c = false := by
  refine ⟨?_, ?_, ?_⟩
  · rintro rfl
    cases h
  · rintro rfl
    cases h
  · have hrange : 0x2D ≤ c.toNat ∧ c.toNat ≤ 0x7A := by
      rcases (Bool.or_eq_true _ _).mp h with hgroup | hyphen
      · rcases (Bool.or_eq_true _ _).mp hgroup with hletter | hdigit
        · rcases (Bool.or_eq_true _ _).mp hletter with hupper | hlower
          · obtain ⟨hlow, hhigh⟩ := of_decide_eq_true hupper
            exact ⟨Nat.le_trans (by decide) hlow, Nat.le_trans hhigh (by decide)⟩
          · obtain ⟨hlow, hhigh⟩ := (Bool.and_eq_true _ _).mp hlower
            exact ⟨Nat.le_trans (by decide) (of_decide_eq_true hlow),
              Nat.le_trans (of_decide_eq_true hhigh) (by decide)⟩
        · obtain ⟨hlow, hhigh⟩ := (Bool.and_eq_true _ _).mp hdigit
          exact ⟨Nat.le_trans (by decide) (of_decide_eq_true hlow),
            Nat.le_trans (of_decide_eq_true hhigh) (by decide)⟩
      · rw [beq_iff_eq.mp hyphen]
        decide
    simp only [isBlank, Bool.or_eq_false_iff, Bool.and_eq_false_iff, decide_eq_false_iff_not,
      beq_eq_false_iff_ne]
    omega

namespace Annotates

/-- No quote and no white space at the end: what stands behind the quotes is found from the end. -/
theorem ends (h : Annotates datatype language suffix) :
    '"' ∉ suffix ∧ dropTrailing isBlank suffix = suffix := by
  cases h with
  | nothing => exact ⟨nofun, rfl⟩
  | language htag =>
      have hall := List.all_eq_true.mp (all_inTag_of_isTag htag)
      refine ⟨?_, dropTrailing_eq_self fun last hlast => ?_⟩
      · rw [List.mem_cons, not_or]
        exact ⟨by decide, fun hmem => (ne_of_inTag (hall _ hmem)).1 rfl⟩
      · rcases List.mem_cons.mp (List.mem_of_getLast? hlast) with rfl | hmem
        · rfl
        · exact (ne_of_inTag (hall _ hmem)).2.2
  | @datatype iri text hiri =>
      refine ⟨?_, dropTrailing_append (by decide) ('^' :: '^' :: '<' :: text) []⟩
      simp only [List.mem_cons, List.mem_append, not_or]
      exact ⟨by decide, by decide, by decide, hiri.quote_not_mem, by decide, List.not_mem_nil⟩

end Annotates

end NQuads

namespace Term

open Text NQuads

variable {text body suffix : List Char} {datatype language : Option String}

/-! ## Reading -/

/-- The letters behind a backslash that are read as themselves but mean something else. -/
def unknownLetters : List Char := ['b', 'f', 'u', 'U']

theorem unescapeChar_eq_iff {letter c : Char} (h : letter? letter = some c) :
    unescapeChar letter = c ↔ letter ∉ unknownLetters := by
  unfold letter? at h
  split at h <;> cases h <;> decide

theorem unescape_append_of_all (h : ∀ c ∈ text, c ≠ '\\') (rest : List Char) :
    unescape (text ++ rest) = text ++ unescape rest := by
  induction text with
  | nil => rfl
  | cons c tail ih =>
      obtain ⟨hc, htail⟩ := List.forall_mem_cons.mp h
      rw [List.cons_append, unescape_cons hc, ih htail, List.cons_append]

/-- A code point is read as its mark and its digits. -/
theorem unescape_point {mark c : Char} {digits : List Char}
    (hmark : (mark, digits.length) ∈ pointMarks)
    (hdigits : hexNumber? digits = some c.toNat) (text : List Char) :
    mark ∈ unknownLetters
      ∧ unescape ('\\' :: mark :: (digits ++ text)) = mark :: (digits ++ unescape text) := by
  have hslash := fun c hc => (ne_of_mem_hexNumber? (c := c) hdigits hc).1
  rcases mark_cases hmark with ⟨rfl, -⟩ | ⟨rfl, -⟩
  all_goals exact ⟨by decide, by rw [unescape, unescape_append_of_all hslash]; rfl⟩

section Spellings

variable {kind : Delimited} {value : List Char}

/-- A text is at least as long as its value, and so is what is read of it. -/
theorem length_le_of_spells (hproper : kind.IsProper) (h : kind.Spells value text) :
    value.length ≤ text.length ∧ value.length ≤ (unescape text).length := by
  induction h with
  | nil => exact ⟨Nat.le_refl _, Nat.le_refl _⟩
  | plain hc _ ih =>
      rw [unescape_cons (hproper.plain_ne _ hc).2]
      exact ⟨Nat.succ_le_succ ih.1, Nat.succ_le_succ ih.2⟩
  | letter _ _ ih =>
      rw [unescape]
      exact ⟨Nat.le_succ_of_le (Nat.succ_le_succ ih.1), Nat.succ_le_succ ih.2⟩
  | point hmark hdigits _ ih =>
      rw [(unescape_point hmark hdigits _).2]
      simp only [List.length_cons, List.length_append]
      omega

/-- The value between quotes is read as it is meant where no letter is unknown. -/
theorem unescape_eq_iff (h : literalText.Spells value text) :
    unescape text = value ↔ ∀ letter ∈ escapeLetters text, letter ∉ unknownLetters := by
  induction h with
  | nil => simp [unescape, escapeLetters]
  | plain hc _ ih =>
      have hslash := (literalText_isProper.plain_ne _ hc).2
      rw [unescape_cons hslash, escapeLetters_cons hslash, List.cons_inj_right, ih]
  | letter hletter _ ih =>
      rw [unescape, escapeLetters, List.forall_mem_cons, List.cons_eq_cons,
        unescapeChar_eq_iff hletter, ih]
  | @point c mark digits value text hmark hdigits hrest _ =>
      obtain ⟨hunknown, hread⟩ := unescape_point hmark hdigits text
      rw [hread, escapeLetters, List.forall_mem_cons]
      refine iff_of_false (fun hsame => ?_) (fun hall => hall.1 hunknown)
      -- What is read of a code point takes more room than one character.
      have hlength := congrArg List.length (List.cons.inj hsame).2
      have hle := (length_le_of_spells literalText_isProper hrest).2
      rw [List.length_append] at hlength
      rcases mark_cases hmark with ⟨-, hdigits⟩ | ⟨-, hdigits⟩ <;> omega

/-- A datatype is read as it is written, which is what is meant where there is no code point. -/
theorem text_eq_iff (h : iriText.Spells value text) :
    text = value ↔ ∀ letter ∈ escapeLetters text, letter ∉ unknownLetters := by
  induction h with
  | nil => simp [escapeLetters]
  | plain hc _ ih =>
      rw [escapeLetters_cons (iriText_isProper.plain_ne _ hc).2, List.cons_inj_right, ih]
  | letter hletter _ _ => cases hletter
  | @point c mark digits value text hmark hdigits hrest _ =>
      have hunknown := (unescape_point hmark hdigits text).1
      rw [escapeLetters, List.forall_mem_cons]
      refine iff_of_false (fun hsame => ?_) (fun hall => hall.1 hunknown)
      have hlength := congrArg List.length hsame
      have hle := (length_le_of_spells iriText_isProper hrest).1
      simp only [List.length_cons, List.length_append] at hlength
      omega

end Spellings

/-- The suffix of a literal is what is written behind the quotes of one with the same language,
whose datatype is the one that is meant where there is no code point in it. -/
theorem exists_behindQuotes (h : Annotates datatype language suffix) :
    ∃ written, suffix = behindQuotes written language ∧ (written = none ∨ language = none)
      ∧ (written = datatype ↔ ∀ letter ∈ escapeLetters suffix, letter ∉ unknownLetters) := by
  cases h with
  | nothing => exact ⟨none, rfl, .inl rfl, by simp [escapeLetters]⟩
  | @language tag htag =>
      have hslash : ∀ c ∈ '@' :: tag.toList, c ≠ '\\' := by
        refine List.forall_mem_cons.mpr ⟨by decide, fun c hc => ?_⟩
        exact (ne_of_inTag (List.all_eq_true.mp (all_inTag_of_isTag htag) c hc)).2.1
      have hnone : escapeLetters ('@' :: tag.toList) = [] := by
        rw [← List.append_nil ('@' :: tag.toList), escapeLetters_append_of_all hslash]
        rfl
      exact ⟨none, rfl, .inl rfl, by simp [hnone]⟩
  | @datatype iri text hiri =>
      have hletters : escapeLetters ('^' :: '^' :: '<' :: (text ++ ['>'])) = escapeLetters text := by
        rw [escapeLetters_cons (by decide), escapeLetters_cons (by decide),
          escapeLetters_cons (by decide), hiri.escapeLetters_append iriText_isProper]
        exact List.append_nil _
      refine ⟨some (String.ofList text), by simp [behindQuotes], .inr rfl, ?_⟩
      rw [hletters, ← text_eq_iff hiri, Option.some_inj, ← String.toList_inj, String.toList_ofList]

/-- A literal of the grammar is read with its language, and with its value and datatype as far as
the letters behind backslashes are known. It is read as what the grammar says that it is exactly
where all of them are. -/
theorem readObject_spelled {value : String} (hvalue : literalText.Spells value.toList body)
    (hsuffix : Annotates datatype language suffix) :
    NQuads.readLiteral? ('"' :: (body ++ '"' :: suffix)) =
        some (literal value datatype language, [])
      ∧ (∃ written, suffix = behindQuotes written language
          ∧ readObject (String.ofList ('"' :: (body ++ '"' :: suffix))) =
              .ok (literal (String.ofList (unescape body)) written language))
      ∧ (readObject (String.ofList ('"' :: (body ++ '"' :: suffix))) =
            .ok (literal value datatype language)
          ↔ ∀ letter ∈ escapeLetters ('"' :: (body ++ '"' :: suffix)),
              letter ∉ unknownLetters) := by
  obtain ⟨written, hwritten, hone, hdatatype⟩ := exists_behindQuotes hsuffix
  obtain ⟨hquote, hends⟩ := hsuffix.ends
  have hread : readObject (String.ofList ('"' :: (body ++ '"' :: suffix))) =
      .ok (literal (String.ofList (unescape body)) written language) := by
    have htrim : trimChars (String.ofList ('"' :: (body ++ '"' :: suffix))).toList =
        '"' :: (body ++ '"' :: suffix) := by
      rw [String.toList_ofList, trimChars_cons (by decide), dropTrailing_append (by decide), hends]
    apply readObject_of_readLiteral?
    · rw [htrim, readResource?_quoted]
    · rw [htrim, readLiteral?, cutAtLast?_append hquote]
      dsimp only
      rw [hwritten, readSuffix?_behindQuotes _ hone]
  have hletters : escapeLetters ('"' :: (body ++ '"' :: suffix)) =
      escapeLetters body ++ escapeLetters suffix := by
    rw [escapeLetters_cons (by decide), hvalue.escapeLetters_append literalText_isProper,
      escapeLetters_cons (by decide)]
  refine ⟨readLiteral?_spelled hvalue hsuffix, ⟨written, hwritten, hread⟩, ?_⟩
  rw [hread, hletters, List.forall_mem_append, ← unescape_eq_iff hvalue, ← hdatatype]
  rw [← String.toList_ofList (l := unescape body), String.toList_inj]
  simp

/-- Behind a backslash that is escaped itself, no letter means anything. -/
theorem known_letters_are_read :
    NQuads.readLiteral? ['"', '\\', '"', '\\', '\\', 'u', '"', '@', 'e', 'n', '-', 'G', 'B'] =
        some (literal "\"\\u" none (some "en-GB"), [])
      ∧ readObject "\"\\\"\\\\u\"@en-GB" = .ok (literal "\"\\u" none (some "en-GB")) := by
  have hvalue : literalText.Spells "\"\\u".toList ['\\', '"', '\\', '\\', 'u'] :=
    .letter rfl (.letter rfl (.plain rfl .nil))
  have hsuffix : Annotates none (some "en-GB") ['@', 'e', 'n', '-', 'G', 'B'] :=
    .language (by decide)
  obtain ⟨hgrammar, -, hiff⟩ := readObject_spelled hvalue hsuffix
  exact ⟨hgrammar, hiff.mpr (by simp [escapeLetters, unknownLetters])⟩

/-- The code point of a letter, and a letter that means a control character. -/
theorem code_point_is_misread :
    (literalText.Spells "A".toList ['\\', 'u', '0', '0', '4', '1'] ∧ Annotates none none []
        ∧ readObject "\"\\u0041\"" = .ok (literal "u0041" none none))
      ∧ literalText.Spells "\x08".toList ['\\', 'b']
        ∧ readObject "\"\\b\"" = .ok (literal "b" none none) := by
  have hdigits : hexNumber? ['0', '0', '4', '1'] = some 'A'.toNat := by decide
  exact ⟨⟨.point (by decide) hdigits .nil, .nothing, rfl⟩, .letter rfl .nil, rfl⟩

end Term

end Quadlink
