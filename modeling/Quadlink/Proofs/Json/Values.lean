import Quadlink.Json.Value
import Quadlink.Proofs.Json.Exactness
import Quadlink.Proofs.Json.Writing

/-!
# Which texts have a value

JSON as a grammar knows no limits: a text may nest as deep as it likes, write numbers of any size,
and escape half of a surrogate pair. A value has all three limits. `Document.IsReadable` names
them, apart from the reader that keeps them: the depth is counted on the document, and its strings
are those that spell a text (`IsBody`).

The text of a document within the limits has a value, and nothing else has (`exists_parse_iff`);
the value is that of the document (`parse_eq_some_iff`). A text without a value is thus either no
JSON or beyond a limit. Both follow from one induction over documents, `exists_value?_iff`, and
from the grammar being exactly what is read (`Document.isText_of_parse`).
-/

namespace Quadlink.Json

open Text

/-! ## Limits -/

mutual

/-- How many containers lie within each other. An empty container counts: it is entered all the
same. -/
def Document.depth : Document → Nat
  | .array items => itemsDepth items + 1
  | .object members => membersDepth members + 1
  | _ => 0

def itemsDepth : List Document → Nat
  | [] => 0
  | item :: rest => max item.depth (itemsDepth rest)

def membersDepth : List (Bytes × Document) → Nat
  | [] => 0
  | (_, value) :: rest => max value.depth (membersDepth rest)

end

def NumberToken.magnitude (token : NumberToken) : Nat :=
  token.digits.foldl (fun acc d => acc * 10 + d) 0

/-- Whole numbers of a machine word, of either sign. A negative zero is none of them. -/
def NumberToken.IsWord (token : NumberToken) : Prop :=
  token.fraction = none ∧ token.exponent = none
    ∧ if token.negative then 0 < token.magnitude ∧ token.magnitude ≤ 1 <<< 63
      else token.magnitude ≤ maxNatural

/-- Numbers that have a value: those of a machine word, and of all the others those that a finite
floating-point number comes near to. -/
def NumberToken.IsInRange (token : NumberToken) : Prop :=
  token.IsWord ∨ ∃ f, token.float? = some f

/-- A document within the limits of a value: how deep it nests, how large its numbers are, and that
every string and every name spells a text. JSON itself sets none of these. -/
structure Document.IsReadable (document : Document) : Prop where
  nesting : document.depth ≤ Value.maxDepth
  numbers : ∀ token, .number token ∈ document.tokens → token.IsInRange
  strings : ∀ raw, .string raw ∈ document.tokens →
    ∃ (text : String) (body : List Char), IsBody text.toList body ∧ raw = encodeChars body

/-- Bytes that write the document: the encoding of a JSON text, in any of its spellings. Bytes write
one document at most (`Document.IsWrittenAs.parse_eq`). -/
def Document.IsWrittenAs (document : Document) (bytes : Bytes) : Prop :=
  ∃ text, IsText document.tokens text ∧ bytes = encodeChars text

/-- What is in range is read, as a word where it is one. -/
theorem NumberToken.exists_read?_iff {token : NumberToken} :
    (∃ number, token.read? = some number) ↔ token.IsInRange := by
  have hfloating : (∃ number, (token.float?.map fun f => Number.float f.toBits) = some number) ↔
      ∃ f, token.float? = some f := by
    cases token.float? <;> simp
  obtain ⟨negative, digits, fraction, exponent⟩ := token
  cases fraction with
  | some _ => simpa only [IsInRange, IsWord, read?, reduceCtorEq, false_and, false_or]
  | none =>
      cases exponent with
      | some _ => simpa only [IsInRange, IsWord, read?, reduceCtorEq, false_and, and_false, false_or]
      | none =>
          simp only [IsInRange, IsWord, read?, magnitude, true_and]
          generalize digits.foldl (fun acc d => acc * 10 + d) 0 = n
          cases negative with
          | true =>
              rw [if_pos rfl, if_pos rfl]
              by_cases hbeyond : n = 0 ∨ 1 <<< 63 < n
              · rw [if_pos hbeyond, or_iff_right (by omega)]
                exact hfloating
              · rw [if_neg hbeyond]
                exact iff_of_true ⟨_, rfl⟩ (.inl (by omega))
          | false =>
              rw [if_neg Bool.false_ne_true, if_neg Bool.false_ne_true]
              by_cases hfits : n ≤ maxNatural
              · rw [if_pos hfits]
                exact iff_of_true ⟨_, rfl⟩ (.inl hfits)
              · rw [if_neg hfits, or_iff_right hfits]
                exact hfloating

/-- A token that the reader of values can make something of. `areLegible_iff` says with the grammar
which tokens these are. -/
def Token.IsLegible : Token → Prop
  | .number token => ∃ number, token.read? = some number
  | .string raw => ∃ text, readString? raw = some text
  | _ => True

def AreLegible (tokens : List Token) : Prop := ∀ token ∈ tokens, token.IsLegible

theorem areLegible_cons {token : Token} {tokens : List Token} :
    AreLegible (token :: tokens) ↔ token.IsLegible ∧ AreLegible tokens := List.forall_mem_cons

theorem areLegible_append {front back : List Token} :
    AreLegible (front ++ back) ↔ AreLegible front ∧ AreLegible back := List.forall_mem_append

theorem areLegible_itemTokens_cons (item : Document) (items : List Document) :
    AreLegible (itemTokens (item :: items)) ↔
      AreLegible item.tokens ∧ AreLegible (itemTokens items) := by
  cases items with
  | nil => simp [itemTokens, AreLegible]
  | cons next rest =>
      rw [itemTokens, areLegible_append, areLegible_cons]
      · exact and_congr_right fun _ => and_iff_right trivial
      · exact List.cons_ne_nil next rest

theorem areLegible_memberTokens_cons (name : Bytes) (value : Document)
    (members : List (Bytes × Document)) :
    AreLegible (memberTokens ((name, value) :: members)) ↔
      (∃ text, readString? name = some text) ∧ AreLegible value.tokens
        ∧ AreLegible (memberTokens members) := by
  cases members with
  | nil =>
      simp [memberTokens, Token.IsLegible, AreLegible]
  | cons next rest =>
      rw [memberTokens, areLegible_cons, areLegible_cons, areLegible_append, areLegible_cons]
      · simp [Token.IsLegible]
      · exact List.cons_ne_nil next rest

mutual

/-- A document is read as a value exactly if it is not too deep and all of it can be read. -/
theorem exists_value?_iff : (document : Document) → (depth : Nat) →
    ((∃ value, document.value? depth = some value) ↔
      document.depth ≤ depth ∧ AreLegible document.tokens)
  | .null, depth => by
      simp [Document.value?, Document.depth, Document.tokens, AreLegible, Token.IsLegible]
  | .bool value, depth => by
      cases value <;>
        simp [Document.value?, Document.depth, Document.tokens, AreLegible, Token.IsLegible]
  | .number token, depth => by
      simp [Document.value?, Document.depth, Document.tokens, AreLegible, Token.IsLegible]
  | .string raw, depth => by
      simp [Document.value?, Document.depth, Document.tokens, AreLegible, Token.IsLegible]
  | .array items, depth => by
      have hlegible : AreLegible (Document.array items).tokens ↔ AreLegible (itemTokens items) := by
        rw [Document.tokens, areLegible_cons, areLegible_append]
        simp [Token.IsLegible, AreLegible]
      have hitems := exists_itemValues?_iff items (depth - 1)
      rw [hlegible, Document.depth, Document.value?]
      cases depth with
      | zero => simp
      | succ depth =>
          simp only [Nat.add_sub_cancel] at hitems
          simpa using hitems
  | .object members, depth => by
      have hlegible : AreLegible (Document.object members).tokens ↔
          AreLegible (memberTokens members) := by
        rw [Document.tokens, areLegible_cons, areLegible_append]
        simp [Token.IsLegible, AreLegible]
      have hmembers := exists_memberValues?_iff members (depth - 1) []
      rw [hlegible, Document.depth, Document.value?]
      cases depth with
      | zero => simp
      | succ depth =>
          simp only [Nat.add_sub_cancel] at hmembers
          simpa using hmembers

theorem exists_itemValues?_iff : (items : List Document) → (depth : Nat) →
    ((∃ values, itemValues? depth items = some values) ↔
      itemsDepth items ≤ depth ∧ AreLegible (itemTokens items))
  | [], depth => by simp [itemValues?, itemsDepth, itemTokens, AreLegible]
  | item :: rest, depth => by
      have hitem := exists_value?_iff item depth
      have hrest := exists_itemValues?_iff rest depth
      rw [areLegible_itemTokens_cons, itemsDepth, Nat.max_le, and_and_and_comm, ← hitem, ← hrest,
        itemValues?]
      cases item.value? depth with
      | none => simp
      | some value => cases itemValues? depth rest <;> simp

theorem exists_memberValues?_iff : (members : List (Bytes × Document)) → (depth : Nat) →
    (acc : List (String × Value)) →
    ((∃ values, memberValues? depth acc members = some values) ↔
      membersDepth members ≤ depth ∧ AreLegible (memberTokens members))
  | [], depth, acc => by simp [memberValues?, membersDepth, memberTokens, AreLegible]
  | (name, document) :: rest, depth, acc => by
      have hdocument := exists_value?_iff document depth
      have hrest := exists_memberValues?_iff rest depth
      rw [areLegible_memberTokens_cons, membersDepth, Nat.max_le, memberValues?]
      cases readString? name with
      | none => simp
      | some text =>
          cases hvalue : document.value? depth with
          | none =>
              rw [hvalue] at hdocument
              have hnot : ¬ (document.depth ≤ depth ∧ AreLegible document.tokens) :=
                fun h => nomatch hdocument.mpr h
              simpa using fun hdepth _ hlegible => absurd ⟨hdepth, hlegible⟩ hnot
          | some value =>
              have hread : document.depth ≤ depth ∧ AreLegible document.tokens :=
                hdocument.mp ⟨value, hvalue⟩
              simp only [hrest, hread, true_and, Option.some.injEq, exists_eq']

end

/-! ## Texts -/

section Texts

variable {tokens : List Token} {text : List Char} {bytes : Bytes} {document : Document}

theorem IsTokenText.isRaw {raw : Bytes} (h : IsTokenText (.string raw) text) : IsRaw raw := by
  cases h with
  | mark h => simp [marks] at h
  | word h => simp [words] at h
  | string h => exact h.isRaw

theorem IsText.isRaw (h : IsText tokens text) : ∀ raw, .string raw ∈ tokens → IsRaw raw := by
  induction h with
  | nil _ => exact nofun
  | cons _ htoken _ _ ih =>
      intro raw hmem
      rcases List.mem_cons.mp hmem with rfl | htail
      · exact htoken.isRaw
      · exact ih raw htail

/-- In a text what can be read are the numbers in range and the strings that spell texts. -/
theorem areLegible_iff (h : IsText tokens text) :
    AreLegible tokens ↔
      (∀ token, .number token ∈ tokens → token.IsInRange)
        ∧ ∀ raw, .string raw ∈ tokens →
          ∃ (s : String) (body : List Char), IsBody s.toList body ∧ raw = encodeChars body := by
  constructor
  · intro hlegible
    refine ⟨fun token hmem => NumberToken.exists_read?_iff.mp (hlegible _ hmem), fun raw hmem => ?_⟩
    obtain ⟨s, hread⟩ := hlegible _ hmem
    exact ⟨s, (readString?_eq_some_iff (h.isRaw raw hmem)).mp hread⟩
  · rintro ⟨hnumbers, hstrings⟩ token hmem
    cases token with
    | number token => exact NumberToken.exists_read?_iff.mpr (hnumbers token hmem)
    | string raw =>
        obtain ⟨s, hbody⟩ := hstrings raw hmem
        exact ⟨s, (readString?_eq_some_iff (h.isRaw raw hmem)).mpr hbody⟩
    | _ => trivial

theorem Document.IsWrittenAs.parse_eq (h : document.IsWrittenAs bytes) :
    Document.parse bytes = some document := by
  obtain ⟨text, htext, rfl⟩ := h
  exact parse_encodeChars htext

/-- What is written has a value exactly within the limits. -/
theorem Document.IsWrittenAs.exists_value?_iff (h : document.IsWrittenAs bytes) :
    (∃ value, document.value? Value.maxDepth = some value) ↔ document.IsReadable := by
  obtain ⟨text, htext, -⟩ := h
  rw [Json.exists_value?_iff, areLegible_iff htext]
  exact ⟨fun ⟨hdepth, hnumbers, hstrings⟩ => ⟨hdepth, hnumbers, hstrings⟩,
    fun ⟨hdepth, hnumbers, hstrings⟩ => ⟨hdepth, hnumbers, hstrings⟩⟩

/-- A value is read only from JSON, and it is the one that the written document has. -/
theorem parse_eq_some_iff {value : Value} :
    Value.parse bytes = some value ↔
      ∃ document : Document,
        document.IsWrittenAs bytes ∧ document.value? Value.maxDepth = some value := by
  constructor
  · intro h
    rw [Value.parse, Option.bind_eq_some_iff] at h
    obtain ⟨document, hparse, hvalue⟩ := h
    have hlegible := ((Json.exists_value?_iff document Value.maxDepth).mp ⟨value, hvalue⟩).2
    exact ⟨document, Document.isText_of_parse hparse fun raw hmem => hlegible _ hmem, hvalue⟩
  · rintro ⟨document, hwritten, hvalue⟩
    rw [Value.parse, hwritten.parse_eq]
    exact hvalue

/-- The texts that have a value are the JSON texts within its limits. -/
theorem exists_parse_iff :
    (∃ value, Value.parse bytes = some value) ↔
      ∃ document : Document, document.IsWrittenAs bytes ∧ document.IsReadable := by
  constructor
  · rintro ⟨value, h⟩
    obtain ⟨document, hwritten, hvalue⟩ := parse_eq_some_iff.mp h
    exact ⟨document, hwritten, hwritten.exists_value?_iff.mp ⟨value, hvalue⟩⟩
  · rintro ⟨document, hwritten, hreadable⟩
    obtain ⟨value, hvalue⟩ := hwritten.exists_value?_iff.mpr hreadable
    exact ⟨value, parse_eq_some_iff.mpr ⟨document, hwritten, hvalue⟩⟩

end Texts

/-! ## Nesting -/

namespace Document

end Document

end Quadlink.Json
