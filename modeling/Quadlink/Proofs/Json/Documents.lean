import Quadlink.Json.Syntax
import Quadlink.Proofs.Json.Strings

/-!
# Texts of JSON documents

The ways to write a JSON document, whoever writes it: its tokens in their order, with white space
anywhere between them (`IsText`). However a document is written, it is read
(`Document.parse_encodeChars`).

The reader cuts a text into tokens before it looks at their structure, and so does the proof. A
token is read from the front of a text whatever follows it (`lexOne_encodeChars`), except for a
number, which takes in every digit, point and exponent that it can: what follows must end it.

A string between its quotes is any sequence of characters and escapes (`IsEscaped`), because a
document can be read without all of its strings being texts: members that nobody asks for are
passed over as they stand.
-/

namespace Quadlink.Json

open Text

/-! ## The grammar of tokens -/

def IsDigits (text : List Char) : Prop := text ≠ [] ∧ text.all Char.isDigit = true

inductive IsFractionText : Option (List Nat) → List Char → Prop where
  | none : IsFractionText none []
  | some {text : List Char} (h : IsDigits text) :
      IsFractionText (some (digitValues text)) ('.' :: text)

inductive IsExponentText : Option (Bool × List Nat) → List Char → Prop where
  | none : IsExponentText none []
  | some {letter : Char} {negative : Bool} {sign text : List Char}
      (hletter : letter ∈ ['e', 'E'])
      (hsign : (negative, sign) ∈ [(Bool.false, []), (Bool.false, ['+']), (Bool.true, ['-'])])
      (h : IsDigits text) :
      IsExponentText (some (negative, digitValues text)) (letter :: (sign ++ text))

/-- A number without its sign. Zeros in front are not allowed, so a zero stands alone before the
point. -/
inductive IsUnsignedText (negative : Bool) : NumberToken → List Char → Prop where
  | mk {whole fractionText exponentText : List Char} {fraction : Option (List Nat)}
      {exponent : Option (Bool × List Nat)}
      (hwhole : IsDigits whole) (hzero : ∀ rest, whole = '0' :: rest → rest = [])
      (hfraction : IsFractionText fraction fractionText)
      (hexponent : IsExponentText exponent exponentText) :
      IsUnsignedText negative ⟨negative, digitValues whole, fraction, exponent⟩
        (whole ++ (fractionText ++ exponentText))

def marks : List (Token × Char) :=
  [(.openBrace, '\x7b'), (.closeBrace, '\x7d'), (.openBracket, '['), (.closeBracket, ']'),
    (.colon, ':'), (.comma, ',')]

def words : List (Token × List Char) :=
  [(.null, ['n', 'u', 'l', 'l']), (.true, ['t', 'r', 'u', 'e']),
    (.false, ['f', 'a', 'l', 's', 'e'])]

/-- The ways to write a token. A number or a string can be written in many, all others in one. -/
inductive IsTokenText : Token → List Char → Prop where
  | mark {token : Token} {c : Char} (h : (token, c) ∈ marks) : IsTokenText token [c]
  | word {token : Token} {text : List Char} (h : (token, text) ∈ words) : IsTokenText token text
  | natural {token : NumberToken} {text : List Char} (h : IsUnsignedText Bool.false token text) :
      IsTokenText (.number token) text
  | negative {token : NumberToken} {text : List Char} (h : IsUnsignedText Bool.true token text) :
      IsTokenText (.number token) ('-' :: text)
  | string {body : List Char} (h : IsEscaped body) :
      IsTokenText (.string (encodeChars body)) ('"' :: (body ++ ['"']))

def spaces : List Char := [' ', '\n', '\r', '\t']

/-- What may stand behind a number. A letter or a digit would be taken for a part of it, and another
token is not allowed there by the structure. -/
def EndsNumber (rest : List Char) : Prop :=
  ∀ c, rest.head? = some c → c ∈ spaces ++ [',', ']', '\x7d']

/-- The ways to write some tokens, with white space in front of each and behind the last. Only a
number needs an end: the next digit would belong to it. -/
inductive IsText : List Token → List Char → Prop where
  | nil {gap : List Char} (hgap : ∀ c ∈ gap, c ∈ spaces) : IsText [] gap
  | cons {token : Token} {tokens : List Token} {gap text rest : List Char}
      (hgap : ∀ c ∈ gap, c ∈ spaces) (htoken : IsTokenText token text) (hrest : IsText tokens rest)
      (hend : ∀ number, token = .number number → EndsNumber rest) :
      IsText (token :: tokens) (gap ++ (text ++ rest))

/-! ## Numbers -/

section Numbers

variable {text : List Char} {bytes : Bytes} {negative : Bool}

/-- Bytes that a number does not go on with. -/
def StopsNumber (bytes : Bytes) : Prop :=
  ∀ b, bytes.head? = some b →
    isDigit b = false ∧ b ≠ byte '.' ∧ b ≠ byte 'e' ∧ b ≠ byte 'E'

theorem EndsNumber.stopsNumber {rest : List Char} (h : EndsNumber rest) :
    StopsNumber (encodeChars rest) := by
  cases rest with
  | nil => exact nofun
  | cons c tail =>
      have hc := h c rfl
      simp only [spaces, List.cons_append, List.nil_append, List.mem_cons, List.not_mem_nil,
        or_false] at hc
      intro b hb
      rw [encodeChars_cons] at hb
      rcases hc with rfl | rfl | rfl | rfl | rfl | rfl | rfl <;>
        (cases hb; exact ⟨by decide, by decide, by decide, by decide⟩)

/-- A digit is one byte, with the same value. -/
theorem digit_of_isDigit {c : Char} (h : c.isDigit = true) :
    String.utf8EncodeChar c = [byte c] ∧ isDigit (byte c) = true
      ∧ digitOf (byte c) = c.toNat - '0'.toNat := by
  simp only [Char.isDigit, Bool.and_eq_true, decide_eq_true_eq] at h
  have hlow : 48 ≤ c.toNat := h.1
  have hhigh : c.toNat ≤ 57 := h.2
  have hvalue := toNat_byte (c := c) (by omega)
  refine ⟨utf8EncodeChar_of_ascii (by omega), ?_, by rw [digitOf, hvalue]⟩
  simp only [isDigit, Bool.and_eq_true, decide_eq_true_eq, UInt8.le_iff_toNat_le, hvalue]
  exact ⟨hlow, hhigh⟩

theorem takeDigits_encodeChars (h : text.all Char.isDigit = true)
    (hstop : ∀ b, bytes.head? = some b → isDigit b = false) :
    takeDigits (encodeChars text ++ bytes) = (digitValues text, bytes) := by
  induction text with
  | nil =>
      cases bytes with
      | nil => rfl
      | cons b tail =>
          have hb := hstop b rfl
          simp [takeDigits, digitValues, encodeChars, hb]
  | cons c tail ih =>
      rw [List.all_cons, Bool.and_eq_true] at h
      obtain ⟨hencode, hdigit, hvalue⟩ := digit_of_isDigit h.1
      have htail := ih h.2
      simp only [takeDigits, Prod.mk.injEq] at htail ⊢
      rw [encodeChars_cons, hencode, List.singleton_append, List.cons_append,
        List.takeWhile_cons_of_pos hdigit, List.dropWhile_cons_of_pos hdigit, List.map_cons, hvalue,
        htail.1]
      exact ⟨rfl, htail.2⟩

/-- A numeral as what `takeDigits` makes of it: not empty. -/
theorem IsDigits.exists_cons (h : IsDigits text) :
    ∃ first rest, digitValues text = first :: rest := by
  cases text with
  | nil => exact absurd rfl h.1
  | cons c tail => exact ⟨_, _, rfl⟩

theorem lexFraction_encodeChars {fraction : Option (List Nat)} (h : IsFractionText fraction text)
    (hdigit : ∀ b, bytes.head? = some b → isDigit b = false)
    (hpoint : ∀ b, bytes.head? = some b → b ≠ byte '.') :
    lexFraction (encodeChars text ++ bytes) = some (fraction, bytes) := by
  cases h with
  | none =>
      cases bytes with
      | nil => rfl
      | cons b tail =>
          have hb := hpoint b rfl
          simp [lexFraction, encodeChars, hb]
  | @some text h =>
      have htake := takeDigits_encodeChars h.2 hdigit
      obtain ⟨first, rest, hshape⟩ := h.exists_cons
      rw [hshape] at htake
      have hbytes : encodeChars ('.' :: text) ++ bytes = byte '.' :: (encodeChars text ++ bytes) :=
        rfl
      rw [hbytes, lexFraction, if_pos (by rfl), htake, hshape]

/-- The sign of an exponent, and what follows it. This is a step of `lexExponent`, which has no name
there. -/
def splitSign : Bytes → Bool × Bytes
  | [] => (Bool.false, [])
  | s :: rest =>
    if s == byte '-' then (Bool.true, rest)
    else if s == byte '+' then (Bool.false, rest)
    else (Bool.false, s :: rest)

def lexSigned (parts : Bool × Bytes) : Option (Option (Bool × List Nat) × Bytes) :=
  match takeDigits parts.2 with
  | ([], _) => none
  | (digits, rest) => some (some (parts.1, digits), rest)

theorem lexExponent_cons {b : UInt8} (h : b = byte 'e' ∨ b = byte 'E') (bytes : Bytes) :
    lexExponent (b :: bytes) = lexSigned (splitSign bytes) := by
  have hb : (b == byte 'e' || b == byte 'E') = true := by simpa using h
  rw [lexExponent.eq_def]
  dsimp only
  rw [if_pos hb]
  cases bytes with
  | nil => rfl
  | cons s rest =>
      rw [splitSign]
      by_cases hminus : (s == byte '-') = true
      · simp only [hminus, if_true]
        rfl
      · by_cases hplus : (s == byte '+') = true
        · simp only [hminus, hplus, if_true, if_false, Bool.false_eq_true]
          rfl
        · simp only [hminus, hplus, if_false, Bool.false_eq_true]
          rfl

theorem splitSign_encodeChars {sign : List Char} (h : IsDigits text)
    (hsign : (negative, sign) ∈ [(Bool.false, []), (Bool.false, ['+']), (Bool.true, ['-'])]) :
    splitSign (encodeChars (sign ++ text) ++ bytes) = (negative, encodeChars text ++ bytes) := by
  simp only [List.mem_cons, List.not_mem_nil, or_false, Prod.mk.injEq] at hsign
  rcases hsign with ⟨rfl, rfl⟩ | ⟨rfl, rfl⟩ | ⟨rfl, rfl⟩
  · cases text with
    | nil => exact absurd rfl h.1
    | cons c tail =>
        have hc : c.isDigit = true := List.all_eq_true.mp h.2 c List.mem_cons_self
        obtain ⟨hencode, hdigit, _⟩ := digit_of_isDigit hc
        have hminus : byte c ≠ byte '-' := fun heq => absurd (heq ▸ hdigit) (by decide)
        have hplus : byte c ≠ byte '+' := fun heq => absurd (heq ▸ hdigit) (by decide)
        rw [List.nil_append, encodeChars_cons, hencode, List.singleton_append, List.cons_append,
          splitSign, if_neg (by simpa using hminus), if_neg (by simpa using hplus)]
  · rfl
  · rfl

theorem lexExponent_encodeChars {exponent : Option (Bool × List Nat)}
    (h : IsExponentText exponent text) (hstop : StopsNumber bytes) :
    lexExponent (encodeChars text ++ bytes) = some (exponent, bytes) := by
  cases h with
  | none =>
      cases bytes with
      | nil => rfl
      | cons b tail =>
          obtain ⟨_, _, hsmall, hlarge⟩ := hstop b rfl
          simp [lexExponent, encodeChars, hsmall, hlarge]
  | @some letter negative sign text hletter hsign h =>
      have htake := takeDigits_encodeChars h.2 fun b hb => (hstop b hb).1
      obtain ⟨first, rest, hshape⟩ := h.exists_cons
      have hbytes : String.utf8EncodeChar letter = [byte letter]
          ∧ (byte letter = byte 'e' ∨ byte letter = byte 'E') := by
        simp only [List.mem_cons, List.not_mem_nil, or_false] at hletter
        rcases hletter with rfl | rfl <;> exact ⟨by decide, by decide⟩
      rw [encodeChars_cons, hbytes.1, List.singleton_append, List.cons_append,
        lexExponent_cons hbytes.2, splitSign_encodeChars h hsign, lexSigned, htake, hshape]

/-- What follows a numeral does not go on with digits. -/
theorem not_isDigit_of_head? {fraction : Option (List Nat)} {exponent : Option (Bool × List Nat)}
    {fractionText exponentText : List Char} (hfraction : IsFractionText fraction fractionText)
    (hexponent : IsExponentText exponent exponentText) (hstop : StopsNumber bytes) :
    (∀ b, (encodeChars exponentText ++ bytes).head? = some b → isDigit b = false ∧ b ≠ byte '.')
      ∧ ∀ b, (encodeChars fractionText ++ (encodeChars exponentText ++ bytes)).head? = some b →
        isDigit b = false := by
  have hbehind : ∀ b, (encodeChars exponentText ++ bytes).head? = some b →
      isDigit b = false ∧ b ≠ byte '.' := by
    cases hexponent with
    | none => exact fun b hb => ⟨(hstop b hb).1, (hstop b hb).2.1⟩
    | some hletter _ _ =>
        simp only [List.mem_cons, List.not_mem_nil, or_false] at hletter
        intro b hb
        rcases hletter with rfl | rfl <;> (cases hb; exact ⟨by decide, by decide⟩)
  refine ⟨hbehind, ?_⟩
  cases hfraction with
  | none => exact fun b hb => (hbehind b hb).1
  | some _ =>
      intro b hb
      cases hb
      decide

theorem IsUnsignedText.exists_cons {token : NumberToken} (h : IsUnsignedText negative token text) :
    ∃ c tail, text = c :: tail ∧ c.isDigit = true := by
  obtain ⟨⟨hsome, hall⟩, _, _, _⟩ := h
  obtain ⟨c, tail, rfl⟩ := List.exists_cons_of_ne_nil hsome
  exact ⟨c, _, rfl, List.all_eq_true.mp hall c List.mem_cons_self⟩

theorem lexNumber_encodeChars {token : NumberToken} (h : IsUnsignedText negative token text)
    (hstop : StopsNumber bytes) :
    lexNumber negative (encodeChars text ++ bytes) = some (token, bytes) := by
  obtain ⟨hwhole, hzero, hfraction, hexponent⟩ := h
  rename_i whole fractionText exponentText fraction exponent
  obtain ⟨hbehind, hfront⟩ := not_isDigit_of_head? hfraction hexponent hstop
  have htake := takeDigits_encodeChars hwhole.2 hfront
  have hreadFraction := lexFraction_encodeChars hfraction (fun b hb => (hbehind b hb).1)
    fun b hb => (hbehind b hb).2
  have hreadExponent := lexExponent_encodeChars hexponent hstop
  rw [lexNumber, encodeChars_append, encodeChars_append, List.append_assoc, List.append_assoc,
    htake]
  obtain ⟨first, rest, hshape⟩ := hwhole.exists_cons
  split
  · rename_i heq
    rw [hshape] at heq
    cases heq
  · rename_i heq
    have hvalues := (Prod.mk.inj heq).1
    obtain ⟨rest, rfl⟩ := eq_zero_cons_of_digitValues (List.all_eq_true.mp hwhole.2) hvalues
    obtain rfl := hzero rest rfl
    cases hvalues
  · rename_i heq
    cases heq
    simp only [hreadFraction, hreadExponent]

end Numbers

/-! ## Tokens -/

section Tokens

variable {token : Token} {tokens : List Token} {text rest : List Char}

theorem lexOne_mark {c : Char} (h : (token, c) ∈ marks) (bytes : Bytes) :
    lexOne (encodeChars [c] ++ bytes) = some (token, bytes) := by
  simp only [marks, List.mem_cons, List.not_mem_nil, or_false, Prod.mk.injEq] at h
  rcases h with ⟨rfl, rfl⟩ | ⟨rfl, rfl⟩ | ⟨rfl, rfl⟩ | ⟨rfl, rfl⟩ | ⟨rfl, rfl⟩ | ⟨rfl, rfl⟩ <;> rfl

theorem lexOne_word (h : (token, text) ∈ words) (bytes : Bytes) :
    lexOne (encodeChars text ++ bytes) = some (token, bytes) := by
  simp only [words, List.mem_cons, List.not_mem_nil, or_false, Prod.mk.injEq] at h
  rcases h with ⟨rfl, rfl⟩ | ⟨rfl, rfl⟩ | ⟨rfl, rfl⟩ <;> rfl

theorem lexOne_string (bytes : Bytes) :
    lexOne (byte '"' :: bytes) = (lexString bytes).map fun parts => (.string parts.1, parts.2) := by
  rfl

theorem lexOne_minus (bytes : Bytes) :
    lexOne (byte '-' :: bytes)
      = (lexNumber true bytes).map fun parts => (.number parts.1, parts.2) := by
  rfl

theorem lexOne_digit {b : UInt8} (h : isDigit b = true) (bytes : Bytes) :
    lexOne (b :: bytes)
      = (lexNumber false (b :: bytes)).map fun parts => (.number parts.1, parts.2) := by
  have hne : ∀ c : UInt8, isDigit c = false → (b == c) = false := by
    intro c hc
    rw [beq_eq_false_iff_ne]
    rintro rfl
    rw [h] at hc
    cases hc
  rw [lexOne]
  simp only [h, hne _ (by decide : isDigit (byte '\x7b') = false),
    hne _ (by decide : isDigit (byte '\x7d') = false), hne _ (by decide : isDigit (byte '[') = false),
    hne _ (by decide : isDigit (byte ']') = false), hne _ (by decide : isDigit (byte ':') = false),
    hne _ (by decide : isDigit (byte ',') = false), hne _ (by decide : isDigit (byte '"') = false),
    hne _ (by decide : isDigit (byte '-') = false), if_true, if_false, Bool.false_eq_true]

/-- A written token is read from the front of a text. -/
theorem lexOne_encodeChars (h : IsTokenText token text)
    (hend : ∀ number, token = .number number → EndsNumber rest) :
    lexOne (encodeChars text ++ encodeChars rest) = some (token, encodeChars rest) := by
  cases h with
  | mark h => exact lexOne_mark h _
  | word h => exact lexOne_word h _
  | natural h =>
      have hread := lexNumber_encodeChars h (hend _ rfl).stopsNumber
      obtain ⟨c, tail, rfl, hc⟩ := h.exists_cons
      obtain ⟨hencode, hdigit, _⟩ := digit_of_isDigit hc
      rw [encodeChars_cons, hencode, List.singleton_append, List.cons_append] at hread ⊢
      rw [lexOne_digit hdigit, hread]
      rfl
  | @negative _ text h =>
      have hread := lexNumber_encodeChars h (hend _ rfl).stopsNumber
      have hbytes : encodeChars ('-' :: text) ++ encodeChars rest
          = byte '-' :: (encodeChars text ++ encodeChars rest) := rfl
      rw [hbytes, lexOne_minus, hread]
      rfl
  | @string body h =>
      have hread := h.isRaw.lexString (encodeChars rest)
      have hbytes : encodeChars ('"' :: (body ++ ['"'])) ++ encodeChars rest
          = byte '"' :: (encodeChars body ++ byte '"' :: encodeChars rest) := by
        rw [encodeChars_cons, encodeChars_append, List.append_assoc, List.append_assoc]
        rfl
      rw [hbytes, lexOne_string, hread]
      rfl

theorem IsTokenText.ne_nil (h : IsTokenText token text) : text ≠ [] := by
  cases h with
  | mark _ => exact List.cons_ne_nil _ _
  | word h =>
      rintro rfl
      revert h
      simp [words]
  | natural h =>
      obtain ⟨c, tail, rfl, _⟩ := h.exists_cons
      exact List.cons_ne_nil _ _
  | negative _ => exact List.cons_ne_nil _ _
  | string _ => exact List.cons_ne_nil _ _

theorem isSpace_of_mem_spaces {c : Char} (h : c ∈ spaces) :
    String.utf8EncodeChar c = [byte c] ∧ isSpace (byte c) = true := by
  simp only [spaces, List.mem_cons, List.not_mem_nil, or_false] at h
  rcases h with rfl | rfl | rfl | rfl <;> exact ⟨by decide, by decide⟩

theorem dropWhile_gap {gap : List Char} (h : ∀ c ∈ gap, c ∈ spaces) (bytes : Bytes) :
    (encodeChars gap ++ bytes).dropWhile isSpace = bytes.dropWhile isSpace := by
  induction gap with
  | nil => rfl
  | cons c tail ih =>
      obtain ⟨hc, htail⟩ := List.forall_mem_cons.mp h
      obtain ⟨hencode, hspace⟩ := isSpace_of_mem_spaces hc
      rw [encodeChars_cons, hencode, List.singleton_append, List.cons_append,
        List.dropWhile_cons_of_pos hspace, ih htail]

/-- No token starts with white space. -/
theorem not_isSpace_of_lexOne {b : UInt8} {bytes : Bytes} {parts : Token × Bytes}
    (h : lexOne (b :: bytes) = some parts) : isSpace b = false := by
  cases hspace : isSpace b with
  | false => rfl
  | true =>
      simp only [isSpace, Bool.or_eq_true, beq_iff_eq] at hspace
      rcases hspace with ((rfl | rfl) | rfl) | rfl <;> cases h

theorem lexAll_encodeChars (h : IsText tokens text) {fuel : Nat} (hfuel : tokens.length < fuel) :
    lexAll fuel (encodeChars text) = some tokens := by
  induction h generalizing fuel with
  | nil hgap =>
      obtain ⟨fuel, rfl⟩ := Nat.exists_eq_add_one_of_ne_zero (Nat.ne_zero_of_lt hfuel)
      have hdrop := dropWhile_gap hgap []
      rw [List.append_nil] at hdrop
      rw [lexAll, hdrop]
      rfl
  | @cons token tokens gap text rest hgap htoken hrest hend ih =>
      obtain ⟨fuel, rfl⟩ := Nat.exists_eq_add_one_of_ne_zero (Nat.ne_zero_of_lt hfuel)
      have hrestRead := ih (Nat.lt_of_succ_lt_succ hfuel)
      have hread := lexOne_encodeChars htoken hend
      rw [lexAll, encodeChars_append, encodeChars_append, dropWhile_gap hgap]
      cases hbytes : encodeChars text ++ encodeChars rest with
      | nil =>
          rw [hbytes] at hread
          cases hread
      | cons b bytes =>
          rw [hbytes] at hread
          rw [List.dropWhile_cons_of_neg (by simp [not_isSpace_of_lexOne hread])]
          simp only [hread, hrestRead, Option.map_some]

/-- Every token takes at least one byte. -/
theorem IsText.length_le (h : IsText tokens text) : tokens.length ≤ (encodeChars text).length := by
  induction h with
  | nil _ => exact Nat.zero_le _
  | cons _ htoken _ _ ih =>
      have hpositive := Nat.lt_of_lt_of_le (List.length_pos_iff.mpr htoken.ne_nil)
        (length_le_encodeChars _)
      rw [encodeChars_append, encodeChars_append, List.length_append, List.length_append,
        List.length_cons]
      omega

/-- Written tokens are what a text is cut into. -/
theorem IsText.lex (h : IsText tokens text) : lex (encodeChars text) = some tokens :=
  lexAll_encodeChars h (Nat.lt_succ_of_le h.length_le)

end Tokens

/-! ## Documents -/

mutual

/-- The tokens of a document. They are the same however it is written, so that structure and
spelling can be dealt with apart. -/
def Document.tokens : Document → List Token
  | .null => [.null]
  | .bool value => [if value then .true else .false]
  | .number token => [.number token]
  | .string raw => [.string raw]
  | .array items => .openBracket :: (itemTokens items ++ [.closeBracket])
  | .object members => .openBrace :: (memberTokens members ++ [.closeBrace])

def itemTokens : List Document → List Token
  | [] => []
  | [item] => item.tokens
  | item :: rest => item.tokens ++ .comma :: itemTokens rest

def memberTokens : List (Bytes × Document) → List Token
  | [] => []
  | [(name, value)] => .string name :: .colon :: value.tokens
  | (name, value) :: rest =>
    .string name :: .colon :: (value.tokens ++ .comma :: memberTokens rest)

end

namespace Document

variable {fuel : Nat} {rest tokens : List Token}

/-- No document starts with the end of an array. -/
theorem tokens_eq_cons (document : Document) :
    ∃ first rest, document.tokens = first :: rest ∧ first ≠ .closeBracket := by
  cases document with
  | null => exact ⟨.null, [], rfl, nofun⟩
  | bool value => exact ⟨if value then .true else .false, [], rfl, by cases value <;> exact nofun⟩
  | number token => exact ⟨.number token, [], rfl, nofun⟩
  | string raw => exact ⟨.string raw, [], rfl, nofun⟩
  | array items => exact ⟨.openBracket, _, rfl, nofun⟩
  | object members => exact ⟨.openBrace, _, rfl, nofun⟩

theorem readValue_array {first : Token} (h : first ≠ .closeBracket) :
    readValue (fuel + 1) (.openBracket :: first :: tokens)
      = (readItems fuel (first :: tokens)).map fun parts => (.array parts.1, parts.2) := by
  rw [readValue]
  rintro _ ⟨⟩
  exact h rfl

theorem readValue_object {raw : Bytes} :
    readValue (fuel + 1) (.openBrace :: .string raw :: tokens)
      = (readMembers fuel (.string raw :: tokens)).map fun parts => (.object parts.1, parts.2) := by
  rw [readValue]
  exact nofun

theorem head_itemTokens (item : Document) (items : List Document) :
    ∃ first rest, itemTokens (item :: items) = first :: rest ∧ first ≠ .closeBracket := by
  obtain ⟨first, rest, hshape, hfirst⟩ := item.tokens_eq_cons
  cases items with
  | nil => exact ⟨first, rest, hshape, hfirst⟩
  | cons next items =>
      refine ⟨first, rest ++ .comma :: itemTokens (next :: items), ?_, hfirst⟩
      rw [itemTokens, hshape, List.cons_append]
      exact nofun

theorem head_memberTokens (name : Bytes) (value : Document) (members : List (Bytes × Document)) :
    ∃ rest, memberTokens ((name, value) :: members) = .string name :: rest := by
  cases members with
  | nil => exact ⟨_, rfl⟩
  | cons next members => exact ⟨_, rfl⟩

mutual

/-- A document is read from the front of its tokens, whatever follows. The reader goes at most two
calls deeper for each token. -/
theorem readValue_tokens (document : Document) (fuel : Nat) (rest : List Token)
    (hfuel : 2 * document.tokens.length ≤ fuel + 1) :
    readValue fuel (document.tokens ++ rest) = some (document, rest) := by
  cases fuel with
  | zero =>
      obtain ⟨first, more, hshape, _⟩ := document.tokens_eq_cons
      rw [hshape, List.length_cons] at hfuel
      omega
  | succ fuel =>
      match document with
      | .null => rfl
      | .bool true => rfl
      | .bool false => rfl
      | .number _ => rfl
      | .string _ => rfl
      | .array [] => rfl
      | .array (item :: items) =>
          obtain ⟨first, more, hshape, hfirst⟩ := head_itemTokens item items
          have hread := readItems_tokens item items fuel rest (by
            rw [tokens, List.length_cons, List.length_append, List.length_singleton] at hfuel
            omega)
          rw [tokens, List.cons_append, List.append_assoc, List.singleton_append]
          rw [hshape, List.cons_append] at hread ⊢
          rw [readValue_array hfirst, hread]
          rfl
      | .object [] => rfl
      | .object ((name, value) :: members) =>
          obtain ⟨more, hshape⟩ := head_memberTokens name value members
          have hread := readMembers_tokens name value members fuel rest (by
            rw [tokens, List.length_cons, List.length_append, List.length_singleton] at hfuel
            omega)
          rw [tokens, List.cons_append, List.append_assoc, List.singleton_append]
          rw [hshape, List.cons_append] at hread ⊢
          rw [readValue_object, hread]
          rfl
  termination_by fuel

theorem readItems_tokens (item : Document) (items : List Document) (fuel : Nat) (rest : List Token)
    (hfuel : 2 * (itemTokens (item :: items)).length ≤ fuel) :
    readItems fuel (itemTokens (item :: items) ++ .closeBracket :: rest)
      = some (item :: items, rest) := by
  cases fuel with
  | zero =>
      obtain ⟨first, more, hshape, _⟩ := head_itemTokens item items
      rw [hshape, List.length_cons] at hfuel
      omega
  | succ fuel =>
      match items with
      | [] =>
          have hread := readValue_tokens item fuel (.closeBracket :: rest) hfuel
          rw [itemTokens, readItems, hread]
      | next :: items =>
          have hlength : (itemTokens (item :: next :: items)).length
              = item.tokens.length + ((itemTokens (next :: items)).length + 1) := by
            rw [itemTokens, List.length_append, List.length_cons]
            exact nofun
          have hread := readValue_tokens item fuel
            (.comma :: (itemTokens (next :: items) ++ .closeBracket :: rest)) (by omega)
          have hmore := readItems_tokens next items fuel rest (by omega)
          rw [itemTokens, List.append_assoc, List.cons_append, readItems, hread]
          · dsimp only
            rw [hmore]
            rfl
          · exact nofun
  termination_by fuel

theorem readMembers_tokens (name : Bytes) (value : Document) (members : List (Bytes × Document))
    (fuel : Nat) (rest : List Token)
    (hfuel : 2 * (memberTokens ((name, value) :: members)).length ≤ fuel) :
    readMembers fuel (memberTokens ((name, value) :: members) ++ .closeBrace :: rest)
      = some ((name, value) :: members, rest) := by
  cases fuel with
  | zero =>
      obtain ⟨more, hshape⟩ := head_memberTokens name value members
      rw [hshape, List.length_cons] at hfuel
      omega
  | succ fuel =>
      match members with
      | [] =>
          have hlength : (memberTokens [(name, value)]).length = value.tokens.length + 2 := rfl
          have hread := readValue_tokens value fuel (.closeBrace :: rest) (by omega)
          rw [memberTokens, List.cons_append, List.cons_append, readMembers, hread]
      | (name', value') :: members =>
          have hlength : (memberTokens ((name, value) :: (name', value') :: members)).length
              = value.tokens.length + ((memberTokens ((name', value') :: members)).length + 1) + 2 := by
            rw [memberTokens, List.length_cons, List.length_cons, List.length_append,
              List.length_cons]
            exact nofun
          have hread := readValue_tokens value fuel
            (.comma :: (memberTokens ((name', value') :: members) ++ .closeBrace :: rest)) (by omega)
          have hmore := readMembers_tokens name' value' members fuel rest (by omega)
          rw [memberTokens, List.cons_append, List.cons_append, List.append_assoc, List.cons_append,
            readMembers, hread]
          · dsimp only
            rw [hmore]
            rfl
          · exact nofun
  termination_by fuel

end

/-- However a document is written, it is read. -/
theorem parse_encodeChars {document : Document} {text : List Char}
    (h : IsText document.tokens text) : parse (encodeChars text) = some document := by
  have hread := readValue_tokens document (2 * document.tokens.length + 1) [] (by omega)
  rw [List.append_nil] at hread
  rw [parse, h.lex]
  simp only [hread]

end Document

end Quadlink.Json
