import Quadlink.Proofs.Text.Numerals
import Quadlink.Toml.Moment

/-!
# Texts of TOML scalars

The ways to write a text or a natural number in a TOML document, whoever writes it: a text between
double quotes with each of its characters as it is or escaped, or between single quotes as it is; a
number as its numeral. However a scalar is written, it is read (`readScalar?_append`), provided that
it ends where it should: nothing that a number or an opening of three quotes could go on with may
follow it (`EndsScalar`).

Numerals start moments, too. A numeral by itself is none (`readMoment?_digits`).
-/

namespace Quadlink.Toml

open Text Codec

/-! ## The grammar -/

def shortEscapes : List (Char × Char) :=
  [('b', '\x08'), ('t', '\t'), ('n', '\n'), ('f', '\x0C'), ('r', '\r'), ('"', '"'), ('\\', '\\')]

/-- The ways to write a character between double quotes. -/
inductive IsCharText : Char → List Char → Prop where
  | plain {c : Char} (hplain : isPlain c = true) (hquote : c ≠ '"') (hslash : c ≠ '\\') :
      IsCharText c [c]
  | short {c letter : Char} (h : (letter, c) ∈ shortEscapes) : IsCharText c ['\\', letter]
  | unit {c w x y z : Char} (h : hexNumber? [w, x, y, z] = some c.toNat) :
      IsCharText c ['\\', 'u', w, x, y, z]
  | long {c s t u v w x y z : Char} (h : hexNumber? [s, t, u, v, w, x, y, z] = some c.toNat) :
      IsCharText c ['\\', 'U', s, t, u, v, w, x, y, z]

inductive IsBody : List Char → List Char → Prop where
  | nil : IsBody [] []
  | cons {c : Char} {text cs body : List Char} (hchar : IsCharText c text) (hrest : IsBody cs body) :
      IsBody (c :: cs) (text ++ body)

/-- The ways to write a text: between double quotes with escapes, or as it is between single quotes.
Texts on several lines have more of them, which are not counted here. -/
inductive IsStringText : String → List Char → Prop where
  | basic {s : String} {body : List Char} (h : IsBody s.toList body) :
      IsStringText s ('"' :: (body ++ ['"']))
  | literal {s : String} (h : ∀ c ∈ s.toList, isPlain c = true ∧ c ≠ '\'') :
      IsStringText s ('\'' :: (s.toList ++ ['\'']))

/-- The ways to write a text or a natural number. A number has one, its decimal form. -/
inductive IsScalarText : Scalar → List Char → Prop where
  | text {s : String} {text : List Char} (h : IsStringText s text) : IsScalarText (.text s) text
  | integer (n : Nat) : IsScalarText (.integer n) (toString n).toList

def EndsScalar (rest : List Char) : Prop :=
  ∀ c, rest.head? = some c → c ∈ [' ', '\t', '\n', '#', ',', ']']

variable {c : Char} {cs body text rest : List Char}

/-! ## Texts -/

theorem codePoint?_of_hexNumber? {digits : List Char} (h : hexNumber? digits = some c.toNat) :
    codePoint? digits = some c := by
  obtain ⟨values, hvalues, hvalue⟩ := Option.map_eq_some_iff.mp h
  have hvalid : Nat.isValidChar c.toNat := c.valid
  have hsame := Char.ofNat_toNat c
  rw [Char.ofNat, dif_pos hvalid] at hsame
  rw [codePoint?, hvalues]
  dsimp only
  rw [hvalue, dif_pos hvalid, hsame]

theorem readBasic?_plain (hplain : isPlain c = true) (hquote : c ≠ '"') (hslash : c ≠ '\\') :
    readBasic? (c :: rest) = (readBasic? rest).map fun parts => (c :: parts.1, parts.2) := by
  rw [readBasic?.eq_def]
  simp only [beq_iff_eq, hquote, hslash, hplain, if_true, if_false]

theorem readBasic?_escape {escape : List Char} (h : readEscape? escape = some (c, rest)) :
    readBasic? ('\\' :: escape) = (readBasic? rest).map fun parts => (c :: parts.1, parts.2) := by
  have hquote : ¬('\\' = '"') := by decide
  rw [readBasic?.eq_def]
  simp only [beq_iff_eq, hquote, if_true, if_false]
  split
  · rename_i hnone
    rw [h] at hnone
    cases hnone
  · rename_i hsome
    rw [h] at hsome
    cases hsome
    rfl

theorem readEscape?_short {letter : Char} (h : (letter, c) ∈ shortEscapes) :
    readEscape? (letter :: rest) = some (c, rest) := by
  simp only [shortEscapes, List.mem_cons, List.not_mem_nil, or_false, Prod.mk.injEq] at h
  rcases h with ⟨rfl, rfl⟩ | ⟨rfl, rfl⟩ | ⟨rfl, rfl⟩ | ⟨rfl, rfl⟩ | ⟨rfl, rfl⟩ | ⟨rfl, rfl⟩
    | ⟨rfl, rfl⟩ <;> rfl

/-- A written character is read from the front of a string. -/
theorem IsCharText.readBasic? (h : IsCharText c text) (rest : List Char) :
    readBasic? (text ++ rest) = (Toml.readBasic? rest).map fun parts => (c :: parts.1, parts.2) := by
  cases h with
  | plain hplain hquote hslash => exact readBasic?_plain hplain hquote hslash
  | short h => exact readBasic?_escape (readEscape?_short h)
  | unit h =>
      refine readBasic?_escape ?_
      show (codePoint? _).map _ = _
      rw [codePoint?_of_hexNumber? h]
      rfl
  | long h =>
      refine readBasic?_escape ?_
      show (codePoint? _).map _ = _
      rw [codePoint?_of_hexNumber? h]
      rfl

theorem readBasic?_body (h : IsBody cs body) (rest : List Char) :
    readBasic? (body ++ '"' :: rest) = some (cs, rest) := by
  induction h with
  | nil =>
      rw [List.nil_append, readBasic?.eq_def]
      rfl
  | cons hchar _ ih =>
      rw [List.append_assoc, hchar.readBasic?, ih]
      rfl

theorem readLiteral?_append (h : ∀ c ∈ cs, isPlain c = true ∧ c ≠ '\'') (rest : List Char) :
    readLiteral? (cs ++ '\'' :: rest) = some (cs, rest) := by
  induction cs with
  | nil => rfl
  | cons c tail ih =>
      obtain ⟨⟨hplain, hquote⟩, htail⟩ := List.forall_mem_cons.mp h
      rw [List.cons_append, readLiteral?, if_neg (by simpa using hquote), if_pos hplain, ih htail]
      rfl

/-- What follows a scalar is no quote. -/
theorem EndsScalar.not_quote (h : EndsScalar rest) {quote : Char} (hquote : quote ∈ ['"', '\''])
    (more : List Char) : rest ≠ quote :: more := by
  rintro rfl
  have hend := h _ rfl
  simp only [List.mem_cons, List.not_mem_nil, or_false] at hquote
  rcases hquote with rfl | rfl <;> exact absurd hend (by decide)

theorem IsBody.head?_ne (h : IsBody cs body) : body.head? ≠ some '"' := by
  cases h with
  | nil => exact nofun
  | cons hchar _ =>
      cases hchar with
      | plain _ hquote _ => simpa using hquote
      | short _ => exact (by simp : some '\\' ≠ some '"')
      | unit _ => exact (by simp : some '\\' ≠ some '"')
      | long _ => exact (by simp : some '\\' ≠ some '"')

/-- Quotes around a text do not open a text of many lines. -/
theorem not_opening {quote : Char} (hbody : body.head? ≠ some quote)
    (hrest : ∀ more, rest ≠ quote :: more) (more : List Char) :
    body ++ quote :: rest ≠ quote :: quote :: more := by
  cases body with
  | nil => exact fun heq => hrest more (List.cons.inj heq).2
  | cons c tail => exact fun heq => hbody (congrArg some (List.cons.inj heq).1)

/-- A written text is read. -/
theorem IsStringText.readString? {s : String} (h : IsStringText s text) (hend : EndsScalar rest) :
    readString? (text ++ rest) = some (s, rest) := by
  cases h with
  | @basic body h =>
      have hshape : '"' :: (body ++ ['"']) ++ rest = '"' :: (body ++ '"' :: rest) := by simp
      rw [hshape, Toml.readString?]
      · rw [readBasic?_body h]
        simp
      · exact fun more => not_opening h.head?_ne (hend.not_quote (by simp)) more
  | literal h =>
      have hshape : '\'' :: (s.toList ++ ['\'']) ++ rest = '\'' :: (s.toList ++ '\'' :: rest) := by
        simp
      have hhead : s.toList.head? ≠ some '\'' := fun heq => (h _ (List.mem_of_head? heq)).2 rfl
      rw [hshape, Toml.readString?]
      · rw [readLiteral?_append h]
        simp
      · exact fun more => not_opening hhead (hend.not_quote (by simp)) more

/-! ## Numbers -/

variable {digits : List Char} {n : Nat}

theorem digits?_ten (h : ∀ c ∈ digits, c.isDigit = true) (hsome : digits ≠ []) :
    digits? 10 digits = some (digitValues digits) := by
  have hplain : digits.any (· == '_') = false := by
    rw [any_eq_false_iff]
    intro c hc
    rw [beq_eq_false_iff_ne]
    rintro rfl
    exact absurd (h _ hc) (by decide)
  have hvalues : digits.mapM (fun c => (Percent.hexValue? c).filter (· < 10))
      = some (digitValues digits) := by
    clear hsome hplain
    induction digits with
    | nil => rfl
    | cons c tail ih =>
        obtain ⟨hc, htail⟩ := List.forall_mem_cons.mp h
        have hvalue : c.toNat - '0'.toNat < 10 := by
          simp only [Char.isDigit, Bool.and_eq_true, decide_eq_true_eq] at hc
          have hhigh : c.toNat ≤ 57 := hc.2
          have hzero : '0'.toNat = 48 := rfl
          omega
        rw [List.mapM_cons, hexValue?_of_isDigit hc, Option.filter_some, if_pos (by simpa using hvalue),
          ih htail]
        rfl
  rw [digits?, pieces_eq_singleton hplain]
  simp only [List.any_cons, List.any_nil, Bool.or_false, List.isEmpty_iff, hsome, if_false,
    List.flatten_cons, List.flatten_nil, List.append_nil, hvalues]

theorem decimal?_toString (n : Nat) : decimal? (toString n).toList = some n := by
  rw [decimal?, digits?_ten (fun c hc => isDigit_of_mem_toString hc) (toString_ne_nil n)]
  split
  · rename_i heq
    cases heq
  · rename_i heq
    exact absurd (Option.some.inj heq) digitValues_toString_ne
  · rename_i heq
    cases heq
    rw [ofDigits, foldl_digitValues_toString]

theorem integer?_toString (n : Nat) : integer? (toString n).toList = some (n : Int) := by
  obtain ⟨first, rest, hshape, hfirst⟩ := toString_eq_cons n
  have hprefixed : ∀ c more, (toString n).toList ≠ '0' :: c :: more := by
    intro c more heq
    cases toString_eq_zero_cons heq
  have hdecimal := decimal?_toString n
  unfold integer?
  split
  · rename_i heq
    exact absurd heq (hprefixed _ _)
  · rename_i heq
    exact absurd heq (hprefixed _ _)
  · rename_i heq
    exact absurd heq (hprefixed _ _)
  · rename_i heq
    rw [hshape] at heq
    exact absurd ((List.cons.inj heq).1 ▸ hfirst) (by decide)
  · rename_i heq
    rw [hshape] at heq
    exact absurd ((List.cons.inj heq).1 ▸ hfirst) (by decide)
  · rw [hdecimal]
    rfl

theorem isNumberPart_of_isDigit (h : c.isDigit = true) : isNumberPart c = true := by
  simp [isNumberPart, Char.isAlphanum, h]

theorem EndsScalar.not_isNumberPart (h : EndsScalar rest) (hc : rest.head? = some c) :
    isNumberPart c = false := by
  have hend := h c hc
  simp only [List.mem_cons, List.not_mem_nil, or_false] at hend
  rcases hend with rfl | rfl | rfl | rfl | rfl | rfl <;> decide

/-- A numeral ends where what follows is no part of a number. -/
theorem split_digits (h : ∀ c ∈ digits, c.isDigit = true) (hend : EndsScalar rest) :
    (digits ++ rest).takeWhile isNumberPart = digits
      ∧ (digits ++ rest).dropWhile isNumberPart = rest := by
  have hall : digits.all isNumberPart = true :=
    List.all_eq_true.mpr fun c hc => isNumberPart_of_isDigit (h c hc)
  cases rest with
  | nil => rw [List.append_nil]; exact ⟨takeWhile_eq_self hall, dropWhile_eq_nil hall⟩
  | cons c tail =>
      have hstop := hend.not_isNumberPart rfl
      exact ⟨takeWhile_append_stop hall hstop, dropWhile_append_stop hall hstop⟩

/-- However a scalar is written, it is read. -/
theorem readScalar?_append {scalar : Scalar} (h : IsScalarText scalar text)
    (hend : EndsScalar rest) : readScalar? (text ++ rest) = some (scalar, rest) := by
  cases h with
  | text h =>
      have hread := h.readString? hend
      have hscalar : readScalar? (text ++ rest)
          = (readString? (text ++ rest)).map fun parts => (.text parts.1, parts.2) := by
        cases h <;> rfl
      rw [hscalar, hread]
      rfl
  | integer n =>
      have hdigits : ∀ c ∈ (toString n).toList, c.isDigit = true :=
        fun c hc => isDigit_of_mem_toString hc
      obtain ⟨htake, hdrop⟩ := split_digits hdigits hend
      obtain ⟨first, more, hshape, hfirst⟩ := toString_eq_cons n
      unfold readScalar?
      split
      · rename_i heq
        rw [hshape] at heq
        cases heq
        cases hfirst
      · rename_i heq
        rw [hshape] at heq
        cases heq
        cases hfirst
      · rw [htake, hdrop, integer?_toString]
        rfl

/-! ## Moments -/

theorem fixed?_eq_some {count value : Nat} (h : fixed? count digits = some (value, rest)) :
    rest = digits.drop count := by
  unfold fixed? at h
  split at h
  · split at h
    · cases h
      rfl
    · cases h
  · cases h

theorem after?_digits (h : ∀ c ∈ digits, c.isDigit = true) (hc : c.isDigit = false) :
    after? c digits = none := by
  cases digits with
  | nil => rfl
  | cons first tail =>
      have hne : ¬c = first := by
        rintro rfl
        rw [h c List.mem_cons_self] at hc
        cases hc
      rw [after?, dropPrefix?, if_neg hne]

/-- Digits alone are no moment: a date goes on with a hyphen and a time with a colon. -/
theorem read?_digits (h : ∀ c ∈ digits, c.isDigit = true) : Moment.read? digits = none := by
  have hdate : readDate? digits = none := by
    unfold readDate?
    cases hyear : fixed? 4 digits with
    | none => rfl
    | some parts =>
        obtain ⟨year, more⟩ := parts
        have hmore : after? '-' more = none := by
          rw [fixed?_eq_some hyear]
          exact after?_digits (fun c hc => h c (List.mem_of_mem_drop hc)) (by decide)
        simp [hmore]
  have hclock : readClock? digits = none := by
    unfold readClock?
    cases hhour : pair? 23 digits with
    | none => rfl
    | some parts =>
        obtain ⟨hour, more⟩ := parts
        have hmore : after? ':' more = none := by
          rw [fixed?_eq_some (Option.filter_eq_some_iff.mp hhour).1]
          exact after?_digits (fun c hc => h c (List.mem_of_mem_drop hc)) (by decide)
        simp [hmore]
  rw [Moment.read?, hdate, hclock]

/-- No written scalar starts a moment. -/
theorem readMoment?_append {scalar : Scalar} (h : IsScalarText scalar text)
    (hend : EndsScalar rest) : readMoment? (text ++ rest) = none := by
  cases h with
  | text h =>
      cases h <;> rfl
  | integer n =>
      have hdigits : ∀ c ∈ (toString n).toList, c.isDigit = true :=
        fun c hc => isDigit_of_mem_toString hc
      rw [readMoment?, (split_digits hdigits hend).1, read?_digits hdigits]

end Quadlink.Toml
