import Quadlink.Proofs.Rdf.Grammar
import Quadlink.Proofs.Text.Pieces
import Quadlink.Rdf.Notation

/-!
# Statements are read back

What is written of a well-formed statement is one line that the grammar of N-Quads derives, and a
reader of that grammar gets the statement back from it (`readLine?_statement`). Each part of a line
has its own lemma in which the rest of the line is arbitrary. The escapes of a literal make this
hold for every value, whatever it contains (`read?_escape`), and since they leave no line end in it
a document falls apart into the lines it was made of.
-/

namespace Quadlink

namespace NQuads

open Text

variable {value rest : List Char} {c : Char}

/-! ## Delimited texts -/

theorem isIriChar_iff : isIriChar c = true ↔
    0x20 < c.toNat ∧ c ≠ '<' ∧ c ≠ '>' ∧ c ≠ '"' ∧ c ≠ '\x7b' ∧ c ≠ '\x7d' ∧ c ≠ '|' ∧ c ≠ '^'
      ∧ c ≠ '\u0060' ∧ c ≠ '\\' := by
  simp [isIriChar]

theorem read?_iri (h : value.all isIriChar = true) :
    iriText.read? .plain (value ++ '>' :: rest) = some (value, rest) := by
  induction value with
  | nil => simp [Delimited.read?, iriText]
  | cons c tail ih =>
      rw [List.all_cons, Bool.and_eq_true] at h
      obtain ⟨hc, htail⟩ := h
      obtain ⟨-, -, hclose, -, -, -, -, -, -, hescape⟩ := isIriChar_iff.mp hc
      rw [List.cons_append, Delimited.read?, if_neg (by exact hclose), if_neg hescape,
        if_pos (by exact hc), ih htail]
      rfl

theorem isLiteralChar_iff : isLiteralChar c = true ↔
    c ≠ '"' ∧ c ≠ '\\' ∧ c ≠ '\n' ∧ c ≠ '\r' := by
  simp [isLiteralChar]

/-- What is written of one character of a literal: a letter that stands for it behind a backslash,
or the character itself where it may stand. -/
theorem escape_cons (c : Char) (tail : List Char) :
    (∃ letter ∈ ['\\', '"', 'n', 'r', 't'], letter? letter = some c
        ∧ Term.escape (c :: tail) = '\\' :: letter :: Term.escape tail)
      ∨ (isLiteralChar c = true ∧ Term.escape (c :: tail) = c :: Term.escape tail) := by
  rw [Term.escape.eq_def]
  dsimp only
  split
  · exact .inl ⟨'\\', by decide, rfl, rfl⟩
  · exact .inl ⟨'"', by decide, rfl, rfl⟩
  · exact .inl ⟨'n', by decide, rfl, rfl⟩
  · exact .inl ⟨'r', by decide, rfl, rfl⟩
  · exact .inl ⟨'t', by decide, rfl, rfl⟩
  · rename_i hbackslash hquote hfeed hreturn htab
    exact .inr ⟨isLiteralChar_iff.mpr ⟨hquote, hbackslash, hfeed, hreturn⟩, rfl⟩

theorem read?_letter {letter : Char} (h : letter? letter = some c) (cs : List Char) :
    literalText.read? .plain ('\\' :: letter :: cs) =
      withFirst c (literalText.read? .plain cs) := by
  have hu : letter ≠ 'u' := by rintro rfl; cases h
  have hU : letter ≠ 'U' := by rintro rfl; cases h
  rw [Delimited.read?, if_neg (by decide), if_pos rfl, Delimited.read?, if_neg hu, if_neg hU]
  simp only [literalText, h]

theorem read?_self (h : isLiteralChar c = true) (cs : List Char) :
    literalText.read? .plain (c :: cs) = withFirst c (literalText.read? .plain cs) := by
  obtain ⟨hquote, hbackslash, -, -⟩ := isLiteralChar_iff.mp h
  rw [Delimited.read?, if_neg (by exact hquote), if_neg hbackslash, if_pos (by exact h)]

theorem read?_escape (value rest : List Char) :
    literalText.read? .plain (Term.escape value ++ '"' :: rest) = some (value, rest) := by
  induction value with
  | nil => rfl
  | cons c tail ih =>
      rcases escape_cons c tail with ⟨letter, -, hletter, hescape⟩ | ⟨hplain, hescape⟩
      · rw [hescape, List.cons_append, List.cons_append, read?_letter hletter, ih]
        rfl
      · rw [hescape, List.cons_append, read?_self hplain, ih]
        rfl

/-! ## Labels and tags -/

theorem readLabel?_append (h : isLabel value = true) :
    readLabel? (value ++ ' ' :: rest) = some (value, ' ' :: rest) := by
  cases value with
  | nil => cases h
  | cons c tail =>
      simp only [isLabel, Bool.and_eq_true, bne_iff_ne, ne_eq] at h
      obtain ⟨⟨hstarts, htail⟩, hlast⟩ := h
      have htaken : (tail ++ ' ' :: rest).takeWhile continuesLabel = tail :=
        takeWhile_append_stop htail (by decide)
      have hkept : dropTrailing (· == '.') tail = tail :=
        dropTrailing_eq_self fun last h => by
          rw [beq_eq_false_iff_ne]
          rintro rfl
          exact hlast h
      rw [List.cons_append, readLabel?, if_pos hstarts, htaken, hkept]
      exact congrArg (fun left => some (c :: tail, left)) List.drop_left

theorem all_inTag_of_isTag (h : isTag value = true) : value.all inTag = true := by
  rw [List.all_eq_true]
  intro c hc
  by_cases hyphen : (c == '-') = true
  · simp [inTag, hyphen]
  · obtain ⟨piece, hpiece, hmem⟩ := mem_piece_of_mem (p := (· == '-')) hc (by simpa using hyphen)
    suffices hc : c.isAlphanum = true by simp [inTag, hc]
    unfold isTag at h
    split at h
    · cases h
    · rename_i first others hpieces
      rw [hpieces] at hpiece
      simp only [Bool.and_eq_true, List.all_eq_true] at h
      obtain ⟨⟨-, hfirst⟩, hothers⟩ := h
      rcases List.mem_cons.mp hpiece with rfl | hother
      · simp [Char.isAlphanum, hfirst c hmem]
      · exact (hothers piece hother).2 c hmem

theorem readTag?_append (h : isTag value = true) :
    readTag? (value ++ ' ' :: rest) = some (value, ' ' :: rest) := by
  have htaken : (value ++ ' ' :: rest).takeWhile inTag = value :=
    takeWhile_append_stop (all_inTag_of_isTag h) (by decide)
  have hleft : (value ++ ' ' :: rest).dropWhile inTag = ' ' :: rest :=
    dropWhile_append_stop (all_inTag_of_isTag h) (by decide)
  rw [readTag?, htaken, hleft, if_pos h]

/-! ## Terms -/

variable {term : Term}

theorem encode_eq_cons (hkind : term.isIri = true ∨ term.isBlank = true) :
    ∃ c ∈ ['<', '_'], ∃ tail, term.encode.toList = c :: tail := by
  cases term with
  | iri value => exact ⟨'<', by decide, value.toList ++ ['>'], by simp [Term.encode]⟩
  | blankNode label => exact ⟨'_', by decide, ':' :: label.toList, by simp [Term.encode]⟩
  | literal _ _ _ => simp [Term.isIri, Term.isBlank] at hkind
  | defaultGraph => simp [Term.isIri, Term.isBlank] at hkind

theorem encode_starts_unspaced (hkind : term ≠ .defaultGraph) :
    ∃ c tail, term.encode.toList = c :: tail ∧ isSpace c = false := by
  cases term with
  | iri value => exact ⟨'<', value.toList ++ ['>'], by simp [Term.encode], rfl⟩
  | blankNode label => exact ⟨'_', ':' :: label.toList, by simp [Term.encode], rfl⟩
  | literal value datatype language =>
      exact ⟨'"', _, by simp only [Term.encode, String.toList_append]; rfl, rfl⟩
  | defaultGraph => exact absurd rfl hkind

/-- Of a space and a term, only the space is skipped. -/
theorem skip_encode (hkind : term ≠ .defaultGraph) :
    skip (' ' :: (term.encode.toList ++ rest)) = term.encode.toList ++ rest := by
  obtain ⟨c, tail, hshape, hc⟩ := encode_starts_unspaced hkind
  rw [hshape, skip, List.dropWhile_cons_of_pos (by rfl), List.cons_append,
    List.dropWhile_cons_of_neg (by simp [hc])]

theorem ne_defaultGraph (hkind : term.isIri = true ∨ term.isBlank = true) :
    term ≠ .defaultGraph := by
  rintro rfl
  simp [Term.isIri, Term.isBlank] at hkind

theorem readIri?_encode (hkind : term.isIri = true) (h : term.IsWellFormed) :
    readIri? (term.encode.toList ++ rest) = some (term, rest) := by
  cases term with
  | iri value =>
      have hshape :
          (Term.iri value).encode.toList ++ rest = '<' :: (value.toList ++ '>' :: rest) := by
        simp [Term.encode]
      rw [hshape, readIri?, read?_iri h, Option.map_some, String.ofList_toList]
  | blankNode _ => cases hkind
  | literal _ _ _ => cases hkind
  | defaultGraph => cases hkind

theorem readBlankNode?_encode (hkind : term.isBlank = true) (h : term.IsWellFormed) :
    readBlankNode? (term.encode.toList ++ ' ' :: rest) = some (term, ' ' :: rest) := by
  cases term with
  | blankNode label =>
      have hshape : (Term.blankNode label).encode.toList ++ ' ' :: rest =
          '_' :: ':' :: (label.toList ++ ' ' :: rest) := by
        simp [Term.encode]
      rw [hshape, readBlankNode?, readLabel?_append h, Option.map_some, String.ofList_toList]
  | iri _ => cases hkind
  | literal _ _ _ => cases hkind
  | defaultGraph => cases hkind

theorem readResource?_encode (hkind : term.isIri = true ∨ term.isBlank = true)
    (h : term.IsWellFormed) :
    readResource? (term.encode.toList ++ ' ' :: rest) = some (term, ' ' :: rest) := by
  rcases hkind with hiri | hblank
  · rw [readResource?, readIri?_encode hiri h, Option.some_or]
  · have hno : readIri? (term.encode.toList ++ ' ' :: rest) = none := by
      cases term with
      | blankNode label => simp [Term.encode, readIri?]
      | iri _ => cases hblank
      | literal _ _ _ => cases hblank
      | defaultGraph => cases hblank
    rw [readResource?, hno, Option.none_or, readBlankNode?_encode hblank h]

def behindQuotes : Option String → Option String → List Char
  | _, some language => '@' :: language.toList
  | some datatype, none => '^' :: '^' :: '<' :: (datatype.toList ++ ['>'])
  | none, none => []

theorem encode_literal_toList (text : String) (datatype language : Option String) :
    (Term.literal text datatype language).encode.toList =
      '"' :: (Term.escape text.toList ++ '"' :: behindQuotes datatype language) := by
  cases language <;> cases datatype <;> simp [Term.encode, behindQuotes]

/-- What is written behind the quotes of a literal is read back when a graph or the full stop
follows. -/
theorem readAnnotation?_append {datatype language : Option String} (text : String)
    (h : (Term.literal text datatype language).IsWellFormed) (hc : c ∈ ['<', '_', '.']) :
    readAnnotation? text (behindQuotes datatype language ++ ' ' :: c :: rest) =
      some (.literal text datatype language, ' ' :: c :: rest) := by
  obtain ⟨hdatatype, hlanguage, hone⟩ := h
  match datatype, language with
  | none, none =>
      rw [behindQuotes, List.nil_append, readAnnotation?]
      simp only [List.mem_cons, List.not_mem_nil, or_false] at hc
      rcases hc with rfl | rfl | rfl <;> rfl
  | none, some tag =>
      rw [behindQuotes, List.cons_append, readAnnotation?]
      show Option.map _ (readTag? (tag.toList ++ ' ' :: c :: rest)) = _
      rw [readTag?_append (hlanguage tag rfl), Option.map_some, String.ofList_toList]
  | some iri, none =>
      have hshape : behindQuotes (some iri) none ++ ' ' :: c :: rest =
          '^' :: '^' :: '<' :: (iri.toList ++ '>' :: ' ' :: c :: rest) := by
        simp [behindQuotes]
      rw [hshape, readAnnotation?]
      show Option.map _ (iriText.read? .plain (iri.toList ++ '>' :: ' ' :: c :: rest)) = _
      rw [read?_iri (hdatatype iri rfl), Option.map_some, String.ofList_toList]
  | some _, some _ => rcases hone with hnone | hnone <;> cases hnone

/-- A written object is read back when a graph or the full stop follows. -/
theorem readObject?_encode (hkind : term ≠ .defaultGraph) (h : term.IsWellFormed)
    (hc : c ∈ ['<', '_', '.']) :
    readObject? (term.encode.toList ++ ' ' :: c :: rest) = some (term, ' ' :: c :: rest) := by
  cases term with
  | iri _ => rw [readObject?, readResource?_encode (.inl rfl) h, Option.some_or]
  | blankNode _ => rw [readObject?, readResource?_encode (.inr rfl) h, Option.some_or]
  | literal text datatype language =>
      have hshape : (Term.literal text datatype language).encode.toList ++ ' ' :: c :: rest =
          '"' :: (Term.escape text.toList ++ '"' ::
            (behindQuotes datatype language ++ ' ' :: c :: rest)) := by
        simp [encode_literal_toList]
      have hno : ∀ cs, readResource? ('"' :: cs) = none := fun _ => rfl
      rw [hshape, readObject?, hno, Option.none_or, readLiteral?, read?_escape, Option.bind_some,
        String.ofList_toList, readAnnotation?_append text h hc]
  | defaultGraph => exact absurd rfl hkind

/-! ## Lines -/

def graphPart : Term → List Char
  | .defaultGraph => []
  | graph => ' ' :: graph.encode.toList

/-- The line of a statement, without its end. -/
def statement (quad : Quad) : List Char :=
  quad.subject.encode.toList ++ ' ' :: (quad.predicate.encode.toList ++
    ' ' :: (quad.object.encode.toList ++ (graphPart quad.graph ++ [' ', '.'])))

variable {quad : Quad}

/-- A statement whose terms are of the right kinds is written as one line. -/
theorem line_eq (h : quad.HasAllowedKinds) :
    quad.line = .ok (String.ofList (statement quad ++ ['\n'])) := by
  obtain ⟨hsubject, hpredicate, hobject, hgraph⟩ := h
  have hnode : (!(quad.subject.isIri || quad.subject.isBlank)) = false := by
    rcases hsubject with h | h <;> simp [h]
  rw [Quad.line, hnode, hpredicate, if_neg (by decide), if_neg (by decide), if_neg hobject]
  dsimp only
  split
  · rename_i hdefault
    refine congrArg Except.ok (String.toList_inj.mp ?_)
    simp [statement, graphPart, hdefault]
  · rename_i value datatype language hliteral
    simp [hliteral, Term.isIri, Term.isBlank] at hgraph
  · refine congrArg Except.ok (String.toList_inj.mp ?_)
    simp [statement, graphPart]

theorem graphPart_of_named (hkind : term.isIri = true ∨ term.isBlank = true) :
    graphPart term = ' ' :: term.encode.toList := by
  cases term with
  | defaultGraph => simp [Term.isIri, Term.isBlank] at hkind
  | iri _ => rfl
  | blankNode _ => rfl
  | literal _ _ _ => rfl

theorem graphPart_append_eq_cons
    (hkind : (term.isIri = true ∨ term.isBlank = true) ∨ term = .defaultGraph) :
    ∃ c ∈ ['<', '_', '.'], ∃ tail, graphPart term ++ [' ', '.'] = ' ' :: c :: tail := by
  rcases hkind with hnamed | rfl
  · obtain ⟨c, hc, tail, hshape⟩ := encode_eq_cons hnamed
    rw [graphPart_of_named hnamed, hshape]
    exact ⟨c, List.mem_append_left ['.'] hc, tail ++ [' ', '.'], rfl⟩
  · exact ⟨'.', by decide, [], rfl⟩

theorem readGraph?_graphPart
    (hkind : (term.isIri = true ∨ term.isBlank = true) ∨ term = .defaultGraph)
    (h : term.IsWellFormed) : readGraph? (graphPart term ++ [' ', '.']) = some (term, []) := by
  rcases hkind with hnamed | rfl
  · have hstop : readStop? (' ' :: (term.encode.toList ++ [' ', '.'])) = none := by
      obtain ⟨c, hc, tail, hshape⟩ := encode_eq_cons hnamed
      have hc : c = '<' ∨ c = '_' := by simpa using hc
      rw [hshape]
      rcases hc with rfl | rfl <;> rfl
    rw [graphPart_of_named hnamed, List.cons_append, readGraph?, hstop,
      skip_encode (ne_defaultGraph hnamed)]
    dsimp only
    rw [readResource?_encode hnamed h]
    rfl
  · rfl

/-- The four terms of a line are read one after the other. -/
theorem readStatement?_statement (h : quad.IsWellFormed) :
    readStatement? (statement quad) = some (quad, []) := by
  obtain ⟨hsubject, hpredicate, hobject, hgraph⟩ := h.toHasAllowedKinds
  obtain ⟨c, hc, tail, htail⟩ := graphPart_append_eq_cons hgraph
  rw [readStatement?, statement, readResource?_encode hsubject h.subject_wellFormed,
    Option.bind_some]
  dsimp only
  rw [skip_encode (ne_defaultGraph (.inl hpredicate)),
    readIri?_encode hpredicate h.predicate_wellFormed, Option.bind_some]
  dsimp only
  rw [skip_encode hobject, htail, readObject?_encode hobject h.object_wellFormed hc,
    Option.bind_some, ← htail]
  dsimp only
  rw [readGraph?_graphPart hgraph h.graph_wellFormed]
  rfl

theorem readLine?_statement (h : quad.IsWellFormed) :
    readLine? (statement quad) = some (some quad) := by
  obtain ⟨c, hc, tail, hshape⟩ := encode_eq_cons h.subject
  have hc : c = '<' ∨ c = '_' := by simpa using hc
  have hskip : skip (statement quad) = statement quad := by
    rw [statement, hshape]
    rcases hc with rfl | rfl <;> rfl
  have hnot : isAtEnd (statement quad) = false := by
    rw [statement, hshape]
    rcases hc with rfl | rfl <;> rfl
  rw [readLine?, hnot, hskip, readStatement?_statement h]
  rfl

/-! ## Line ends -/

/-- A class of characters to which neither character of a line end belongs. -/
theorem no_lineEnd_of_all {p : Char → Bool} (hfeed : p '\n' = false) (hreturn : p '\r' = false)
    (h : value.all p = true) : value.any isLineEnd = false := by
  rw [List.all_eq_true] at h
  rw [any_eq_false_iff]
  intro c hc
  have hp := h c hc
  have hnotFeed : c ≠ '\n' := by
    rintro rfl
    rw [hp] at hfeed
    cases hfeed
  have hnotReturn : c ≠ '\r' := by
    rintro rfl
    rw [hp] at hreturn
    cases hreturn
  simp [isLineEnd, hnotFeed, hnotReturn]

theorem no_lineEnd_of_isIriChar (h : value.all isIriChar = true) : value.any isLineEnd = false :=
  no_lineEnd_of_all (by decide) (by decide) h

theorem no_lineEnd_of_isLabel (h : isLabel value = true) : value.any isLineEnd = false := by
  cases value with
  | nil => rfl
  | cons c tail =>
      simp only [isLabel, Bool.and_eq_true] at h
      obtain ⟨⟨hstarts, htail⟩, -⟩ := h
      refine no_lineEnd_of_all (p := continuesLabel) (by decide) (by decide) ?_
      rw [List.all_cons, htail, continuesLabel, hstarts]
      rfl

theorem no_lineEnd_escape (value : List Char) : (Term.escape value).any isLineEnd = false := by
  induction value with
  | nil => rfl
  | cons c tail ih =>
      rcases escape_cons c tail with ⟨letter, hletter, -, hescape⟩ | ⟨hplain, hescape⟩
      · have hnot : isLineEnd letter = false :=
          any_eq_false_iff.mp (by decide) letter hletter
        rw [hescape, List.any_cons, List.any_cons, hnot, ih]
        rfl
      · obtain ⟨-, -, hfeed, hreturn⟩ := isLiteralChar_iff.mp hplain
        rw [hescape, List.any_cons, ih]
        simp [isLineEnd, hfeed, hreturn]

theorem no_lineEnd_encode (h : term.IsWellFormed) :
    term.encode.toList.any isLineEnd = false := by
  cases term with
  | iri value => simp [Term.encode, no_lineEnd_of_isIriChar h, isLineEnd]
  | blankNode label => simp [Term.encode, no_lineEnd_of_isLabel h, isLineEnd]
  | literal text datatype language =>
      obtain ⟨hdatatype, hlanguage, -⟩ := h
      match datatype, language with
      | none, none => simp [Term.encode, no_lineEnd_escape, isLineEnd]
      | some iri, none =>
          have hiri := no_lineEnd_of_isIriChar (hdatatype iri rfl)
          simp [Term.encode, no_lineEnd_escape, hiri, isLineEnd]
      | _, some tag =>
          have htag := no_lineEnd_of_all (p := inTag) (by decide) (by decide)
            (all_inTag_of_isTag (hlanguage tag rfl))
          simp [Term.encode, no_lineEnd_escape, htag, isLineEnd]
  | defaultGraph => rfl

theorem no_lineEnd_statement (h : quad.IsWellFormed) : (statement quad).any isLineEnd = false := by
  have hgraph : (graphPart quad.graph).any isLineEnd = false := by
    have hencode := no_lineEnd_encode h.graph_wellFormed
    cases hshape : quad.graph <;> rw [hshape] at hencode <;>
      simp_all [graphPart, isLineEnd]
  simp [statement, no_lineEnd_encode h.subject_wellFormed,
    no_lineEnd_encode h.predicate_wellFormed, no_lineEnd_encode h.object_wellFormed, hgraph,
    isLineEnd]

/-! ## Documents -/

def document (quads : List Quad) : List Char :=
  quads.flatMap fun quad => statement quad ++ ['\n']

variable {quads : List Quad}

theorem serialize_eq (h : ∀ quad ∈ quads, quad.HasAllowedKinds) :
    Quad.serialize quads = .ok (String.ofList (document quads)) := by
  induction quads with
  | nil => rfl
  | cons quad tail ih =>
      rw [Quad.serialize_cons, line_eq (h quad List.mem_cons_self),
        ih fun other hother => h other (List.mem_cons_of_mem _ hother)]
      refine congrArg Except.ok ?_
      simp [document, String.ofList_append, String.append_assoc]

/-- A document is read line by line as the statements it was written of. -/
theorem read?_document (h : ∀ quad ∈ quads, quad.IsWellFormed) :
    read? (String.ofList (document quads)) = some quads := by
  rw [read?, String.toList_ofList]
  induction quads with
  | nil => rfl
  | cons quad tail ih =>
      have hquad := h quad List.mem_cons_self
      have htail := ih fun other hother => h other (List.mem_cons_of_mem _ hother)
      have hshape : document (quad :: tail) = statement quad ++ '\n' :: document tail := by
        simp [document]
      rw [hshape, pieces_append (by decide) (no_lineEnd_statement hquad), readLines?,
        readLine?_statement hquad, htail]
      rfl

end NQuads

namespace Quad

open NQuads

/-- Statements that the grammar can express are written as one line each, in their order, and a
reader of the grammar gets exactly these statements back, from the whole text and from each of its
lines; so no other such list has the same text. -/
theorem serialize_is_read_back {quads : List Quad} (h : ∀ quad ∈ quads, quad.IsWellFormed) :
    ∃ text, serialize quads = .ok text
      ∧ NQuads.read? text = some quads
      ∧ text.toList = quads.flatMap (fun quad => statement quad ++ ['\n'])
      ∧ (∀ quad ∈ quads, (statement quad).any isLineEnd = false
          ∧ NQuads.readLine? (statement quad) = some (some quad))
      ∧ ∀ others : List Quad, (∀ quad ∈ others, quad.IsWellFormed) →
          serialize others = .ok text → others = quads := by
  refine ⟨_, serialize_eq fun quad hquad => (h quad hquad).toHasAllowedKinds, read?_document h,
    String.toList_ofList,
    fun quad hquad => ⟨no_lineEnd_statement (h quad hquad), readLine?_statement (h quad hquad)⟩, ?_⟩
  intro others hothers hsame
  rw [serialize_eq fun quad hquad => (hothers quad hquad).toHasAllowedKinds] at hsame
  have hquads := read?_document hothers
  rw [Except.ok.inj hsame, read?_document h] at hquads
  exact (Option.some.inj hquads).symm

/-- Statements whose values hold quotes, backslashes and line ends, a backslash at the end, and what
looks like the end of a line. -/
def awkwardQuads : List Quad :=
  [⟨.blankNode "b.1", .iri "urn:p", .literal "\\\\\"\n\r\t\\" none (some "en-GB"), .defaultGraph⟩,
    ⟨.iri "urn:s", .iri "urn:p", .literal "\" .\n" (some "urn:t") none, .iri "urn:g"⟩]

theorem awkwardQuads_are_read_back :
    ∃ text, serialize awkwardQuads = .ok text ∧ NQuads.read? text = some awkwardQuads := by
  have hwell : ∀ quad ∈ awkwardQuads, quad.IsWellFormed := by decide
  obtain ⟨text, hserialize, hread, -⟩ := serialize_is_read_back hwell
  exact ⟨text, hserialize, hread⟩

end Quad

end Quadlink
