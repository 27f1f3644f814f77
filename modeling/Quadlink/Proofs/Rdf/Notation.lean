import Quadlink.Proofs.Rdf.RoundTrip

/-!
# Terms are read back from their notation

Reading undoes writing, but not for every term. Only the value of a literal is escaped, and white
space around a text does not count, so labels, languages and datatypes can hold what a reader takes
for something else. `readObject_encode_iff` says which terms are read back all the same.

What a reader accepts is described in full by `readResource?_cases` and `readLiteral?_cases`; the
latter names the closing quote, behind which no other quote stands.
-/

namespace Quadlink.Term

open Text NQuads

variable {cs suffix : List Char} {term : Term} {raw value : String}
  {datatype language : Option String}

/-! ## Escapes -/

theorem unescape_cons {c : Char} (h : c ≠ '\\') (cs : List Char) :
    unescape (c :: cs) = c :: unescape cs := by
  rw [unescape.eq_def]
  split
  · rename_i heq
    exact absurd (List.cons.inj heq).1 h
  · rename_i heq
    cases heq
    rfl
  · rename_i heq
    cases heq

theorem unescape_escape (value : List Char) : unescape (escape value) = value := by
  induction value with
  | nil => rfl
  | cons c tail ih =>
      rcases escape_cons c tail with ⟨letter, hletter, hmeant, hescape⟩ | ⟨hplain, hescape⟩
      · have hchar : unescapeChar letter = c := by
          simp only [List.mem_cons, List.not_mem_nil, or_false] at hletter
          rcases hletter with rfl | rfl | rfl | rfl | rfl <;> exact Option.some.inj hmeant
        rw [hescape, unescape, hchar, ih]
      · obtain ⟨-, hbackslash, -, -⟩ := NQuads.isLiteralChar_iff.mp hplain
        rw [hescape, unescape_cons hbackslash, ih]

/-! ## IRIs and blank nodes -/

/-- The texts that are read as an IRI or a blank node: an IRI stands between brackets or looks like
one, a label stands behind its mark, and neither is empty. -/
theorem readResource?_cases (h : readResource? cs = some term) :
    (∃ value, term = .iri value ∧ value ≠ ""
        ∧ (cs = '<' :: (value.toList ++ ['>']) ∨ cs = value.toList ∧ isBareIri cs = true))
      ∨ ∃ label, term = .blankNode label ∧ label ≠ "" ∧ cs = '_' :: ':' :: label.toList := by
  unfold readResource? at h
  split at h
  · rename_i inner hinner
    obtain ⟨rest, hopen, hclose⟩ := Option.bind_eq_some_iff.mp hinner
    split at h
    · cases h
    · rename_i hne
      cases h
      refine .inl ⟨_, rfl, by simpa using hne, .inl ?_⟩
      rw [dropPrefix?_eq_some hopen, dropSuffix?_eq_some hclose, String.toList_ofList]
      rfl
  · split at h
    · rename_i label hlabel
      split at h
      · cases h
      · rename_i hne
        cases h
        refine .inr ⟨_, rfl, by simpa using hne, ?_⟩
        rw [dropPrefix?_eq_some hlabel, String.toList_ofList]
        rfl
    · split at h
      · rename_i hbare
        cases h
        refine .inl ⟨_, rfl, ?_, .inr ⟨String.toList_ofList.symm, hbare⟩⟩
        rintro hempty
        rw [String.ofList_eq_empty_iff.mp hempty] at hbare
        cases hbare
      · cases h

theorem kind_of_readResource? (h : readResource? cs = some term) :
    term.isIri = true ∨ term.isBlank = true := by
  rcases readResource?_cases h with ⟨_, rfl, -⟩ | ⟨_, rfl, -⟩
  · exact .inl rfl
  · exact .inr rfl

theorem readResource?_bracketed {inner : List Char} (h : inner ≠ []) :
    readResource? ('<' :: (inner ++ ['>'])) = some (.iri (String.ofList inner)) := by
  have hinner : bracketed? ('<' :: (inner ++ ['>'])) = some inner := by
    show (dropPrefix? ['<'] (['<'] ++ (inner ++ ['>']))).bind (dropSuffix? ['>']) = some inner
    rw [dropPrefix?_append, Option.bind_some, dropSuffix?_append]
  have hne : inner.isEmpty = false := by simpa using h
  simp only [readResource?, hinner, hne]
  rfl

theorem readResource?_labelled {label : List Char} (h : label ≠ []) :
    readResource? ('_' :: ':' :: label) = some (.blankNode (String.ofList label)) := by
  have hbracketed : bracketed? ('_' :: ':' :: label) = none := rfl
  have hlabel : dropPrefix? ['_', ':'] ('_' :: ':' :: label) = some label :=
    dropPrefix?_append ['_', ':'] label
  have hne : label.isEmpty = false := by simpa using h
  simp only [readResource?, hbracketed, hlabel, hne]
  rfl

theorem readResource?_quoted (cs : List Char) : readResource? ('"' :: cs) = none := by
  have hbare : isBareIri ('"' :: cs) = false := by simp [isBareIri]
  show (if isBareIri ('"' :: cs) then _ else none) = none
  rw [hbare]
  rfl

/-! ## Literals -/

theorem readSuffix?_datatype (value : String) (cs : List Char) :
    readSuffix? value ('^' :: '^' :: '<' :: (cs ++ ['>'])) =
      some (.literal value (some (String.ofList cs)) none) := by
  have hopen : dropPrefix? ['^', '^', '<'] ('^' :: '^' :: '<' :: (cs ++ ['>'])) =
      some (cs ++ ['>']) := dropPrefix?_append ['^', '^', '<'] (cs ++ ['>'])
  simp only [readSuffix?, hopen, dropSuffix?_append, Option.map_some]
  rfl

theorem readSuffix?_behindQuotes (value : String) (h : datatype = none ∨ language = none) :
    readSuffix? value (behindQuotes datatype language) =
      some (.literal value datatype language) := by
  match datatype, language with
  | none, none => rfl
  | none, some tag => simp [behindQuotes, readSuffix?]
  | some name, none => rw [behindQuotes, readSuffix?_datatype, String.ofList_toList]
  | some _, some _ => rcases h with h | h <;> cases h

theorem readSuffix?_cases (h : readSuffix? value suffix = some term) :
    ∃ datatype language, (datatype = none ∨ language = none)
      ∧ suffix = behindQuotes datatype language ∧ term = .literal value datatype language := by
  unfold readSuffix? at h
  split at h
  · cases h
    exact ⟨none, none, .inl rfl, rfl, rfl⟩
  · cases h
    exact ⟨none, some _, .inl rfl, by simp [behindQuotes], rfl⟩
  · split at h
    · cases h
    · rename_i rest hopen
      obtain ⟨iri, hclose, hterm⟩ := Option.map_eq_some_iff.mp h
      refine ⟨some (String.ofList iri), none, .inr rfl, ?_, hterm.symm⟩
      rw [dropPrefix?_eq_some hopen, dropSuffix?_eq_some hclose, behindQuotes,
        String.toList_ofList]
      rfl

/-- The texts that are read as a literal: a text in quotes with what belongs behind them, the last
quote being the one that closes it, and any text without an opening quote. -/
theorem readLiteral?_cases (h : readLiteral? cs = some term) :
    (cs.head? ≠ some '"' ∧ term = .literal (String.ofList cs) none none)
      ∨ ∃ inner datatype language, cs = '"' :: (inner ++ '"' :: behindQuotes datatype language)
        ∧ '"' ∉ behindQuotes datatype language ∧ (datatype = none ∨ language = none)
        ∧ term = .literal (String.ofList (unescape inner)) datatype language := by
  unfold readLiteral? at h
  split at h
  · split at h
    · cases h
    · rename_i hcut
      obtain ⟨datatype, language, hone, rfl, rfl⟩ := readSuffix?_cases h
      exact .inr ⟨_, datatype, language, by rw [cutAtLast?_eq_some hcut],
        not_mem_of_cutAtLast? hcut, hone, rfl⟩
  · rename_i hquote
    cases h
    refine .inl ⟨?_, rfl⟩
    intro hhead
    obtain ⟨rest, hrest⟩ := List.head?_eq_some_iff.mp hhead
    exact hquote rest hrest

/-- A value in quotes is read back where no other quote follows. -/
theorem readLiteral?_escape (value : String) (h : '"' ∉ suffix) :
    readLiteral? ('"' :: (escape value.toList ++ '"' :: suffix)) = readSuffix? value suffix := by
  simp only [readLiteral?, cutAtLast?_append h, unescape_escape, String.ofList_toList]

/-! ## Objects -/

theorem readObject_cases (h : readObject raw = .ok term) :
    readResource? (trimChars raw.toList) = some term
      ∨ readLiteral? (trimChars raw.toList) = some term := by
  simp only [readObject] at h
  split at h
  · rename_i hresource
    cases h
    exact .inl hresource
  · split at h
    · rename_i hliteral
      cases h
      exact .inr hliteral
    · cases h

theorem readObject_of_readResource? (h : readResource? (trimChars raw.toList) = some term) :
    readObject raw = .ok term := by
  simp only [readObject, h]

theorem readObject_of_readLiteral? (hnot : readResource? (trimChars raw.toList) = none)
    (h : readLiteral? (trimChars raw.toList) = some term) : readObject raw = .ok term := by
  simp only [readObject, hnot, h]

/-! ## Kinds of terms -/

theorem kind_of_readSubject (h : readSubject raw = .ok term) :
    term.isIri = true ∨ term.isBlank = true := by
  unfold readSubject at h
  split at h
  · rename_i hread
    cases h
    exact kind_of_readResource? hread
  · cases h

theorem kind_of_readPredicate (h : readPredicate raw = .ok term) : term.isIri = true := by
  unfold readPredicate at h
  split at h
  · cases h
    rfl
  · cases h

theorem ne_defaultGraph_of_readObject (h : readObject raw = .ok term) : term ≠ .defaultGraph := by
  rcases readObject_cases h with hread | hread
  · exact NQuads.ne_defaultGraph (kind_of_readResource? hread)
  · rcases readLiteral?_cases hread with ⟨-, rfl⟩ | ⟨_, _, _, -, -, -, rfl⟩ <;> exact nofun

theorem kind_of_readContext (h : readContext raw = .ok term) :
    (term.isIri = true ∨ term.isBlank = true) ∨ term = .defaultGraph := by
  simp only [readContext] at h
  split at h
  · cases h
    exact .inr rfl
  · split at h
    · rename_i hread
      cases h
      exact .inl (kind_of_readResource? hread)
    · cases h

/-! ## Terms that are read back -/

/-- Terms that are found again in what is written of them: IRIs and labels are not empty, nothing
is lost at the end, and no quote stands behind the one that closes a literal. What a literal says
is not restricted. -/
def IsRecoverable : Term → Prop
  | .iri value => value ≠ ""
  | .blankNode label => label ≠ "" ∧ endsBlank label = false
  | .literal _ none none => True
  | .literal _ (some datatype) none => '"' ∉ datatype.toList
  | .literal _ none (some language) => '"' ∉ language.toList ∧ endsBlank language = false
  | .literal _ (some _) (some _) => False
  | .defaultGraph => False

theorem trimChars_encode_iri (value : String) :
    trimChars (iri value).encode.toList = '<' :: (value.toList ++ ['>']) := by
  have hshape : (iri value).encode.toList = '<' :: (value.toList ++ ['>']) := by simp [encode]
  rw [hshape, trimChars_cons (by decide), dropTrailing_append (by decide)]
  rfl

theorem trimChars_encode_blankNode (label : String) :
    trimChars (blankNode label).encode.toList =
      '_' :: ':' :: dropTrailing Text.isBlank label.toList := by
  have hshape : (blankNode label).encode.toList = '_' :: ([] ++ ':' :: label.toList) := by
    simp [encode]
  rw [hshape, trimChars_cons (by decide), dropTrailing_append (by decide)]
  rfl

theorem trimChars_encode_literal (value : String) (datatype language : Option String) :
    trimChars (literal value datatype language).encode.toList =
      '"' :: (escape value.toList ++
        '"' :: dropTrailing Text.isBlank (behindQuotes datatype language)) := by
  rw [encode_literal_toList, trimChars_cons (by decide), dropTrailing_append (by decide)]

/-- What the annotation of a literal must be like. -/
theorem isRecoverable_literal_iff : (literal value datatype language).IsRecoverable ↔
    (datatype = none ∨ language = none)
      ∧ '"' ∉ behindQuotes datatype language
      ∧ dropTrailing Text.isBlank (behindQuotes datatype language) =
          behindQuotes datatype language := by
  match datatype, language with
  | none, none => simp [IsRecoverable, behindQuotes, dropTrailing]
  | none, some tag =>
      have hdrop : dropTrailing Text.isBlank ('@' :: tag.toList) =
          '@' :: dropTrailing Text.isBlank tag.toList :=
        dropTrailing_append (by decide) [] tag.toList
      simp [IsRecoverable, behindQuotes, hdrop, endsBlank_eq_false_iff]
  | some name, none =>
      have hdrop : dropTrailing Text.isBlank ('^' :: '^' :: '<' :: (name.toList ++ ['>'])) =
          '^' :: '^' :: '<' :: (name.toList ++ ['>']) :=
        dropTrailing_append (by decide) ('^' :: '^' :: '<' :: name.toList) []
      simp [IsRecoverable, behindQuotes, hdrop]
  | some _, some _ => simp [IsRecoverable]

/-- A recoverable IRI or blank node is read back in every place that takes such terms. -/
theorem readResource?_encode (hkind : term.isIri = true ∨ term.isBlank = true)
    (h : term.IsRecoverable) : readResource? (trimChars term.encode.toList) = some term := by
  cases term with
  | iri value =>
      have hne : value ≠ "" := h
      rw [trimChars_encode_iri, readResource?_bracketed (by simpa using hne), String.ofList_toList]
  | blankNode label =>
      obtain ⟨hne, hends⟩ := h
      rw [trimChars_encode_blankNode, endsBlank_eq_false_iff.mp hends,
        readResource?_labelled (by simpa using hne), String.ofList_toList]
  | literal _ _ _ => simp [isIri, isBlank] at hkind
  | defaultGraph => simp [isIri, isBlank] at hkind

theorem readSubject_encode (hkind : term.isIri = true ∨ term.isBlank = true)
    (h : term.IsRecoverable) : readSubject term.encode = .ok term := by
  simp only [readSubject, readResource?_encode hkind h]

theorem readPredicate_encode (hkind : term.isIri = true) (h : term.IsRecoverable) :
    readPredicate term.encode = .ok term := by
  cases term with
  | iri value => simp only [readPredicate, readResource?_encode (.inl hkind) h]
  | _ => cases hkind

theorem readObject_encode_iri :
    readObject (iri value).encode = .ok (iri value) ↔ value ≠ "" := by
  constructor
  · rintro h rfl
    cases h
  · intro hne
    exact readObject_of_readResource? (readResource?_encode (.inl rfl) hne)

theorem readObject_encode_blankNode :
    readObject (blankNode value).encode = .ok (blankNode value)
      ↔ value ≠ "" ∧ endsBlank value = false := by
  constructor
  · intro h
    rw [endsBlank_eq_false_iff]
    rcases readObject_cases h with hread | hread
    · rw [trimChars_encode_blankNode] at hread
      rcases readResource?_cases hread with ⟨_, hterm, -⟩ | ⟨label, hterm, hne, hshape⟩
      · cases hterm
      · cases hterm
        exact ⟨hne, (List.cons.inj (List.cons.inj hshape).2).2⟩
    · rcases readLiteral?_cases hread with ⟨-, hterm⟩ | ⟨_, _, _, -, -, -, hterm⟩ <;> cases hterm
  · intro h
    exact readObject_of_readResource? (readResource?_encode (.inr rfl) h)

theorem readObject_encode_literal :
    readObject (literal value datatype language).encode = .ok (literal value datatype language)
      ↔ (literal value datatype language).IsRecoverable := by
  rw [isRecoverable_literal_iff]
  constructor
  · intro h
    rcases readObject_cases h with hread | hread
    · have hkind := kind_of_readResource? hread
      simp [isIri, isBlank] at hkind
    · have hlast : ∀ last, (trimChars (literal value datatype language).encode.toList).getLast? =
          some last → Text.isBlank last = false := fun _ => getLast?_dropTrailing
      rcases readLiteral?_cases hread with ⟨hhead, -⟩ | ⟨inner, _, _, hshape, hquote, hone, hterm⟩
      · rw [trimChars_encode_literal] at hhead
        exact absurd rfl hhead
      · cases hterm
        refine ⟨hone, hquote, dropTrailing_eq_self fun last hend => hlast last ?_⟩
        rw [hshape, List.getLast?_cons, List.getLast?_append, List.getLast?_cons, hend]
        rfl
  · rintro ⟨hone, hquote, htrim⟩
    apply readObject_of_readLiteral?
    · rw [trimChars_encode_literal, readResource?_quoted]
    · rw [trimChars_encode_literal, htrim, readLiteral?_escape value hquote,
        readSuffix?_behindQuotes value hone]

/-- A term is found again in what is written of it exactly where it is recoverable, whatever its
value contains. The default graph is not, since its name is a literal to the reader of objects; as
the name of a graph it is. -/
theorem readObject_encode_iff (term : Term) :
    (readObject term.encode = .ok term ↔ term.IsRecoverable)
      ∧ readObject defaultGraph.encode ≠ .ok defaultGraph
      ∧ readContext defaultGraph.encode = .ok defaultGraph := by
  refine ⟨?_, nofun, rfl⟩
  cases term with
  | iri value => exact readObject_encode_iri
  | blankNode label => exact readObject_encode_blankNode
  | literal value datatype language => exact readObject_encode_literal
  | defaultGraph => exact ⟨nofun, False.elim⟩

example : readObject (literal "chat" none (some "fr\u00a0")).encode =
    .ok (literal "chat" none (some "fr")) := rfl

/-! ## What was read is read back -/

theorem isRecoverable_of_readResource? (h : readResource? (trimChars cs) = some term) :
    term.IsRecoverable := by
  rcases readResource?_cases h with ⟨value, rfl, hne, -⟩ | ⟨label, rfl, hne, hshape⟩
  · exact hne
  · refine ⟨hne, endsBlank_eq_false_iff.mpr (dropTrailing_eq_self fun last hlast => ?_)⟩
    -- The label reaches to the end of a text without white space at its end.
    refine getLast?_trimChars (?_ : (trimChars cs).getLast? = _)
    rw [hshape, List.getLast?_cons, List.getLast?_cons, hlast]
    rfl

theorem isRecoverable_of_readLiteral? (h : readLiteral? (trimChars cs) = some term) :
    term.IsRecoverable := by
  rcases readLiteral?_cases h with ⟨-, rfl⟩ | ⟨inner, datatype, language, hshape, hquote, hone, rfl⟩
  · trivial
  · refine isRecoverable_literal_iff.mpr ⟨hone, hquote, dropTrailing_eq_self fun last hlast => ?_⟩
    refine getLast?_trimChars (?_ : (trimChars cs).getLast? = _)
    rw [hshape, List.getLast?_cons, List.getLast?_append, List.getLast?_cons, hlast]
    rfl

theorem readResource?_encode_of_read (h : readResource? (trimChars cs) = some term) :
    readResource? (trimChars term.encode.toList) = some term :=
  readResource?_encode (kind_of_readResource? h) (isRecoverable_of_readResource? h)

theorem readSubject_encode_of_read (h : readSubject raw = .ok term) :
    readSubject term.encode = .ok term := by
  unfold readSubject at h
  split at h
  · rename_i hread
    cases h
    exact readSubject_encode (kind_of_readResource? hread) (isRecoverable_of_readResource? hread)
  · cases h

theorem readPredicate_encode_of_read (h : readPredicate raw = .ok term) :
    readPredicate term.encode = .ok term := by
  unfold readPredicate at h
  split at h
  · rename_i hread
    cases h
    exact readPredicate_encode rfl (isRecoverable_of_readResource? hread)
  · cases h

theorem readObject_encode_of_read (h : readObject raw = .ok term) :
    readObject term.encode = .ok term := by
  rcases readObject_cases h with hread | hread
  · exact readObject_of_readResource? (readResource?_encode_of_read hread)
  · have hrecoverable := isRecoverable_of_readLiteral? hread
    rcases readLiteral?_cases hread with ⟨-, rfl⟩ | ⟨_, _, _, -, -, -, rfl⟩
    all_goals exact readObject_encode_literal.mpr hrecoverable

theorem readContext_encode_of_read (h : readContext raw = .ok term) :
    readContext term.encode = .ok term := by
  simp only [readContext] at h
  split at h
  · cases h
    rfl
  · split at h
    · rename_i hread
      cases h
      have hagain := readResource?_encode_of_read hread
      have hname : ¬(trimChars term.encode.toList = []
          ∨ trimChars term.encode.toList = ['n', 'u', 'l', 'l']) := by
        rintro (hempty | hnull)
        · rw [hempty] at hagain
          cases hagain
        · rw [hnull] at hagain
          cases hagain
      simp only [readContext, if_neg hname, hagain]
    · cases h

end Quadlink.Term
