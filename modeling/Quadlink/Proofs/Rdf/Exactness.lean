import Quadlink.Proofs.Rdf.RoundTrip

/-!
# Only well-formed statements are read back

The converse of `Quadlink.Proofs.Rdf.RoundTrip`: a statement that a reader of N-Quads gets back from
its own line is well-formed (`wellFormed_of_read?`). The line need not be what it was meant to be,
since IRIs, labels, tags and datatypes are written as they are: an IRI may hold a line end, and then
the reader sees only the part before it. So the lemmas speak of a beginning of what was written
(`<+:`), and each shows that the reader stops where the term was meant to end.
-/

namespace Quadlink.NQuads

open Text

variable {cs value rest left : List Char} {term : Term}

/-! ## Delimited texts -/

theorem withFirst_eq_some {c : Char} {result : Option (List Char × List Char)}
    (h : withFirst c result = some (value, rest)) :
    ∃ tail, result = some (tail, rest) ∧ value = c :: tail := by
  obtain ⟨⟨tail, left⟩, hresult, hparts⟩ := Option.map_eq_some_iff.mp h
  cases hparts
  exact ⟨tail, hresult, rfl⟩

/-- An IRI is read from the characters before the first closing bracket. Its value is no longer than
these, and as long only where every one of them stands for itself. -/
structure IriSource (place : Place) (cs value rest raw : List Char) : Prop where
  split : cs = raw ++ '>' :: rest
  unclosed : '>' ∉ raw
  length_le : value.length ≤ raw.length
  same : place = .plain → raw.length ≤ value.length → value = raw ∧ raw.all isIriChar = true

namespace IriSource

variable {place : Place} {raw : List Char} {c : Char}

/-- A character that only leads to another place makes the source longer than the value. -/
theorem skip_char (h : IriSource place cs value rest raw) (hc : c ≠ '>') (from' : Place) :
    IriSource from' (c :: cs) value rest (c :: raw) where
  split := by rw [h.split, List.cons_append]
  unclosed := by
    rw [List.mem_cons, not_or]
    exact ⟨hc.symm, h.unclosed⟩
  length_le := Nat.le_succ_of_le h.length_le
  same := by
    intro _ hlong
    have hlength := h.length_le
    rw [List.length_cons] at hlong
    omega

/-- The last character of an escape is read as the one that the escape stands for. -/
theorem end_escape (h : IriSource place cs value rest raw) (hc : c ≠ '>') (meant : Char)
    {from' : Place} (hfrom : from' ≠ .plain) :
    IriSource from' (c :: cs) (meant :: value) rest (c :: raw) where
  split := by rw [h.split, List.cons_append]
  unclosed := by
    rw [List.mem_cons, not_or]
    exact ⟨hc.symm, h.unclosed⟩
  length_le := Nat.succ_le_succ h.length_le
  same := fun hplain => absurd hplain hfrom

end IriSource

theorem ne_close_of_hexValue? {c : Char} {digit : Nat}
    (h : Codec.Percent.hexValue? c = some digit) : c ≠ '>' := by
  rintro rfl
  cases h

theorem read?_iri_eq_some {place : Place} (h : iriText.read? place cs = some (value, rest)) :
    ∃ raw, IriSource place cs value rest raw := by
  fun_induction Delimited.read? iriText place cs generalizing value with
  | case1 => cases h
  | case2 tail =>
      cases h
      exact ⟨[], rfl, by simp, Nat.le_refl _, fun _ _ => ⟨rfl, rfl⟩⟩
  | case3 tail hclose ih =>
      obtain ⟨raw, hsource⟩ := ih h
      exact ⟨_, hsource.skip_char hclose _⟩
  | case4 c tail hclose hescape hplain ih =>
      obtain ⟨value, hread, rfl⟩ := withFirst_eq_some h
      obtain ⟨raw, hsource⟩ := ih hread
      refine ⟨c :: raw, by rw [hsource.split, List.cons_append], ?_,
        Nat.succ_le_succ hsource.length_le, ?_⟩
      · rw [List.mem_cons, not_or]
        exact ⟨fun h => hclose h.symm, hsource.unclosed⟩
      · intro _ hlong
        obtain ⟨rfl, hall⟩ := hsource.same rfl (Nat.le_of_succ_le_succ hlong)
        exact ⟨rfl, by rw [List.all_cons, hall, Bool.and_true]; exact hplain⟩
  | case5 => cases h
  | case6 tail ih =>
      obtain ⟨raw, hsource⟩ := ih h
      exact ⟨_, hsource.skip_char (by decide) _⟩
  | case7 tail _ ih =>
      obtain ⟨raw, hsource⟩ := ih h
      exact ⟨_, hsource.skip_char (by decide) _⟩
  | case8 c tail _ _ meant hmeant => cases hmeant
  | case9 => cases h
  | case10 => cases h
  | case11 number c tail digit hdigit left ih =>
      obtain ⟨raw, hsource⟩ := ih h
      exact ⟨_, hsource.skip_char (ne_close_of_hexValue? hdigit) _⟩
  | case12 number c tail digit hdigit hvalid ih =>
      obtain ⟨value, hread, rfl⟩ := withFirst_eq_some h
      obtain ⟨raw, hsource⟩ := ih hread
      have hplace : Place.digits 0 number ≠ .plain := nofun
      exact ⟨_, hsource.end_escape (ne_close_of_hexValue? hdigit) _ hplace⟩
  | case13 => cases h

/-- A reader that gets an IRI back from its own brackets saw only characters that stand for
themselves. -/
theorem all_isIriChar_of_read? (h : iriText.read? .plain cs = some (value, left))
    (hcut : cs <+: value ++ '>' :: rest) : value.all isIriChar = true ∧ left <+: rest := by
  obtain ⟨raw, hsource⟩ := read?_iri_eq_some h
  obtain ⟨more, hmore⟩ := hcut
  rw [hsource.split, List.append_assoc, List.cons_append] at hmore
  have hsame : raw = value := by
    rcases List.append_eq_append_iff.mp hmore with ⟨tail, hvalue, -⟩ | ⟨tail, hraw, htail⟩
    · have hnil : tail = [] := by
        have hlength := hsource.length_le
        rw [hvalue, List.length_append] at hlength
        exact List.eq_nil_of_length_eq_zero (by omega)
      rw [hvalue, hnil, List.append_nil]
    · cases tail with
      | nil => rw [hraw, List.append_nil]
      | cons c tail =>
          have hclose : '>' = c := (List.cons.inj htail).1
          exact absurd (by rw [hraw, hclose]; simp) hsource.unclosed
  subst hsame
  have hleft := (List.cons.inj (List.append_cancel_left hmore)).2
  exact ⟨(hsource.same rfl (Nat.le_refl _)).2, more, hleft⟩

/-- What follows a delimited text does not change how it is read. -/
theorem read?_append {kind : Delimited} {place : Place}
    (h : kind.read? place cs = some (value, left)) (more : List Char) :
    kind.read? place (cs ++ more) = some (value, left ++ more) := by
  fun_induction Delimited.read? kind place cs generalizing value with
  | case1 => cases h
  | case2 tail =>
      cases h
      simp [Delimited.read?]
  | case4 c tail hclose hescape hplain ih =>
      obtain ⟨value, hread, rfl⟩ := withFirst_eq_some h
      rw [List.cons_append, Delimited.read?, if_neg hclose, if_neg hescape, if_pos hplain, ih hread]
      rfl
  | case3 tail hclose ih =>
      rw [List.cons_append, Delimited.read?, if_neg hclose, if_pos rfl, ih h]
  | case5 => cases h
  | case6 tail ih => rw [List.cons_append, Delimited.read?, if_pos rfl, ih h]
  | case7 tail _ ih =>
      rw [List.cons_append, Delimited.read?, if_neg (by decide), if_pos rfl, ih h]
  | case8 c tail hshort hlong meant hmeant ih =>
      obtain ⟨value, hread, rfl⟩ := withFirst_eq_some h
      rw [List.cons_append, Delimited.read?, if_neg hshort, if_neg hlong]
      simp only [hmeant, ih hread]
      rfl
  | case9 => cases h
  | case10 => cases h
  | case11 number c tail digit hdigit left ih =>
      rw [List.cons_append, Delimited.read?]
      simp only [hdigit, ih h]
  | case12 number c tail digit hdigit hvalid ih =>
      obtain ⟨value, hread, rfl⟩ := withFirst_eq_some h
      rw [List.cons_append, Delimited.read?]
      simp only [hdigit, if_pos hvalid, ih hread]
      rfl
  | case13 => cases h

/-- A reader that gets a value back from its written form stops where that ends. -/
theorem left_of_read?_escape (h : literalText.read? .plain cs = some (value, left))
    (hcut : cs <+: Term.escape value ++ '"' :: rest) : left <+: rest := by
  obtain ⟨more, hmore⟩ := hcut
  have hread := read?_append h more
  rw [hmore, read?_escape] at hread
  exact ⟨more, (Prod.mk.inj (Option.some.inj hread)).2.symm⟩

/-! ## Labels and tags -/

/-- What is read as a label is one, and is the beginning of what was there. -/
theorem readLabel?_eq_some (h : readLabel? cs = some (value, left)) :
    isLabel value = true ∧ cs = value ++ left := by
  cases cs with
  | nil => cases h
  | cons c rest =>
      by_cases hstarts : startsLabel c = true
      · rw [readLabel?, if_pos hstarts] at h
        obtain ⟨rfl, rfl⟩ := Prod.mk.inj (Option.some.inj h)
        have hbegins := dropTrailing_isPrefix (· == '.') (rest.takeWhile continuesLabel)
        have hall : (dropTrailing (· == '.') (rest.takeWhile continuesLabel)).all continuesLabel :=
          List.all_eq_true.mpr fun d hd =>
            List.all_eq_true.mp List.all_takeWhile d (hbegins.subset hd)
        have hlast : (dropTrailing (· == '.') (rest.takeWhile continuesLabel)).getLast? ≠
            some '.' := fun h => by cases getLast?_dropTrailing h
        constructor
        · simp [isLabel, hstarts, hall, hlast]
        · have hrest := hbegins.trans (List.takeWhile_prefix continuesLabel)
          rw [List.cons_append, List.prefix_iff_eq_append.mp hrest]
      · rw [readLabel?, if_neg hstarts] at h
        cases h

theorem readTag?_eq_some (h : readTag? cs = some (value, left)) :
    isTag value = true ∧ cs = value ++ left := by
  unfold readTag? at h
  split at h
  · rename_i htag
    cases h
    exact ⟨htag, List.takeWhile_append_dropWhile.symm⟩
  · cases h

/-! ## Terms -/

/-- Behind a term stands a space, and then the next one. -/
theorem skip_cut (hkind : term ≠ .defaultGraph)
    (hcut : cs <+: ' ' :: (term.encode.toList ++ rest)) :
    skip cs <+: term.encode.toList ++ rest := by
  obtain ⟨c, tail, hshape, hc⟩ := encode_starts_unspaced hkind
  rw [hshape] at hcut ⊢
  match cs with
  | [] => exact List.nil_prefix
  | [d] =>
      obtain ⟨rfl, -⟩ := List.cons_prefix_cons.mp hcut
      exact List.nil_prefix
  | d :: e :: more =>
      obtain ⟨rfl, hmore⟩ := List.cons_prefix_cons.mp hcut
      obtain ⟨rfl, -⟩ := List.cons_prefix_cons.mp hmore
      rwa [skip, List.dropWhile_cons_of_pos (by rfl), List.dropWhile_cons_of_neg (by simp [hc])]

theorem readIri?_eq_some (h : readIri? cs = some (term, left))
    (hcut : cs <+: term.encode.toList ++ rest) : term.IsWellFormed ∧ left <+: rest := by
  unfold readIri? at h
  split at h
  · rename_i tail
    obtain ⟨⟨value, left⟩, hread, hparts⟩ := Option.map_eq_some_iff.mp h
    cases hparts
    have hshape : (Term.iri (String.ofList value)).encode.toList ++ rest =
        '<' :: (value ++ '>' :: rest) := by
      simp [Term.encode]
    rw [hshape] at hcut
    obtain ⟨hall, hleft⟩ := all_isIriChar_of_read? hread (List.cons_prefix_cons.mp hcut).2
    exact ⟨by rwa [Term.IsWellFormed, String.toList_ofList], hleft⟩
  · cases h

theorem readBlankNode?_eq_some (h : readBlankNode? cs = some (term, left))
    (hcut : cs <+: term.encode.toList ++ rest) : term.IsWellFormed ∧ left <+: rest := by
  unfold readBlankNode? at h
  split at h
  · rename_i tail
    obtain ⟨⟨value, left⟩, hread, hparts⟩ := Option.map_eq_some_iff.mp h
    cases hparts
    obtain ⟨hlabel, htail⟩ := readLabel?_eq_some hread
    have hshape : (Term.blankNode (String.ofList value)).encode.toList ++ rest =
        '_' :: ':' :: (value ++ rest) := by
      simp [Term.encode]
    rw [hshape, htail] at hcut
    have hvalue := (List.cons_prefix_cons.mp (List.cons_prefix_cons.mp hcut).2).2
    exact ⟨by rwa [Term.IsWellFormed, String.toList_ofList],
      (List.prefix_append_right_inj value).mp hvalue⟩
  · cases h

theorem readResource?_eq_some (h : readResource? cs = some (term, left))
    (hcut : cs <+: term.encode.toList ++ rest) : term.IsWellFormed ∧ left <+: rest := by
  rcases Option.or_eq_some_iff.mp h with hiri | ⟨-, hblank⟩
  · exact readIri?_eq_some hiri hcut
  · exact readBlankNode?_eq_some hblank hcut

/-- A language behind the quotes of a literal is read as itself only where it is a tag. -/
theorem readAnnotation?_language {text tag : String} {datatype : Option String}
    (h : readAnnotation? text cs = some (.literal text datatype (some tag), left))
    (hcut : cs <+: '@' :: (tag.toList ++ rest)) :
    datatype = none ∧ isTag tag.toList = true ∧ left <+: rest := by
  cases cs with
  | nil => cases h
  | cons c more =>
      obtain ⟨rfl, hmore⟩ := List.cons_prefix_cons.mp hcut
      have h : (readTag? more).map (fun r =>
          (Term.literal text none (some (String.ofList r.1)), r.2)) =
          some (.literal text datatype (some tag), left) := h
      obtain ⟨⟨value, left⟩, hread, hparts⟩ := Option.map_eq_some_iff.mp h
      cases hparts
      obtain ⟨htag, hvalue⟩ := readTag?_eq_some hread
      rw [hvalue, String.toList_ofList] at hmore
      exact ⟨rfl, by rwa [String.toList_ofList], (List.prefix_append_right_inj value).mp hmore⟩

/-- A datatype behind the quotes of a literal is read as itself only where it is an IRI. -/
theorem readAnnotation?_datatype {text iri : String} {language : Option String}
    (h : readAnnotation? text cs = some (.literal text (some iri) language, left))
    (hcut : cs <+: '^' :: '^' :: '<' :: (iri.toList ++ '>' :: rest)) :
    iri.toList.all isIriChar = true ∧ left <+: rest := by
  match cs with
  | [] => cases h
  | [c] =>
      obtain ⟨rfl, -⟩ := List.cons_prefix_cons.mp hcut
      cases h
  | [c, d] =>
      obtain ⟨rfl, hsecond⟩ := List.cons_prefix_cons.mp hcut
      obtain ⟨rfl, -⟩ := List.cons_prefix_cons.mp hsecond
      cases h
  | c :: d :: e :: more =>
      obtain ⟨hc, hsecond⟩ := List.cons_prefix_cons.mp hcut
      obtain ⟨hd, hthird⟩ := List.cons_prefix_cons.mp hsecond
      obtain ⟨he, hmore⟩ := List.cons_prefix_cons.mp hthird
      rw [hc, hd, he] at h
      have h : (iriText.read? .plain more).map (fun r =>
          (Term.literal text (some (String.ofList r.1)) none, r.2)) =
          some (.literal text (some iri) language, left) := h
      obtain ⟨⟨value, left⟩, hread, hparts⟩ := Option.map_eq_some_iff.mp h
      cases hparts
      rw [String.toList_ofList] at hmore ⊢
      exact all_isIriChar_of_read? hread hmore

/-- With neither a language nor a datatype, nothing behind the quotes has been read. -/
theorem readAnnotation?_plain {text : String}
    (h : readAnnotation? text cs = some (.literal text none none, left)) : left = cs := by
  unfold readAnnotation? at h
  split at h
  · split at h
    · obtain ⟨_, _, hparts⟩ := Option.map_eq_some_iff.mp h
      cases hparts
    · cases h
  · obtain ⟨_, _, hparts⟩ := Option.map_eq_some_iff.mp h
    cases hparts
  · cases h
    rfl

theorem readAnnotation?_literal {text : String} (h : readAnnotation? text cs = some (term, left)) :
    ∃ datatype language, term = .literal text datatype language := by
  unfold readAnnotation? at h
  split at h
  · split at h
    · obtain ⟨_, _, hparts⟩ := Option.map_eq_some_iff.mp h
      cases hparts
      exact ⟨_, _, rfl⟩
    · cases h
  · obtain ⟨_, _, hparts⟩ := Option.map_eq_some_iff.mp h
    cases hparts
    exact ⟨_, _, rfl⟩
  · cases h
    exact ⟨_, _, rfl⟩

theorem readLiteral?_eq_some (h : readLiteral? cs = some (term, left))
    (hcut : cs <+: term.encode.toList ++ rest) : term.IsWellFormed ∧ left <+: rest := by
  unfold readLiteral? at h
  split at h
  · rename_i tail
    obtain ⟨⟨text, behind⟩, hread, h⟩ := Option.bind_eq_some_iff.mp h
    obtain ⟨datatype, language, rfl⟩ := readAnnotation?_literal h
    have hshape : (Term.literal (String.ofList text) datatype language).encode.toList ++ rest =
        '"' :: (Term.escape text ++ '"' :: (behindQuotes datatype language ++ rest)) := by
      simp [encode_literal_toList]
    rw [hshape] at hcut
    have hbehind := left_of_read?_escape hread (List.cons_prefix_cons.mp hcut).2
    cases language with
    | some tag =>
        obtain ⟨rfl, htag, hleft⟩ := readAnnotation?_language h hbehind
        exact ⟨⟨by simp, by simpa using htag, .inl rfl⟩, hleft⟩
    | none =>
        cases datatype with
        | none =>
            rw [readAnnotation?_plain h]
            exact ⟨⟨by simp, by simp, .inl rfl⟩, hbehind⟩
        | some iri =>
            have hshape : behindQuotes (some iri) none ++ rest =
                '^' :: '^' :: '<' :: (iri.toList ++ '>' :: rest) := by
              simp [behindQuotes]
            rw [hshape] at hbehind
            obtain ⟨hiri, hleft⟩ := readAnnotation?_datatype h hbehind
            exact ⟨⟨by simpa using hiri, by simp, .inr rfl⟩, hleft⟩
  · cases h

theorem readObject?_eq_some (h : readObject? cs = some (term, left))
    (hcut : cs <+: term.encode.toList ++ rest) : term.IsWellFormed ∧ left <+: rest := by
  rcases Option.or_eq_some_iff.mp h with hresource | ⟨-, hliteral⟩
  · exact readResource?_eq_some hresource hcut
  · exact readLiteral?_eq_some hliteral hcut

/-! ## Lines -/

theorem graph_wellFormed_of_readGraph? {cs left : List Char}
    (hkind : (term.isIri = true ∨ term.isBlank = true) ∨ term = .defaultGraph)
    (h : readGraph? cs = some (term, left)) (hcut : cs <+: graphPart term ++ rest) :
    term.IsWellFormed := by
  rcases hkind with hnamed | rfl
  · rw [graphPart_of_named hnamed, List.cons_append] at hcut
    unfold readGraph? at h
    split at h
    · cases h
      simp [Term.isIri, Term.isBlank] at hnamed
    · obtain ⟨⟨graph, behind⟩, hread, hstop⟩ := Option.bind_eq_some_iff.mp h
      obtain ⟨_, -, hparts⟩ := Option.map_eq_some_iff.mp hstop
      cases hparts
      exact (readResource?_eq_some hread (skip_cut (ne_defaultGraph hnamed) hcut)).1
  · trivial

variable {quad : Quad}

theorem wellFormed_of_readStatement? (hkinds : quad.HasAllowedKinds)
    (h : readStatement? cs = some (quad, left)) (hcut : cs <+: statement quad) :
    quad.IsWellFormed := by
  obtain ⟨⟨subject, behindSubject⟩, hsubject, h⟩ := Option.bind_eq_some_iff.mp h
  obtain ⟨⟨predicate, behindPredicate⟩, hpredicate, h⟩ := Option.bind_eq_some_iff.mp h
  obtain ⟨⟨object, behindObject⟩, hobject, h⟩ := Option.bind_eq_some_iff.mp h
  obtain ⟨⟨graph, behindGraph⟩, hgraph, hparts⟩ := Option.map_eq_some_iff.mp h
  cases hparts
  obtain ⟨hsubject, hcut⟩ := readResource?_eq_some hsubject hcut
  have hcut := skip_cut (ne_defaultGraph (.inl hkinds.predicate)) hcut
  obtain ⟨hpredicate, hcut⟩ := readIri?_eq_some hpredicate hcut
  have hcut := skip_cut hkinds.object hcut
  obtain ⟨hobject, hcut⟩ := readObject?_eq_some hobject hcut
  exact ⟨hkinds, hsubject, hpredicate, hobject,
    graph_wellFormed_of_readGraph? hkinds.graph hgraph hcut⟩

/-! ## Documents -/

/-- The first line of what is written of a statement; a term that holds a line end cuts it short. -/
def firstLine (quad : Quad) : List Char :=
  (document [quad]).takeWhile fun c => !isLineEnd c

theorem document_singleton (quad : Quad) : document [quad] = statement quad ++ ['\n'] := by
  simp [document]

theorem firstLine_isPrefix (quad : Quad) : firstLine quad <+: statement quad := by
  have hbegins := List.takeWhile_prefix (fun c => !isLineEnd c) (l := document [quad])
  rw [document_singleton] at hbegins
  rcases List.prefix_concat_iff.mp hbegins with hwhole | hcut
  · have hend : '\n' ∈ (statement quad ++ ['\n']).takeWhile (fun c => !isLineEnd c) := by
      rw [hwhole]
      simp
    have hnot := List.all_eq_true.mp List.all_takeWhile _ hend
    cases hnot
  · rwa [firstLine, document_singleton]

/-- The first line begins with the mark of the subject. -/
theorem firstLine_eq_cons (hkinds : quad.HasAllowedKinds) :
    ∃ c ∈ ['<', '_'], ∃ tail, firstLine quad = c :: tail := by
  obtain ⟨c, hc, tail, hshape⟩ := encode_eq_cons hkinds.subject
  have hnot : isLineEnd c = false :=
    any_eq_false_iff.mp (by decide) c hc
  rw [firstLine, document_singleton, statement, hshape, List.cons_append, List.cons_append,
    List.takeWhile_cons_of_pos (by simp [hnot])]
  exact ⟨c, hc, _, rfl⟩

theorem firstLine_not_at_end (hkinds : quad.HasAllowedKinds) :
    isAtEnd (firstLine quad) = false ∧ skip (firstLine quad) = firstLine quad := by
  obtain ⟨c, hc, tail, hshape⟩ := firstLine_eq_cons hkinds
  have hc : c = '<' ∨ c = '_' := by simpa using hc
  rw [hshape]
  rcases hc with rfl | rfl <;> exact ⟨rfl, rfl⟩

/-- The only statement of some lines stands on the first of them, if that is not empty. -/
theorem readStatement?_of_readLines? {line : List Char} {others : List (List Char)}
    (hline : isAtEnd line = false) (h : readLines? (line :: others) = some [quad]) :
    ∃ left, readStatement? (skip line) = some (quad, left) := by
  rw [readLines?, readLine?, hline, if_neg (by decide)] at h
  cases hread : readStatement? (skip line) with
  | none => simp [hread] at h
  | some result =>
      obtain ⟨found, left⟩ := result
      simp only [hread] at h
      by_cases hend : isAtEnd left = true
      · rw [if_pos hend] at h
        cases hothers : readLines? others with
        | none => simp [hothers] at h
        | some quads =>
            simp only [hothers, Option.toList_some, List.cons_append, Option.some.injEq,
              List.cons.injEq] at h
            exact ⟨left, by rw [h.1]⟩
      · simp [hend] at h

theorem wellFormed_of_read? (hkinds : quad.HasAllowedKinds)
    (h : read? (String.ofList (document [quad])) = some [quad]) : quad.IsWellFormed := by
  obtain ⟨others, hpieces⟩ := pieces_eq_cons isLineEnd (document [quad])
  rw [read?, String.toList_ofList, hpieces] at h
  obtain ⟨hline, hskip⟩ := firstLine_not_at_end hkinds
  obtain ⟨left, hread⟩ := readStatement?_of_readLines? hline h
  exact wellFormed_of_readStatement? hkinds (hskip ▸ hread) (firstLine_isPrefix quad)

/-- A statement is read back from its own line exactly where it is well-formed. -/
theorem read?_document_iff (hkinds : quad.HasAllowedKinds) :
    read? (String.ofList (document [quad])) = some [quad] ↔ quad.IsWellFormed := by
  constructor
  · exact wellFormed_of_read? hkinds
  · intro h
    exact read?_document (by simpa using h)

end Quadlink.NQuads
