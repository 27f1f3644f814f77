import Quadlink.Proofs.Content.Acceptance

/-!
# Texts of result tables

The ways to write a table of terms in the JSON format of query results, whoever writes it: an object
whose results are an object whose bindings are an array of rows, with the members of all these
objects in any order, other members among them, and white space anywhere (`IsTableText`). However a
table is written, it is read, and a single bound value of an unknown type spoils all of it
(`table_is_read`).

A relation says how one thing is written, and a lemma beside it that it is read: optional texts,
bound values, rows. Rows of terms and rows of bound values are written alike, so rows and tables are
parametrized by what is written in them.
-/

namespace Quadlink

open Json.Document

/-! ## Bound values -/

/-- The ways to write a text that may be missing: it can be left out, or be `null`. The two are read
alike. -/
inductive IsOptionalText : Option String → Option Json.Document → Prop where
  | missing {found : Option Json.Document} (h : IsVoid found) : IsOptionalText none found
  | present {value : String} {document : Json.Document} (h : IsJsonString value document) :
      IsOptionalText (some value) (some document)

/-- The ways to write a bound value. Its members can come in any order, and others among them, which
are not looked at. -/
def Results.BoundValue.IsWritten (bound : BoundValue) (document : Json.Document) : Prop :=
  ∃ entries kind value, document.HasEntries entries
    ∧ lookupEntry "type" entries = some kind ∧ IsJsonString bound.kind kind
    ∧ lookupEntry "value" entries = some value ∧ IsJsonString bound.value value
    ∧ IsOptionalText bound.datatype (lookupEntry "datatype" entries)
    ∧ IsOptionalText bound.language (lookupEntry "xml:lang" entries)

/-- The bound values that stand for a term. A literal has one of two types. -/
inductive Term.IsBoundAs : Term → Results.BoundValue → Prop where
  | iri {value : String} {datatype language : Option String} :
      IsBoundAs (.iri value) ⟨"uri", value, datatype, language⟩
  | blankNode {label : String} {datatype language : Option String} :
      IsBoundAs (.blankNode label) ⟨"bnode", label, datatype, language⟩
  | literal {kind value : String} {datatype language : Option String}
      (hkind : kind ∈ ["literal", "typed-literal"]) :
      IsBoundAs (.literal value datatype language) ⟨kind, value, datatype, language⟩

def Term.IsWritten (term : Term) (document : Json.Document) : Prop :=
  ∃ bound, term.IsBoundAs bound ∧ bound.IsWritten document

variable {α : Type} {R : α → Json.Document → Prop} {document : Json.Document} {term : Term}

theorem IsOptionalText.read_eq {given : Option String} {found : Option Json.Document}
    (h : IsOptionalText given found) : orElse? none (nullable? text?) found = some given := by
  cases h with
  | missing h => exact optional_eq_none_iff.mpr h
  | present h =>
      refine optional_eq_some_iff.mpr ⟨_, rfl, ?_, text?_eq h⟩
      obtain ⟨_, -, rfl⟩ := h
      exact nofun

namespace Results

variable {bound : BoundValue}

theorem BoundValue.IsWritten.read?_eq (h : bound.IsWritten document) :
    BoundValue.read? document = some bound := by
  obtain ⟨entries, kind, value, hentries, hkind, hkindText, hvalue, hvalueText, hdatatype,
    hlanguage⟩ := h
  rw [BoundValue.read?, hentries.fields?_eq]
  simp only [List.map_cons, List.map_nil, hkind, hvalue, required?, text?_eq hkindText,
    text?_eq hvalueText, hdatatype.read_eq, hlanguage.read_eq]
  rfl

theorem term_of_isBoundAs (h : term.IsBoundAs bound) : bound.term = .ok term := by
  cases h with
  | iri => rfl
  | blankNode => rfl
  | literal hkind =>
      simp only [List.mem_cons, List.not_mem_nil, or_false] at hkind
      rcases hkind with rfl | rfl <;> rfl

/-! ## Rows and tables -/

/-- The ways to write a row: its variables are the names of an object, in any order. A variable that
the row does not bind is missing. -/
def IsRow (R : α → Json.Document → Prop) (row : NameMap α) (document : Json.Document) : Prop :=
  ∃ entries, document.HasEntries entries
    ∧ ∀ name, Option.Rel R (row.get? name) (lookupEntry name entries)

/-- The documents that hold a table with some rows and no boolean. What else they hold does not
matter, and may be anything that can be written. -/
def IsTable (R : α → Json.Document → Prop) (rows : List (NameMap α)) (document : Json.Document) :
    Prop :=
  ∃ entries results parts bindings, document.HasEntries entries
    ∧ IsVoid (lookupEntry "boolean" entries) ∧ lookupEntry "results" entries = some results
    ∧ results.HasEntries parts ∧ lookupEntry "bindings" parts = some (.array bindings)
    ∧ List.Forall₂ (IsRow R) rows bindings

/-- The texts of a table with some rows. -/
def IsTableText (R : α → Json.Document → Prop) (rows : List (NameMap α)) (text : String) : Prop :=
  ∃ document, IsTable R rows document ∧ Json.IsText document.tokens text.toList

theorem IsRow.map?_eq {row : NameMap BoundValue} (h : IsRow BoundValue.IsWritten row document) :
    document.map? BoundValue.read? = some row := by
  obtain ⟨entries, hentries, hrow⟩ := h
  exact hentries.map?_eq hrow fun _ _ hwritten => hwritten.read?_eq

theorem IsTable.holdsTable {rows : List (NameMap α)} (h : IsTable R rows document) :
    ∃ bindings, HoldsTable document (some bindings) ∧ List.Forall₂ (IsRow R) rows bindings := by
  obtain ⟨entries, results, parts, bindings, hentries, hboolean, hresults, hparts, hbindings,
    hrows⟩ := h
  have hfields := hentries.fields?_eq ["results", "boolean"]
  have hbody := hparts.fields?_eq ["bindings"]
  rw [List.map_cons, hresults] at hfields
  rw [List.map_cons, hbindings] at hbody
  exact ⟨bindings, .body hfields hboolean hbody, hrows⟩

/-! ## Rows of terms -/

/-- A list can be read where each of its items can. -/
theorem exists_mapM_eq_ok_iff {β γ : Type} {read : β → Except Failure γ} {items : List β} :
    (∃ values, items.mapM read = .ok values) ↔ ∀ item ∈ items, ∃ value, read item = .ok value := by
  constructor
  · rintro ⟨values, hvalues⟩
    have hread := mapM_eq_ok_iff.mp hvalues
    clear hvalues
    induction hread with
    | nil => exact nofun
    | cons hfirst _ ih => exact List.forall_mem_cons.mpr ⟨⟨_, hfirst⟩, ih⟩
  · intro h
    cases hread : items.mapM read with
    | ok values => exact ⟨values, rfl⟩
    | error failure =>
        obtain ⟨item, hitem, hfailure⟩ := exists_mem_of_mapM_eq_error hread
        obtain ⟨value, hvalue⟩ := h item hitem
        rw [hvalue] at hfailure
        cases hfailure

/-- A row of bound values that all stand for terms is a row of these terms. -/
theorem rowTerms_eq_ok {bounds : NameMap BoundValue} {row : Row}
    (h : ∀ name, Option.Rel (fun term bound => bound.term = .ok term) (row.get? name)
      (bounds.get? name)) : rowTerms bounds = .ok row := by
  have hall : ∀ entry ∈ bounds.entries,
      ∃ pair, entry.2.term.map (fun term => (entry.1, term)) = .ok pair := by
    intro entry hentry
    obtain ⟨term, -, hterm⟩ := exists_of_rel bounds.nodup_names h hentry
    exact ⟨(entry.1, term), by rw [hterm]; rfl⟩
  obtain ⟨pairs, hpairs⟩ := exists_mapM_eq_ok_iff.mpr hall
  have hsame : List.Forall₂ (fun pair entry => pair.1 = entry.1 ∧ entry.2.term = .ok pair.2)
      pairs bounds.entries := by
    refine (mapM_eq_ok_iff.mp hpairs).flip.imp fun pair entry hpair => ?_
    obtain ⟨term, hterm, rfl⟩ := map_eq_ok hpair
    exact ⟨rfl, hterm⟩
  have hunique : ∀ (a b : Term) (c : BoundValue), c.term = .ok a → c.term = .ok b → a = b :=
    fun _ _ _ ha hb => Except.ok.inj (ha.symm.trans hb)
  have hrow := NameMap.rel_ofList (R := fun (term : Term) (bound : BoundValue) => bound.term = .ok term)
    bounds.nodup_names hsame
  rw [rowTerms, entryTerms_eq_mapM, hpairs]
  exact congrArg Except.ok (NameMap.eq_of_rel hunique hrow h)

theorem IsRow.givesRow {row : Row} (h : IsRow Term.IsWritten row document) :
    GivesRow document row := by
  obtain ⟨entries, hentries, hrow⟩ := h
  obtain ⟨bounds, hbounds, hread⟩ := hentries.exists_map? fun entry hentry =>
    have ⟨_, _, bound, _, hwritten⟩ := exists_of_rel hentries.1 hrow hentry
    ⟨bound, hwritten.read?_eq⟩
  refine ⟨bounds, hbounds, rowTerms_eq_ok fun name => ?_⟩
  have hrow := hrow name
  have hread := hread name
  generalize lookupEntry name entries = found at hrow hread
  generalize row.get? name = answer at hrow ⊢
  generalize bounds.get? name = bound at hread ⊢
  cases hrow with
  | none =>
      cases hread
      exact .none
  | some hwritten =>
      obtain ⟨bound, hbound, hwritten⟩ := hwritten
      obtain ⟨hread⟩ := hread
      cases hwritten.read?_eq.symm.trans hread
      exact .some (term_of_isBoundAs hbound)

/-! ## Values of unknown types -/

theorem kind_mem_of_term_eq_ok {bound : BoundValue} (h : bound.term = .ok term) :
    bound.kind ∈ termKinds := by
  unfold BoundValue.term at h
  simp only [termKinds, List.mem_cons, List.not_mem_nil, or_false]
  split at h
  · exact .inl ‹_›
  · split at h
    · exact .inr (.inl ‹_›)
    · split at h
      · exact .inr (.inr ‹_›)
      · cases h

/-- A row of terms has no value of an unknown type. -/
theorem kind_mem_of_rowTerms_eq_ok {bounds : NameMap BoundValue} {row : Row} {name : String}
    {bound : BoundValue} (h : rowTerms bounds = .ok row) (hbound : bounds.get? name = some bound) :
    bound.kind ∈ termKinds := by
  obtain ⟨pairs, hpairs, -⟩ := map_eq_ok h
  rw [entryTerms_eq_mapM] at hpairs
  obtain ⟨_, hpair⟩ :=
    exists_mapM_eq_ok_iff.mp ⟨pairs, hpairs⟩ (name, bound) (mem_of_lookupEntry hbound)
  obtain ⟨term, hterm, -⟩ := map_eq_ok hpair
  exact kind_mem_of_term_eq_ok hterm

/-- Bound values that are not all of known types are refused for one that is not. -/
theorem mapM_rowTerms_eq_error {rows : List (NameMap BoundValue)}
    (h : ∃ row ∈ rows, ∃ name bound, row.get? name = some bound ∧ bound.kind ∉ termKinds) :
    ∃ row ∈ rows, ∃ name bound, row.get? name = some bound ∧ bound.kind ∉ termKinds
      ∧ rows.mapM rowTerms = .error (.parse (.badBindingType bound.kind)) := by
  obtain ⟨row, hrow, name, bound, hbound, hkind⟩ := h
  cases hread : rows.mapM rowTerms with
  | ok found =>
      obtain ⟨terms, hterms⟩ := exists_mapM_eq_ok_iff.mp ⟨found, hread⟩ row hrow
      exact absurd (kind_mem_of_rowTerms_eq_ok hterms hbound) hkind
  | error failure =>
      obtain ⟨row, hrow, hfailure⟩ := exists_mem_of_mapM_eq_error hread
      obtain ⟨entry, hentry, hkind, rfl⟩ := rowTerms_eq_error hfailure
      exact ⟨row, hrow, entry.1, entry.2, lookupEntry_of_mem row.nodup_names hentry, hkind, rfl⟩

/-! ## Columns -/

/-- The values of a variable, in the order of the rows that bind it. -/
theorem forall₂_column (rows : List Row) (name : String) :
    List.Forall₂ (fun row term => row.get? name = some term)
      (rows.filter fun row => row.contains name) (column rows name) := by
  induction rows with
  | nil => exact .nil
  | cons row rest ih =>
      rw [column, List.filterMap_cons]
      cases hget : row.get? name with
      | none =>
          rw [List.filter_cons_of_neg (by simp [NameMap.contains, hget])]
          exact ih
      | some term =>
          rw [List.filter_cons_of_pos (by simp [NameMap.contains, hget])]
          exact .cons hget ih

/-! ## Texts -/

/-- However a table of terms is written, its rows are what it is read as, in their order, and the
values of a variable are those of the rows that bind it. A single value of an unknown type makes the
reader refuse all of it. -/
theorem table_is_read :
    (∀ (rows : List Row) (text : String), IsTableText Term.IsWritten rows text →
        parse (Text.encode text) = .ok (.table rows) ∧ parseRows (Text.encode text) = .ok rows
          ∧ ∀ name, List.Forall₂ (fun row term => row.get? name = some term)
              (rows.filter fun row => row.contains name) (column rows name))
      ∧ ∀ (rows : List (NameMap BoundValue)) (text : String),
          IsTableText BoundValue.IsWritten rows text →
          (∃ row ∈ rows, ∃ name bound, row.get? name = some bound ∧ bound.kind ∉ termKinds) →
            ∃ row ∈ rows, ∃ name bound, row.get? name = some bound ∧ bound.kind ∉ termKinds
              ∧ parse (Text.encode text) = .error (.parse (.badBindingType bound.kind))
              ∧ parseRows (Text.encode text) = .error (.parse (.badBindingType bound.kind)) := by
  constructor
  · rintro rows text ⟨document, htable, htext⟩
    obtain ⟨bindings, hholds, hrows⟩ := htable.holdsTable
    have hgives : List.Forall₂ GivesRow bindings rows := hrows.flip.imp fun _ _ => IsRow.givesRow
    have hparse : parse (Text.encode text) = .ok (.table rows) := parse_eq_table_iff.mpr
      ⟨document, some bindings, Json.Document.parse_encodeChars htext, hholds, hgives⟩
    exact ⟨hparse, parseRows_eq_ok_iff.mpr hparse, forall₂_column rows⟩
  · rintro rows text ⟨document, htable, htext⟩ hunknown
    obtain ⟨bindings, hholds, hrows⟩ := htable.holdsTable
    have hread : bindings.mapM (map? BoundValue.read?) = some rows :=
      mapM_eq_some_iff.mpr (hrows.flip.imp fun _ _ => IsRow.map?_eq)
    have hsheet := sheet_read?_iff.mpr ⟨some bindings, hholds, hread⟩
    obtain ⟨row, hrow, name, bound, hbound, hkind, hfailure⟩ := mapM_rowTerms_eq_error hunknown
    have hparse : parse (Text.encode text) = .error (.parse (.badBindingType bound.kind)) := by
      rw [Text.encode, parse_of_sheet (by rw [Json.Document.parse_encodeChars htext]; exact hsheet),
        hfailure]
      rfl
    exact ⟨row, hrow, name, bound, hbound, hkind, hparse, by rw [parseRows, hparse]; rfl⟩

section Sample

variable {kind : String}

/-- A letter by its code point. -/
theorem isBody_sample : Json.IsBody "A".toList ['\\', 'u', '0', '0', '4', '1'] :=
  .cons (.unit (by decide)) .nil

def sampleBound (kind : String) : Json.Document :=
  writtenObject [("value", .string (Text.encodeChars ['\\', 'u', '0', '0', '4', '1'])),
    ("type", writtenString kind)]

theorem isWritten_sampleBound (kind : String) :
    BoundValue.IsWritten ⟨kind, "A", none, none⟩ (sampleBound kind) := by
  refine ⟨_, writtenString kind, _, hasEntries_writtenObject (by simp), rfl,
    isJsonString_writtenString kind, rfl, ⟨_, isBody_sample, rfl⟩, .missing (.inl rfl),
    .missing (.inl rfl)⟩

/-- A table that binds one variable in one row, behind a member that does not matter. -/
def sampleTable (kind : String) : Json.Document :=
  writtenObject [("head", .array []),
    ("results", writtenObject [("bindings", .array [writtenObject [("s", sampleBound kind)]])])]

def sampleText (kind : String) : String :=
  String.ofList ('\x7b' :: ((Json.quoted "head").toList ++ ':' :: '[' :: ' ' :: ']' :: ',' ::
    ((Json.quoted "results").toList ++ ':' :: '\x7b' :: ((Json.quoted "bindings").toList ++
      ':' :: '[' :: '\x7b' :: ((Json.quoted "s").toList ++ ':' :: '\x7b' ::
        ((Json.quoted "value").toList ++ ':' :: ('"' :: (['\\', 'u', '0', '0', '4', '1'] ++ ['"']) ++
          ',' :: ((Json.quoted "type").toList ++ ':' :: ((Json.quoted kind).toList ++
            ['\x7d', '\x7d', ']', '\x7d', '\x7d', '\n'])))))))))

theorem isText_sampleTable (kind : String) :
    Json.IsText (sampleTable kind).tokens (sampleText kind).toList := by
  have hclosed : Json.IsText _ ['\x7d', '\x7d', ']', '\x7d', '\x7d', '\n'] :=
    .mark (by decide : (.closeBrace, '\x7d') ∈ Json.marks)
      (.mark (by decide : (.closeBrace, '\x7d') ∈ Json.marks)
        (.mark (by decide : (.closeBracket, ']') ∈ Json.marks)
          (.mark (by decide : (.closeBrace, '\x7d') ∈ Json.marks)
            (.mark (by decide : (.closeBrace, '\x7d') ∈ Json.marks)
              (.space (by decide : '\n' ∈ Json.spaces) (@Json.IsText.nil [] nofun))))))
  have hkind := isText_string "type" (.mark (by decide : (.colon, ':') ∈ Json.marks)
    (isText_string kind hclosed))
  have hvalue := isText_string "value" (.mark (by decide : (.colon, ':') ∈ Json.marks)
    (isText_body isBody_sample (.mark (by decide : (.comma, ',') ∈ Json.marks) hkind)))
  have hrow := isText_string "s" (.mark (by decide : (.colon, ':') ∈ Json.marks)
    (.mark (by decide : (.openBrace, '\x7b') ∈ Json.marks) hvalue))
  have hbindings := isText_string "bindings" (.mark (by decide : (.colon, ':') ∈ Json.marks)
    (.mark (by decide : (.openBracket, '[') ∈ Json.marks)
      (.mark (by decide : (.openBrace, '\x7b') ∈ Json.marks) hrow)))
  have hresults := isText_string "results" (.mark (by decide : (.colon, ':') ∈ Json.marks)
    (.mark (by decide : (.openBrace, '\x7b') ∈ Json.marks) hbindings))
  have hhead := isText_string "head" (.mark (by decide : (.colon, ':') ∈ Json.marks)
    (.mark (by decide : (.openBracket, '[') ∈ Json.marks)
      (.space (by decide : ' ' ∈ Json.spaces) (.mark (by decide : (.closeBracket, ']') ∈ Json.marks)
        (.mark (by decide : (.comma, ',') ∈ Json.marks) hresults)))))
  have hopened := Json.IsText.mark (by decide : (.openBrace, '\x7b') ∈ Json.marks) hhead
  rw [sampleText, String.toList_ofList]
  exact hopened

theorem isTableText_sample {value : α} (h : R value (sampleBound kind)) :
    IsTableText R [NameMap.empty.insert "s" value] (sampleText kind) := by
  have hrow : IsRow R (NameMap.empty.insert "s" value) (writtenObject [("s", sampleBound kind)]) := by
    refine ⟨_, hasEntries_writtenObject (by simp), fun name => ?_⟩
    rw [NameMap.get?_insert]
    by_cases hname : name = "s"
    · rw [if_pos hname, lookupEntry, if_pos hname]
      exact .some h
    · rw [if_neg hname, lookupEntry, if_neg hname]
      exact .none
  exact ⟨sampleTable kind, ⟨_, _, _, _, hasEntries_writtenObject (by simp), .inl rfl, rfl,
    hasEntries_writtenObject (by simp), rfl, .cons hrow .nil⟩, isText_sampleTable kind⟩

end Sample

/-- A literal of the older type, and a value of a type that is no term's. -/
theorem sample_is_read :
    parse (Text.encode (sampleText "typed-literal")) =
        .ok (.table [NameMap.empty.insert "s" (.literal "A" none none)])
      ∧ parse (Text.encode (sampleText "triple")) = .error (.parse (.badBindingType "triple")) := by
  have hliteral : (Term.literal "A" none none).IsWritten (sampleBound "typed-literal") :=
    ⟨_, .literal (by decide), isWritten_sampleBound "typed-literal"⟩
  refine ⟨(table_is_read.1 _ _ (isTableText_sample hliteral)).1, ?_⟩
  have htriple := table_is_read.2 _ _ (isTableText_sample (isWritten_sampleBound "triple"))
    ⟨_, List.mem_singleton.mpr rfl, "s", _, rfl, by decide⟩
  obtain ⟨row, hrow, name, bound, hbound, hkind, hparse, -⟩ := htriple
  obtain rfl := List.mem_singleton.mp hrow
  rw [NameMap.get?_insert] at hbound
  split at hbound
  · cases hbound
    exact hparse
  · cases hbound

example : sampleText "uri" =
    "\x7b\"head\":[ ],\"results\":\x7b\"bindings\":" ++
      "[\x7b\"s\":\x7b\"value\":\"\\u0041\",\"type\":\"uri\"\x7d\x7d]\x7d\x7d\n" := by
  decide

end Results

end Quadlink
