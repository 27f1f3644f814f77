import Quadlink.Client.Server
import Quadlink.Proofs.Client.Plans
import Quadlink.Proofs.Json.Writing

/-!
# Documents that are read as tables

Reading a table is lenient about where it stands. A document without results, with `null` for them
or without bindings in them counts as a table without rows, and records may be arrays of their
fields (`HoldsTable`). `parseRows_eq_ok_iff` says which bytes are accepted and what comes of them;
nothing but faults of the reply comes of all others.

`accepted_iff` sets this against the shape that the format has for the result of a query
(`IsSelect`), and says what a list of namespaces, graphs or repositories is when there is no table.
-/

namespace Quadlink.Results

open Json.Document

variable {document : Json.Document} {elements : Option (List Json.Document)} {rows : List Row}
  {bytes : Bytes}

/-! ## Lists that are read item by item -/

section Lists

variable {α β : Type} {read : α → Except Failure β} {items : List α}

theorem map_eq_error {first : Except Failure α} {f : α → β} {failure : Failure}
    (h : first.map f = .error failure) : first = .error failure := by
  cases first with
  | error fault =>
      cases h
      rfl
  | ok value => cases h

theorem mapM_eq_ok_iff {values : List β} : items.mapM read = .ok values
    ↔ List.Forall₂ (fun item value => read item = .ok value) items values := by
  induction items generalizing values with
  | nil =>
      constructor
      · rintro ⟨⟩
        exact .nil
      · rintro ⟨⟩
        rfl
  | cons item rest ih =>
      rw [List.mapM_cons, List.forall₂_cons_left_iff]
      constructor
      · intro h
        obtain ⟨value, hvalue, h⟩ := bind_eq_ok h
        obtain ⟨others, hothers, h⟩ := bind_eq_ok h
        cases h
        exact ⟨value, others, hvalue, ih.mp hothers, rfl⟩
      · rintro ⟨value, others, hvalue, hothers, rfl⟩
        rw [hvalue, ih.mpr hothers]
        rfl

theorem exists_mem_of_mapM_eq_error {failure : Failure} (h : items.mapM read = .error failure) :
    ∃ item ∈ items, read item = .error failure := by
  induction items with
  | nil => cases h
  | cons item rest ih =>
      rw [List.mapM_cons] at h
      cases hitem : read item with
      | error fault =>
          rw [hitem] at h
          cases h
          exact ⟨item, List.mem_cons_self, hitem⟩
      | ok value =>
          cases hrest : rest.mapM read with
          | error fault =>
              rw [hitem, hrest] at h
              cases h
              obtain ⟨found, hfound, hfault⟩ := ih hrest
              exact ⟨found, List.mem_cons_of_mem _ hfound, hfault⟩
          | ok values =>
              rw [hitem, hrest] at h
              cases h

end Lists

/-! ## Rows -/

def termKinds : List String := ["uri", "bnode", "literal", "typed-literal"]

theorem BoundValue.term_eq_error {bound : BoundValue} {failure : Failure}
    (h : bound.term = .error failure) :
    bound.kind ∉ termKinds ∧ failure = .parse (.badBindingType bound.kind) := by
  unfold BoundValue.term at h
  split at h
  · cases h
  · split at h
    · cases h
    · split at h
      · cases h
      · rename_i huri hbnode hliteral
        cases h
        refine ⟨?_, rfl⟩
        simp only [termKinds, List.mem_cons, List.not_mem_nil, or_false, not_or]
        exact ⟨huri, hbnode, not_or.mp hliteral⟩

theorem entryTerms_eq_mapM (entries : List (String × BoundValue)) :
    entryTerms entries = entries.mapM fun entry => entry.2.term.map fun term => (entry.1, term) := by
  induction entries with
  | nil => rfl
  | cons entry rest ih =>
      obtain ⟨name, bound⟩ := entry
      rw [entryTerms, ih, List.mapM_cons]
      cases bound.term <;> rfl

/-- A row fails only for a value of an unknown type. -/
theorem rowTerms_eq_error {bounds : NameMap BoundValue} {failure : Failure}
    (h : rowTerms bounds = .error failure) : ∃ entry ∈ bounds.entries,
      entry.2.kind ∉ termKinds ∧ failure = .parse (.badBindingType entry.2.kind) := by
  rw [rowTerms, entryTerms_eq_mapM] at h
  obtain ⟨entry, hentry, h⟩ := exists_mem_of_mapM_eq_error (map_eq_error h)
  exact ⟨entry, hentry, BoundValue.term_eq_error (map_eq_error h)⟩

/-! ## Where a table stands -/

/-- What is read as a table, with the elements of its bindings if it has any. -/
def HoldsElements (body : Json.Document) (elements : Option (List Json.Document)) : Prop :=
  body.fields? ["bindings"] false = some [elements.map .array]

/-- What is read as a document with a table and without a boolean, with the elements of the table if
there is one and it has any. -/
inductive HoldsTable (document : Json.Document) : Option (List Json.Document) → Prop where
  | missing {results boolean : Option Json.Document}
      (hfields : document.fields? ["results", "boolean"] false = some [results, boolean])
      (hboolean : IsVoid boolean) (hresults : IsVoid results) : HoldsTable document none
  | body {body : Json.Document} {boolean : Option Json.Document}
      {elements : Option (List Json.Document)}
      (hfields : document.fields? ["results", "boolean"] false = some [some body, boolean])
      (hboolean : IsVoid boolean) (hbody : HoldsElements body elements) :
      HoldsTable document elements

def GivesRow (element : Json.Document) (row : Row) : Prop :=
  ∃ bounds, element.map? BoundValue.read? = some bounds ∧ rowTerms bounds = .ok row

theorem readTable?_eq_some_iff {tables : List (NameMap BoundValue)} :
    readTable? document = some tables ↔ ∃ elements, HoldsElements document elements
      ∧ (elements.getD []).mapM (map? BoundValue.read?) = some tables := by
  constructor
  · intro h
    unfold readTable? at h
    split at h
    · rename_i bindings hfields
      cases bindings with
      | none => exact ⟨none, hfields, h⟩
      | some bindings =>
          obtain ⟨items, hitems, h⟩ := Option.bind_eq_some_iff.mp h
          cases bindings with
          | array elements =>
              cases hitems
              exact ⟨some _, hfields, h⟩
          | null => cases hitems
          | bool _ => cases hitems
          | number _ => cases hitems
          | string _ => cases hitems
          | object _ => cases hitems
    · cases h
  · rintro ⟨elements, hfields, h⟩
    rw [readTable?, hfields]
    cases elements with
    | none => exact h
    | some elements => exact h

theorem HoldsElements.ne_null (h : HoldsElements document elements) : document ≠ .null := by
  rintro rfl
  cases h

theorem sheet_read?_eq {results boolean : Option Json.Document}
    (hfields : document.fields? ["results", "boolean"] false = some [results, boolean]) :
    Sheet.read? document = (orElse? none (nullable? readTable?) results).bind fun tables =>
      (orElse? none (nullable? bool?) boolean).map fun boolean => ⟨tables.getD [], boolean⟩ := by
  rw [Sheet.read?, hfields]
  exact Option.bind_congr fun tables _ => (Option.map_eq_bind).symm

/-- A document is read without a boolean where it holds a table. -/
theorem sheet_read?_iff {tables : List (NameMap BoundValue)} :
    Sheet.read? document = some ⟨tables, none⟩ ↔ ∃ elements, HoldsTable document elements
      ∧ (elements.getD []).mapM (map? BoundValue.read?) = some tables := by
  constructor
  · intro h
    have hall := h
    unfold Sheet.read? at h
    split at h
    · rename_i results boolean hfields
      rw [sheet_read?_eq hfields] at hall
      obtain ⟨found, hfound, hall⟩ := Option.bind_eq_some_iff.mp hall
      obtain ⟨answer, hanswer, hall⟩ := Option.map_eq_some_iff.mp hall
      cases hall
      have hboolean := optional_eq_none_iff.mp hanswer
      cases found with
      | none => exact ⟨none, .missing hfields hboolean (optional_eq_none_iff.mp hfound), rfl⟩
      | some tables =>
          obtain ⟨body, rfl, -, hbody⟩ := optional_eq_some_iff.mp hfound
          obtain ⟨elements, helements, htables⟩ := readTable?_eq_some_iff.mp hbody
          exact ⟨elements, .body hfields hboolean helements, htables⟩
    · cases h
  · rintro ⟨elements, hholds, htables⟩
    cases hholds with
    | missing hfields hboolean hresults =>
        cases htables
        rw [sheet_read?_eq hfields, optional_eq_none_iff.mpr hresults,
          optional_eq_none_iff.mpr hboolean]
        rfl
    | body hfields hboolean hbody =>
        have hresults := optional_eq_some_iff.mpr
          ⟨_, rfl, hbody.ne_null, readTable?_eq_some_iff.mpr ⟨elements, hbody, htables⟩⟩
        rw [sheet_read?_eq hfields, hresults, optional_eq_none_iff.mpr hboolean]
        rfl

/-! ## What is accepted -/

theorem forall₂_givesRow_iff {elements : List Json.Document} :
    List.Forall₂ GivesRow elements rows ↔ ∃ tables,
      elements.mapM (map? BoundValue.read?) = some tables ∧ tables.mapM rowTerms = .ok rows := by
  simp only [mapM_eq_some_iff, mapM_eq_ok_iff]
  constructor
  · intro h
    induction h with
    | nil => exact ⟨[], .nil, .nil⟩
    | cons hfirst _ ih =>
        obtain ⟨bounds, hbounds, hrow⟩ := hfirst
        obtain ⟨tables, hread, hrows⟩ := ih
        exact ⟨bounds :: tables, .cons hbounds hread, .cons hrow hrows⟩
  · rintro ⟨tables, hread, hrows⟩
    induction hread generalizing rows with
    | nil =>
        cases hrows
        exact .nil
    | cons hbounds _ ih =>
        cases hrows with
        | cons hrow hothers => exact .cons ⟨_, hbounds, hrow⟩ (ih hothers)

/-- What becomes of bindings that are read, where there is no boolean. -/
theorem parse_of_sheet {tables : List (NameMap BoundValue)}
    (h : (Json.Document.parse bytes).bind Sheet.read? = some ⟨tables, none⟩) :
    parse bytes = (tables.mapM rowTerms).map .table := by
  rw [parse, h]

/-- A table is what comes of a document that holds one, all of whose elements give rows. -/
theorem parse_eq_table_iff : parse bytes = .ok (.table rows) ↔ ∃ document elements,
    Json.Document.parse bytes = some document ∧ HoldsTable document elements
      ∧ List.Forall₂ GivesRow (elements.getD []) rows := by
  constructor
  · intro h
    unfold parse at h
    split at h
    · cases h
    · rename_i sheet hsheet
      split at h
      · cases h
      · rename_i hboolean
        obtain ⟨_, hrows, ⟨⟩⟩ := map_eq_ok h
        obtain ⟨document, hdocument, hread⟩ := Option.bind_eq_some_iff.mp hsheet
        obtain ⟨tables, boolean⟩ := sheet
        obtain rfl : boolean = none := hboolean
        obtain ⟨elements, hholds, htables⟩ := sheet_read?_iff.mp hread
        exact ⟨document, elements, hdocument, hholds,
          forall₂_givesRow_iff.mpr ⟨tables, htables, hrows⟩⟩
  · rintro ⟨document, elements, hdocument, hholds, hrows⟩
    obtain ⟨tables, htables, hrows⟩ := forall₂_givesRow_iff.mp hrows
    have hread := sheet_read?_iff.mpr ⟨elements, hholds, htables⟩
    rw [parse_of_sheet (by rw [hdocument, Option.bind_some, hread]), hrows]
    rfl

theorem parseRows_eq_ok_iff : parseRows bytes = .ok rows ↔ parse bytes = .ok (.table rows) := by
  constructor
  · intro h
    obtain ⟨results, hresults, h⟩ := bind_eq_ok h
    cases results with
    | table found =>
        cases h
        exact hresults
    | boolean _ => cases h
  · intro h
    rw [parseRows, h]
    rfl

/-! ## Faults -/

theorem parse_eq_error {failure : Failure} (h : parse bytes = .error failure) :
    ∃ fault, failure = .parse fault := by
  unfold parse at h
  split at h
  · cases h
    exact ⟨_, rfl⟩
  · split at h
    · cases h
    · obtain ⟨bounds, -, h⟩ := exists_mem_of_mapM_eq_error (map_eq_error h)
      obtain ⟨_, -, -, hfailure⟩ := rowTerms_eq_error h
      exact ⟨_, hfailure⟩

/-- Nothing but faults of the reply comes of bytes that are no table. -/
theorem parseRows_eq_error {failure : Failure} (h : parseRows bytes = .error failure) :
    ∃ fault, failure = .parse fault := by
  unfold parseRows at h
  cases hparse : parse bytes with
  | error fault =>
      rw [hparse] at h
      cases h
      exact parse_eq_error hparse
  | ok results =>
      rw [hparse] at h
      cases results with
      | table rows => cases h
      | boolean _ =>
          cases h
          exact ⟨_, rfl⟩

/-! ## The shape of a result -/

def member? (name : String) (document : Json.Document) : Option Json.Document :=
  document.members?.bind fun members => lookupEntry name members

/-- The shape that the format has for the result of a query: an object whose results are an object
whose bindings are an array. This is what the reader is held against; it asks for less. -/
def IsSelect (document : Json.Document) (elements : List Json.Document) : Prop :=
  ∃ results, member? "results" document = some results
    ∧ member? "bindings" results = some (.array elements)

/-- A document that is an object, and so are its results if it has any. The reader of records takes
arrays as well, which are no table of results. -/
def IsInObjects (document : Json.Document) : Prop :=
  (∃ members, document = .object members)
    ∧ ∀ body, member? "results" document = some body → ∃ members, body = .object members

theorem eq_object_of_member? {name : String} {found : Json.Document}
    (h : member? name document = some found) : ∃ members, document = .object members := by
  cases document with
  | object members => exact ⟨members, rfl⟩
  | null => cases h
  | bool _ => cases h
  | number _ => cases h
  | string _ => cases h
  | array _ => cases h

/-- The fields of a record in an object. -/
theorem fields?_object {names : List String} {found : List (Option Json.Document)}
    (hobject : ∃ members, document = .object members)
    (h : document.fields? names false = some found) :
    found = names.map fun name => member? name document := by
  obtain ⟨members, rfl⟩ := hobject
  rcases fields?_cases h with ⟨items, heq, -⟩ | ⟨known, hknown, hfound⟩
  · cases heq
  · simp only [member?, hknown, Option.bind_some]
    exact hfound

variable {listed : List Json.Document}

theorem IsSelect.isInObjects (h : IsSelect document listed) : IsInObjects document := by
  obtain ⟨results, hresults, hbindings⟩ := h
  refine ⟨eq_object_of_member? hresults, fun body hbody => ?_⟩
  obtain rfl : results = body := Option.some.inj (hresults.symm.trans hbody)
  exact eq_object_of_member? hbindings

/-- Where a document of the right shape is read as one with a table, it is read as it is meant. -/
theorem IsSelect.elements_eq (h : IsSelect document listed) (hholds : HoldsTable document elements) :
    elements = some listed := by
  obtain ⟨results, hresults, hbindings⟩ := h
  have hobject := eq_object_of_member? hresults
  cases hholds with
  | missing hfields _ hvoid =>
      have hfound := fields?_object hobject hfields
      rw [List.map_cons, hresults] at hfound
      obtain ⟨rfl, -⟩ := List.cons.inj hfound
      rcases hvoid with hvoid | hvoid
      · cases hvoid
      · cases hvoid
        cases hbindings
  | body hfields _ hbody =>
      have hfound := fields?_object hobject hfields
      rw [List.map_cons, hresults] at hfound
      obtain ⟨⟨⟩, -⟩ := List.cons.inj hfound
      have hfound := fields?_object (eq_object_of_member? hbindings) hbody
      rw [List.map_cons, hbindings] at hfound
      obtain ⟨_, helements, ⟨⟩⟩ := Option.map_eq_some_iff.mp (List.cons.inj hfound).1
      exact helements

theorem HoldsTable.isSelect (h : HoldsTable document (some listed)) (hobjects : IsInObjects document) :
    IsSelect document listed := by
  obtain ⟨hobject, hresults⟩ := hobjects
  cases h with
  | @body body _ _ hfields _ hbody =>
      have hfound := (List.cons.inj (fields?_object hobject hfields)).1.symm
      exact ⟨body, hfound, (List.cons.inj (fields?_object (hresults body hfound) hbody)).1.symm⟩

/-! ## The rows of a reply -/

/-- The operations that list what a server has, with what they answer if there is nothing. -/
def emptyListings (profile : Profile) : List (Except Failure Plan × Answer) :=
  [(RepositoryOperation.plan profile .contexts, .terms []),
    (RepositoryOperation.plan profile .namespaces, .namespaces []),
    (ServerOperation.plan profile .repositoryNames, .names [])]

theorem read_emptyListing {profile : Profile} {response : Response} {plan : Plan} {answer : Answer}
    (hbytes : response.bytes = .ok bytes) (hrows : parseRows bytes = .ok [])
    (h : (.ok plan, answer) ∈ emptyListings profile) : plan.read response = .ok answer := by
  have hread : readRows response = .ok [] := by
    rw [readRows, hbytes]
    exact hrows
  simp only [emptyListings, List.mem_cons, List.not_mem_nil, or_false, Prod.mk.injEq] at h
  rcases h with ⟨hplan, rfl⟩ | ⟨hplan, rfl⟩ | ⟨hplan, rfl⟩
  all_goals
    cases hplan
    exact congrArg (Except.map _) hread

/-- Bytes are accepted where they are a document that holds a table, all of whose elements give rows,
and nothing but faults of the reply comes of others. What is accepted is a result of the right shape,
with as many elements as there are rows, exactly where it consists of objects and its table is not
missing. Where the table is missing there are no rows, and a list of what a server has is empty. -/
theorem accepted_iff (bytes : Bytes) :
    (∀ rows, parseRows bytes = .ok rows ↔ ∃ document elements,
        Json.Document.parse bytes = some document ∧ HoldsTable document elements
          ∧ List.Forall₂ GivesRow (elements.getD []) rows)
      ∧ (∀ failure, parseRows bytes = .error failure → ∃ fault, failure = .parse fault)
      ∧ (∀ document rows, Json.Document.parse bytes = some document → parseRows bytes = .ok rows →
          ((∃ listed, IsSelect document listed ∧ rows.length = listed.length)
            ↔ IsInObjects document ∧ ¬HoldsTable document none))
      ∧ ∀ document, Json.Document.parse bytes = some document → HoldsTable document none →
          parseRows bytes = .ok []
            ∧ ∀ profile response plan answer, response.bytes = .ok bytes →
                (.ok plan, answer) ∈ emptyListings profile → plan.read response = .ok answer := by
  have hiff : ∀ rows, parseRows bytes = .ok rows ↔ ∃ document elements,
      Json.Document.parse bytes = some document ∧ HoldsTable document elements
        ∧ List.Forall₂ GivesRow (elements.getD []) rows :=
    fun rows => parseRows_eq_ok_iff.trans parse_eq_table_iff
  refine ⟨hiff, fun failure => parseRows_eq_error, ?_, ?_⟩
  · intro document rows hdocument hrows
    obtain ⟨_, elements, hsame, hholds, hgives⟩ := (hiff rows).mp hrows
    cases hdocument.symm.trans hsame
    constructor
    · rintro ⟨listed, hselect, -⟩
      refine ⟨hselect.isInObjects, fun hnone => ?_⟩
      cases hselect.elements_eq hnone
    · rintro ⟨hobjects, hsome⟩
      cases elements with
      | none => exact absurd hholds hsome
      | some listed => exact ⟨listed, hholds.isSelect hobjects, hgives.length_eq.symm⟩
  · intro document hdocument hholds
    have hrows : parseRows bytes = .ok [] := (hiff []).mpr ⟨document, none, hdocument, hholds, .nil⟩
    exact ⟨hrows, fun _ _ _ _ hbytes hlisting => read_emptyListing hbytes hrows hlisting⟩

def oneRow : Json.Document :=
  writtenObject [("results", writtenObject [("bindings", .array [writtenObject []])])]

theorem parse_oneRow : Json.Document.parse
    (Text.encode "\x7b\"results\":\x7b\"bindings\":[\x7b\x7d]\x7d\x7d") = some oneRow := by
  refine Json.Document.parse_encodeChars ?_
  have hclosed : Json.IsText _ ['\x7d', ']', '\x7d', '\x7d'] :=
    .mark (by decide : (.closeBrace, '\x7d') ∈ Json.marks)
      (.mark (by decide : (.closeBracket, ']') ∈ Json.marks)
        (.mark (by decide : (.closeBrace, '\x7d') ∈ Json.marks)
          (.mark (by decide : (.closeBrace, '\x7d') ∈ Json.marks) (@Json.IsText.nil [] nofun))))
  have hbindings := isText_string "bindings"
    (.mark (by decide : (.colon, ':') ∈ Json.marks)
      (.mark (by decide : (.openBracket, '[') ∈ Json.marks)
        (.mark (by decide : (.openBrace, '\x7b') ∈ Json.marks) hclosed)))
  have hresults := isText_string "results"
    (.mark (by decide : (.colon, ':') ∈ Json.marks)
      (.mark (by decide : (.openBrace, '\x7b') ∈ Json.marks) hbindings))
  exact .mark (by decide : (.openBrace, '\x7b') ∈ Json.marks) hresults

theorem one_row_is_accepted :
    parseRows (Text.encode "\x7b\"results\":\x7b\"bindings\":[\x7b\x7d]\x7d\x7d") = .ok [.empty]
      ∧ IsSelect oneRow [writtenObject []] ∧ ¬HoldsTable oneRow none := by
  have hbody : (writtenObject [("bindings", .array [writtenObject []])]).HasEntries _ :=
    hasEntries_writtenObject (by decide)
  have hresults : oneRow.HasEntries _ := hasEntries_writtenObject (by decide)
  have hselect : IsSelect oneRow [writtenObject []] := by
    refine ⟨writtenObject [("bindings", .array [writtenObject []])], ?_, ?_⟩
    · rw [member?, hresults.members?_eq]
      rfl
    · rw [member?, hbody.members?_eq]
      rfl
  have hholds : HoldsTable oneRow (some [writtenObject []]) :=
    .body (hresults.fields?_eq ["results", "boolean"]) (.inl rfl) (hbody.fields?_eq ["bindings"])
  obtain ⟨hiff, -, hshape, -⟩ :=
    accepted_iff (Text.encode "\x7b\"results\":\x7b\"bindings\":[\x7b\x7d]\x7d\x7d")
  have hrows := (hiff [.empty]).mpr
    ⟨oneRow, some [writtenObject []], parse_oneRow, hholds, .cons ⟨.empty, rfl, rfl⟩ .nil⟩
  exact ⟨hrows, hselect,
    ((hshape oneRow [.empty] parse_oneRow hrows).mp ⟨[writtenObject []], hselect, rfl⟩).2⟩

/-- An object without anything in it, which is no result, has no rows. -/
theorem empty_object_is_accepted :
    Json.Document.parse (Text.encode "\x7b\x7d") = some (.object [])
      ∧ HoldsTable (.object []) none ∧ parseRows (Text.encode "\x7b\x7d") = .ok []
      ∧ ¬∃ elements, IsSelect (.object []) elements := by
  refine ⟨rfl, .missing rfl (.inl rfl) (.inl rfl), rfl, ?_⟩
  rintro ⟨_, _, hresults, -⟩
  cases hresults

end Quadlink.Results
