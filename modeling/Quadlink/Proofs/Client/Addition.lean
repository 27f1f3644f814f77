import Quadlink.Proofs.Client.Plans
import Quadlink.Proofs.Rdf.Exactness
import Quadlink.Proofs.Rdf.Notation

/-!
# Adding one statement

What the addition of a statement sends, on a repository or inside a transaction. The four arguments
are read as terms, and the request carries the line of the statement that these make up. That line
says this statement and nothing else exactly where its terms are well-formed
(`added_statement_is_sent`); an IRI between brackets can hold whatever a caller puts there, the rest
of one statement and the beginning of another among it (`addition_of_two_statements`).
-/

namespace Quadlink

/-! ## Arguments -/

/-- The terms of a statement are what the arguments of an addition are read as. An addition without
a graph is one to the default graph. -/
structure Quad.IsReadFrom (quad : Quad) (subject predicate object : String)
    (context : Option String) : Prop where
  subject : Term.readSubject subject = .ok quad.subject
  predicate : Term.readPredicate predicate = .ok quad.predicate
  object : Term.readObject object = .ok quad.object
  graph : match context with
    | some raw => Term.readContext raw = .ok quad.graph
    | none => quad.graph = .defaultGraph

variable {subject predicate object : String} {context : Option String} {quad : Quad}

theorem readQuad_eq_ok_iff : readQuad subject predicate object context = .ok quad
    ↔ quad.IsReadFrom subject predicate object context := by
  constructor
  · intro h
    obtain ⟨_, hsubject, h⟩ := bind_eq_ok h
    obtain ⟨_, hpredicate, h⟩ := bind_eq_ok h
    obtain ⟨_, hobject, h⟩ := bind_eq_ok h
    cases context with
    | none =>
        cases h
        exact ⟨hsubject, hpredicate, hobject, rfl⟩
    | some raw =>
        obtain ⟨_, hgraph, h⟩ := bind_eq_ok h
        cases h
        exact ⟨hsubject, hpredicate, hobject, hgraph⟩
  · rintro ⟨hsubject, hpredicate, hobject, hgraph⟩
    rw [readQuad, hsubject, hpredicate, hobject]
    cases context with
    | none => exact congrArg Except.ok (by rw [← hgraph])
    | some raw =>
        dsimp only at hgraph
        simp only [hgraph]
        rfl

/-- The arguments of an addition are read as terms that may stand where they do. -/
theorem Quad.IsReadFrom.hasAllowedKinds
    (h : quad.IsReadFrom subject predicate object context) : quad.HasAllowedKinds where
  subject := Term.kind_of_readSubject h.subject
  predicate := Term.kind_of_readPredicate h.predicate
  object := Term.ne_defaultGraph_of_readObject h.object
  graph := by
    have hgraph := h.graph
    cases context with
    | none => exact .inr hgraph
    | some raw => exact Term.kind_of_readContext hgraph

/-! ## Requests -/

theorem writeQuads_singleton (h : quad.HasAllowedKinds) :
    writeQuads [quad] = .ok (String.ofList (NQuads.document [quad])) :=
  NQuads.serialize_eq (by simpa using h)

variable {profile : Profile} {plan : Plan}

theorem RepositoryOperation.plan_add
    (h : quad.IsReadFrom subject predicate object context) :
    (RepositoryOperation.add subject predicate object context).plan profile =
      .ok (sendingData profile (.post Resource.statements) profile.uploadType
        (.text (String.ofList (NQuads.document [quad])))) := by
  rw [plan, readQuad_eq_ok_iff.mpr h]
  show sendingQuads profile (.post Resource.statements) [quad] = _
  rw [sendingQuads, writeQuads_singleton h.hasAllowedKinds]
  rfl

theorem TransactionOperation.plan_add
    (h : quad.IsReadFrom subject predicate object context) :
    (TransactionOperation.add subject predicate object context).plan profile =
      .ok (sendingData profile .add .empty profile.uploadType
        (.text (String.ofList (NQuads.document [quad])))) := by
  rw [plan, readQuad_eq_ok_iff.mpr h]
  show sendingQuads profile [quad] = _
  rw [sendingQuads, writeQuads_singleton h.hasAllowedKinds]
  rfl

/-- An addition is accepted only if its arguments can be read, and then sends the line of the
statement that they say. -/
theorem body_of_addition
    (h : (RepositoryOperation.add subject predicate object context).plan profile = .ok plan
      ∨ (TransactionOperation.add subject predicate object context).plan profile = .ok plan) :
    ∃ quad, quad.IsReadFrom subject predicate object context
      ∧ plan.request.body = some (.text (String.ofList (NQuads.document [quad]))) := by
  rcases h with hadd | hadd
  · obtain ⟨quad, hread, -⟩ := bind_eq_ok hadd
    have hread := readQuad_eq_ok_iff.mp hread
    rw [RepositoryOperation.plan_add hread] at hadd
    obtain rfl := Except.ok.inj hadd
    exact ⟨quad, hread, rfl⟩
  · obtain ⟨quad, hread, -⟩ := bind_eq_ok hadd
    have hread := readQuad_eq_ok_iff.mp hread
    rw [TransactionOperation.plan_add hread] at hadd
    obtain rfl := Except.ok.inj hadd
    exact ⟨quad, hread, rfl⟩

/-- An addition that is accepted sends the line of the statement that its arguments are read as. A
reader of N-Quads finds that statement and no other in it exactly where the terms are well-formed,
and then its only line feed is at its end. -/
theorem added_statement_is_sent
    (h : (RepositoryOperation.add subject predicate object context).plan profile = .ok plan
      ∨ (TransactionOperation.add subject predicate object context).plan profile = .ok plan) :
    ∃ quad line, quad.IsReadFrom subject predicate object context
      ∧ plan.request.body = some (.text (String.ofList (line ++ ['\n'])))
      ∧ (NQuads.read? (String.ofList (line ++ ['\n'])) = some [quad] ↔ quad.IsWellFormed)
      ∧ (quad.IsWellFormed → '\n' ∉ line) := by
  obtain ⟨quad, hread, hbody⟩ := body_of_addition h
  have hexact := NQuads.read?_document_iff hread.hasAllowedKinds
  rw [NQuads.document_singleton] at hbody hexact
  refine ⟨quad, NQuads.statement quad, hread, hbody, hexact, ?_⟩
  intro hwell hfeed
  have hnone := List.any_eq_false.mp (NQuads.no_lineEnd_statement hwell) _ hfeed
  exact hnone rfl

/-- A value with quotes, backslashes, line ends and what looks like the end of a statement is one
value still. -/
theorem awkward_value_is_added :
    ∃ plan line,
      (RepositoryOperation.add "_:b" "urn:p" "\" .\n<urn:a> \\\"\\\\\"@en" (some "null")).plan
          (.ofConfig {}) = .ok plan
      ∧ plan.request.body = some (.text (String.ofList (line ++ ['\n'])))
      ∧ NQuads.read? (String.ofList (line ++ ['\n'])) =
          some [⟨.blankNode "b", .iri "urn:p", .literal " .\n<urn:a> \"\\" none (some "en"),
            .defaultGraph⟩]
      ∧ '\n' ∉ line := by
  have hread : readQuad "_:b" "urn:p" "\" .\n<urn:a> \\\"\\\\\"@en" (some "null") =
      .ok ⟨.blankNode "b", .iri "urn:p", .literal " .\n<urn:a> \"\\" none (some "en"),
        .defaultGraph⟩ := rfl
  have hplan :
      (RepositoryOperation.add "_:b" "urn:p" "\" .\n<urn:a> \\\"\\\\\"@en" (some "null")).plan
        (.ofConfig {}) = .ok _ := RepositoryOperation.plan_add (readQuad_eq_ok_iff.mp hread)
  obtain ⟨quad, line, hquad, hbody, hiff, hline⟩ := added_statement_is_sent (.inl hplan)
  have hsame := Except.ok.inj (hread.symm.trans (readQuad_eq_ok_iff.mpr hquad))
  subst hsame
  have hwell : (⟨.blankNode "b", .iri "urn:p", .literal " .\n<urn:a> \"\\" none (some "en"),
      .defaultGraph⟩ : Quad).IsWellFormed := by decide
  exact ⟨_, line, hplan, hbody, hiff.mpr hwell, hline hwell⟩

/-- An IRI between brackets may hold the end of a statement and the beginning of another: this
addition sends two statements. -/
theorem addition_of_two_statements :
    ∃ plan text,
      (RepositoryOperation.add "<urn:a> <urn:p> <urn:o> .\n<urn:s>" "urn:q" "urn:r" none).plan
          (.ofConfig {}) = .ok plan
      ∧ plan.request.body = some (.text text)
      ∧ NQuads.read? text =
          some [⟨.iri "urn:a", .iri "urn:p", .iri "urn:o", .defaultGraph⟩,
            ⟨.iri "urn:s", .iri "urn:q", .iri "urn:r", .defaultGraph⟩] := by
  have hread : readQuad "<urn:a> <urn:p> <urn:o> .\n<urn:s>" "urn:q" "urn:r" none =
      .ok ⟨.iri "urn:a> <urn:p> <urn:o> .\n<urn:s", .iri "urn:q", .iri "urn:r", .defaultGraph⟩ := rfl
  exact ⟨_, _, RepositoryOperation.plan_add (readQuad_eq_ok_iff.mp hread), rfl, by decide⟩

end Quadlink
