import Quadlink.Proofs.Client.Agreement
import Quadlink.Proofs.Client.Arguments

/-!
# Patterns that are read and deleted

Statements are read and deleted by the same kind of pattern, but not in the same way. A reading
passes the terms of its pattern on as they are written. A deletion reads them and sends what it
writes of them in turn, and it has its graph among the other parameters, where a reading has a list
of graphs. That both address the same statements rests on two facts:

- what is written of a term is read as that term in the place where it stands (`termParam_eq`);
- a list of one graph is sent like a single graph, and the parameters come in the order of their
  names, whatever the order in which they were set (`pairs_setRepeated_singleton`,
  `pairs_setAll_eq`).
-/

namespace Quadlink

open Term

/-- A pattern of statements: terms in some of the three places, and the name of a graph. Where there
is none, anything matches. -/
structure TermPattern where
  subject : Option Term := none
  predicate : Option Term := none
  object : Option Term := none
  context : Option String := none
  deriving Repr, DecidableEq

namespace TermPattern

/-- Each term may stand in its place and is found again in what is written of it, and the name of
the graph is one. Patterns are handed over as texts, so a term that is not found again would be
another pattern. -/
structure IsLegal (pattern : TermPattern) : Prop where
  subject : ∀ term ∈ pattern.subject,
    (term.isIri = true ∨ term.isBlank = true) ∧ readObject term.encode = .ok term
  predicate : ∀ term ∈ pattern.predicate,
    term.isIri = true ∧ readObject term.encode = .ok term
  object : ∀ term ∈ pattern.object, readObject term.encode = .ok term
  context : ∀ raw ∈ pattern.context, ∃ graph, readContext raw = .ok graph

def reading (pattern : TermPattern) (responseType : Option String) : RepositoryOperation :=
  .get
    { subject := pattern.subject.map encode
      predicate := pattern.predicate.map encode
      object := pattern.object.map encode
      contexts := pattern.context.toList
      responseType }

def deletion (pattern : TermPattern) : RepositoryOperation :=
  .deleteStatements (pattern.subject.map encode) (pattern.predicate.map encode)
    (pattern.object.map encode) pattern.context

def placeFields (pattern : TermPattern) : List (String × String) :=
  optional ParamName.subject (pattern.subject.map encode) ++
    optional ParamName.predicate (pattern.predicate.map encode) ++
    optional ParamName.object (pattern.object.map encode)

/-- What a request says of a pattern in a graph: the terms that are not left out, in the order of
the names of their parameters. -/
def pairs (pattern : TermPattern) (graph : Option Term) : List (String × String) :=
  optional ParamName.context (graph.map encode) ++
    optional ParamName.object (pattern.object.map encode) ++
    optional ParamName.predicate (pattern.predicate.map encode) ++
    optional ParamName.subject (pattern.subject.map encode)

/-! ## Arguments -/

/-- Texts that are read as terms are sent as what is written of these. -/
theorem termParam_eq {name : String} {read : String → Except Failure Term} {raws : Option String}
    {terms : Option Term} (h : Option.Rel (fun raw term => read raw = .ok term) raws terms) :
    RepositoryOperation.termParam name read raws = .ok (optional name (terms.map encode)) := by
  cases h with
  | none => rfl
  | some hread =>
      rw [RepositoryOperation.termParam, hread]
      rfl

/-- What is written of a term is read as that term. -/
theorem rel_map_encode {read : String → Except Failure Term} {terms : Option Term}
    (h : ∀ term ∈ terms, read term.encode = .ok term) :
    Option.Rel (fun raw term => read raw = .ok term) (terms.map encode) terms := by
  cases terms with
  | none => exact .none
  | some term => exact .some (h term rfl)

theorem encodeContexts_toList {context : Option String} {graph : Option Term}
    (h : Option.Rel (fun raw term => readContext raw = .ok term) context graph) :
    encodeContexts context.toList = .ok (graph.map encode).toList := by
  cases h with
  | none => rfl
  | some hread =>
      show (do return [← encodeContext _]) = _
      rw [encodeContext, hread]
      rfl

theorem IsLegal.exists_graph {pattern : TermPattern} (h : pattern.IsLegal) :
    ∃ graph, Option.Rel (fun raw term => readContext raw = .ok term) pattern.context graph := by
  cases hcontext : pattern.context with
  | none => exact ⟨none, .none⟩
  | some raw =>
      obtain ⟨graph, hgraph⟩ := h.context raw hcontext
      exact ⟨some graph, .some hgraph⟩

/-! ## Parameters -/

variable {pattern : TermPattern} {graph : Option Term} {profile : Profile}

def names : List String :=
  [ParamName.context, ParamName.object, ParamName.predicate, ParamName.subject]

theorem sorted_pairs (pattern : TermPattern) (graph : Option Term) :
    (pattern.pairs graph).Pairwise fun a b => a.1 < b.1 := by
  have hnames : ((pattern.pairs graph).map Prod.fst).Sublist names := by
    simp only [pairs, List.map_append]
    exact (((optional_names _ _).append (optional_names _ _)).append
      (optional_names _ _)).append (optional_names _ _)
  have hsorted : names.Pairwise (· < ·) := by decide
  exact List.pairwise_map.mp (hsorted.sublist hnames)

theorem pairs_perm (pattern : TermPattern) (graph : Option Term) :
    (pattern.pairs graph).Perm
      (pattern.placeFields ++ optional ParamName.context (graph.map encode)) := by
  have hreverse : ∀ context object predicate subject : List (String × String),
      (context ++ object ++ predicate ++ subject).Perm
        (subject ++ predicate ++ object ++ context) := by
    intro context object predicate subject
    calc (context ++ object ++ predicate ++ subject).Perm
          (subject ++ (context ++ object ++ predicate)) := List.perm_append_comm
      List.Perm _ (subject ++ (predicate ++ (context ++ object))) :=
        List.perm_append_comm.append_left _
      List.Perm _ (subject ++ (predicate ++ (object ++ context))) :=
        (List.perm_append_comm.append_left _).append_left _
      _ = subject ++ predicate ++ object ++ context := by simp only [List.append_assoc]
  exact hreverse _ _ _ _

/-- The parameters of a deletion say what the pattern says. -/
theorem pairs_of_fields (pattern : TermPattern) (graph : Option Term) :
    (Params.empty.setAll
        (pattern.placeFields ++ optional ParamName.context (graph.map encode))).pairs
      = pattern.pairs graph :=
  Params.pairs_setAll_eq (pattern.pairs_perm graph) (pattern.sorted_pairs graph)

/-- So do those of a reading, which has a list of graphs. -/
theorem pairs_of_graphs (pattern : TermPattern) (graph : Option Term) :
    ((Params.empty.setAll pattern.placeFields).setRepeated ParamName.context
        (graph.map encode).toList).pairs
      = pattern.pairs graph := by
  rw [← pairs_of_fields, Params.setAll, Params.setAll, List.foldl_append]
  cases graph with
  | none => rfl
  | some term => exact Params.pairs_setRepeated_singleton _ _ _

end TermPattern

/-! ## Requests -/

/-- A request that is about the statements which some parameters describe. Reading and deletion send
the same pairs, and differ in the method only. -/
structure Request.Addresses (request : Request) (method : Method)
    (pairs : List (String × String)) : Prop where
  method : request.method = method
  path : request.path = Resource.statements
  pairs : request.params.pairs = pairs

theorem Request.Addresses.withToken {request : Request} {method : Method}
    {pairs : List (String × String)} (h : request.Addresses method pairs)
    (token : Option String) : (request.withToken token).Addresses method pairs := by
  cases token with
  | none => exact h
  | some value => exact ⟨h.method, h.path, h.pairs⟩

namespace TermPattern

variable {pattern : TermPattern} {graph : Option Term} {profile : Profile}

theorem plan_reading
    (hgraph : Option.Rel (fun raw term => readContext raw = .ok term) pattern.context graph)
    (responseType : Option String) :
    ∃ plan, (pattern.reading responseType).plan profile = .ok plan
      ∧ plan.request.Addresses .get (pattern.pairs graph) := by
  have hparams : patternParams
        { subject := pattern.subject.map encode
          predicate := pattern.predicate.map encode
          object := pattern.object.map encode
          contexts := pattern.context.toList
          responseType }
      = .ok ((Params.empty.setAll pattern.placeFields).setRepeated ParamName.context
          (graph.map encode).toList) := by
    rw [patternParams, encodeContexts_toList hgraph]
    simp only [StatementPattern.params, optional, Option.map_none, List.append_nil]
    rfl
  rw [reading, RepositoryOperation.plan, hparams]
  exact ⟨_, rfl, rfl, rfl, pattern.pairs_of_graphs graph⟩

theorem plan_deletion (h : pattern.IsLegal)
    (hgraph : Option.Rel (fun raw term => readContext raw = .ok term) pattern.context graph) :
    ∃ plan, pattern.deletion.plan profile = .ok plan
      ∧ plan.request.Addresses .delete (pattern.pairs graph) := by
  have hsubject : ∀ term ∈ pattern.subject, readSubject term.encode = .ok term := by
    intro term hterm
    obtain ⟨hkind, hround⟩ := h.subject term hterm
    exact readSubject_encode hkind ((readObject_encode_iff term).1.mp hround)
  have hpredicate : ∀ term ∈ pattern.predicate, readPredicate term.encode = .ok term := by
    intro term hterm
    obtain ⟨hkind, hround⟩ := h.predicate term hterm
    exact readPredicate_encode hkind ((readObject_encode_iff term).1.mp hround)
  rw [deletion, RepositoryOperation.plan, termParam_eq (rel_map_encode hsubject),
    termParam_eq (rel_map_encode hpredicate), termParam_eq (rel_map_encode h.object),
    termParam_eq hgraph]
  exact ⟨_, rfl, rfl, rfl, pattern.pairs_of_fields graph⟩

end TermPattern

/-! ## Commands -/

namespace Client

variable {σ : Type}

/-- A deletion addresses the statements that a reading of the same pattern does. Both send the terms
that the pattern has, as they are written, together with the graph that its name stands for, and no
parameter for what it leaves out. -/
theorem deletion_matches_reading (repository : Repository) (client : Client σ)
    {pattern : TermPattern} (h : pattern.IsLegal) (responseType : Option String) :
    ∃ graph, Option.Rel (fun raw term => readContext raw = .ok term) pattern.context graph
      ∧ client.CallsFor repository (.onRepository (pattern.reading responseType))
          repository.channel (·.Addresses .get (pattern.pairs graph))
      ∧ client.CallsFor repository (.onRepository pattern.deletion)
          repository.channel (·.Addresses .delete (pattern.pairs graph)) := by
  obtain ⟨graph, hgraph⟩ := h.exists_graph
  obtain ⟨reading, hreading, hread⟩ := TermPattern.plan_reading hgraph responseType
  obtain ⟨deletion, hdeletion, hdeleted⟩ := TermPattern.plan_deletion h hgraph
  exact ⟨graph, hgraph, callsFor_of_plan hreading hread.withToken,
    callsFor_of_plan hdeletion hdeleted.withToken⟩

/-- A literal with quotes, a backslash at its end and a language, no predicate, and the default graph
by a name with white space around it. -/
def awkwardPattern : TermPattern :=
  { subject := some (.blankNode "b.1")
    object := some (.literal "\" .\n\\" none (some "en"))
    context := some "\tnull " }

theorem deletion_matches_reading_of_awkward_pattern :
    awkwardPattern.IsLegal
      ∧ (start {} ()).CallsFor localRepository (.onRepository awkwardPattern.deletion)
        localRepository.channel
        (·.Addresses .delete
          [("context", "null"), ("obj", "\"\\\" .\\n\\\\\"@en"), ("subj", "_:b.1")]) := by
  have hlegal : awkwardPattern.IsLegal := by
    refine ⟨?_, nofun, ?_, ?_⟩
    · rintro _ ⟨⟩
      exact ⟨.inr rfl, rfl⟩
    · rintro _ ⟨⟩
      rfl
    · rintro _ ⟨⟩
      exact ⟨.defaultGraph, rfl⟩
  obtain ⟨graph, hgraph, -, hdeletion⟩ :=
    deletion_matches_reading localRepository (start {} ()) hlegal none
  refine ⟨hlegal, ?_⟩
  obtain ⟨hread⟩ := hgraph
  cases hread
  exact hdeletion

end Client

end Quadlink
