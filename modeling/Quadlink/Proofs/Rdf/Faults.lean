import Quadlink.Proofs.Rdf.RoundTrip

/-!
# Faults of statements

What is wrong with a list of statements, all of it at once: `Quad.faults` are the places of a
statement in which a term stands that may not stand there, and the faults of a list are those of its
statements, in their order. Writing a list stops at the first of them (`serialize_eq_error_iff`),
and only a list without faults is written (`serialize_eq_ok_iff`).

Lines are written behind those that are already there, so a list can be cut anywhere: what is
written of both parts together is what is written of one and then of the other
(`serialize_append`).
-/

namespace Quadlink.Quad

variable {quad : Quad} {quads rest front back : List Quad} {fault : TermRole × String}
  {text : String} {failure : Failure}

/-! ## One statement -/

def faultUnless (ok : Bool) (fault : TermRole × String) : List (TermRole × String) :=
  if ok then [] else [fault]

/-- A graph may have any name but a literal. -/
def graphFaults : Term → List (TermRole × String)
  | .literal value _ _ => [(.graph, value)]
  | _ => []

/-- The places of a statement whose terms may not stand there, from left to right, each with the
text by which it is reported. -/
def faults (quad : Quad) : List (TermRole × String) :=
  faultUnless (quad.subject.isIri || quad.subject.isBlank) (.subject, quad.subject.value) ++
    faultUnless quad.predicate.isIri (.predicate, quad.predicate.value) ++
    faultUnless (quad.object ≠ .defaultGraph) (.object, "default graph") ++
    graphFaults quad.graph

def report (fault : TermRole × String) : Failure :=
  .invalidInput (.notA fault.1 fault.2)

theorem faultUnless_eq_nil_iff {ok : Bool} : faultUnless ok fault = [] ↔ ok = true := by
  cases ok <;> simp [faultUnless]

theorem graphFaults_eq_nil_iff {graph : Term} : graphFaults graph = [] ↔
    (graph.isIri = true ∨ graph.isBlank = true) ∨ graph = .defaultGraph := by
  cases graph <;> simp [graphFaults, Term.isIri, Term.isBlank]

theorem faults_eq_nil_iff : quad.faults = [] ↔ quad.HasAllowedKinds := by
  simp only [faults, List.append_eq_nil_iff, graphFaults_eq_nil_iff, faultUnless_eq_nil_iff,
    Bool.or_eq_true, decide_eq_true_eq]
  constructor
  · rintro ⟨⟨⟨hsubject, hpredicate⟩, hobject⟩, hgraph⟩
    exact ⟨hsubject, hpredicate, hobject, hgraph⟩
  · rintro ⟨hsubject, hpredicate, hobject, hgraph⟩
    exact ⟨⟨⟨hsubject, hpredicate⟩, hobject⟩, hgraph⟩

/-- A statement is refused for the first of its faults. -/
theorem line_eq_error {more : List (TermRole × String)} (h : quad.faults = fault :: more) :
    quad.line = .error (report fault) := by
  unfold line
  rw [faults] at h
  -- The places are gone through in the order of the faults: each is in order, or the first fault.
  cases hsubject : quad.subject.isIri || quad.subject.isBlank with
  | false =>
      rw [hsubject] at h
      cases h
      rfl
  | true =>
      rw [hsubject] at h
      cases hpredicate : quad.predicate.isIri with
      | false =>
          rw [hpredicate] at h
          cases h
          rfl
      | true =>
          rw [hpredicate] at h
          by_cases hobject : quad.object = .defaultGraph
          · rw [hobject] at h
            cases h
            exact if_pos hobject
          · have hgraph : graphFaults quad.graph = fault :: more := by
              simpa [faultUnless, hobject] using h
            cases hterm : quad.graph with
            | literal value datatype language =>
                rw [hterm] at hgraph
                cases hgraph
                exact if_neg hobject
            | _ =>
                rw [hterm] at hgraph
                cases hgraph

/-! ## Lists of statements -/

theorem writeLines_append (text : String) (front back : List Quad) :
    writeLines text (front ++ back) = writeLines text front >>= fun text => writeLines text back := by
  induction front generalizing text with
  | nil => rfl
  | cons quad rest ih =>
      rw [List.cons_append, writeLines, writeLines]
      cases quad.line with
      | error failure => rfl
      | ok line => exact ih (text ++ line)

/-- Two lists one behind the other are written like each by itself. -/
theorem serialize_append (front back : List Quad) :
    serialize (front ++ back)
      = serialize front >>= fun text => (serialize back).map (text ++ ·) := by
  rw [serialize, writeLines_append]
  exact congrArg (serialize front >>= ·) (funext fun text => writeLines_eq text back)

/-- Two lists together are written if each of them is. -/
theorem serialize_append_eq_ok_iff :
    serialize (front ++ back) = .ok text ↔
      ∃ first second, serialize front = .ok first ∧ serialize back = .ok second
        ∧ text = first ++ second := by
  rw [serialize_append]
  cases serialize front with
  | error failure => simp [bind, Except.bind]
  | ok first =>
      cases serialize back with
      | error failure => simp [bind, Except.bind, Except.map]
      | ok second => simp [bind, Except.bind, Except.map, eq_comm]

/-- They are refused for the first of them that cannot be written. -/
theorem serialize_append_eq_error_iff :
    serialize (front ++ back) = .error failure ↔
      serialize front = .error failure
        ∨ (∃ text, serialize front = .ok text) ∧ serialize back = .error failure := by
  rw [serialize_append]
  cases serialize front with
  | error first => simp [bind, Except.bind]
  | ok text =>
      cases serialize back with
      | error second => simp [bind, Except.bind, Except.map]
      | ok more => simp [bind, Except.bind, Except.map]

/-- A list is refused for the first fault in it. -/
theorem serialize_eq_error {more : List (TermRole × String)}
    (h : quads.flatMap faults = fault :: more) : serialize quads = .error (report fault) := by
  induction quads with
  | nil => cases h
  | cons quad rest ih =>
      rw [List.flatMap_cons] at h
      rw [serialize_cons]
      cases hfaults : quad.faults with
      | nil =>
          rw [hfaults, List.nil_append] at h
          rw [NQuads.line_eq (faults_eq_nil_iff.mp hfaults), ih h]
          rfl
      | cons first others =>
          rw [hfaults, List.cons_append] at h
          obtain ⟨rfl, -⟩ := List.cons.inj h
          rw [line_eq_error hfaults]
          rfl

/-- A list without faults is written. -/
theorem exists_serialize (h : quads.flatMap faults = []) : ∃ text, serialize quads = .ok text :=
  ⟨_, NQuads.serialize_eq fun quad hquad =>
    faults_eq_nil_iff.mp (List.flatMap_eq_nil_iff.mp h quad hquad)⟩

theorem serialize_eq_error_iff :
    serialize quads = .error failure ↔ (quads.flatMap faults).head?.map report = some failure := by
  cases hfaults : quads.flatMap faults with
  | nil =>
      obtain ⟨text, htext⟩ := exists_serialize hfaults
      rw [htext]
      simp
  | cons fault more =>
      rw [serialize_eq_error hfaults]
      simp

theorem exists_serialize_iff :
    (∃ text, serialize quads = .ok text) ↔ ∀ quad ∈ quads, quad.HasAllowedKinds := by
  have hnone : (∀ quad ∈ quads, quad.HasAllowedKinds) ↔ quads.flatMap faults = [] := by
    rw [List.flatMap_eq_nil_iff]
    exact forall₂_congr fun _ _ => faults_eq_nil_iff.symm
  rw [hnone]
  refine ⟨fun ⟨text, htext⟩ => ?_, exists_serialize⟩
  cases hfaults : quads.flatMap faults with
  | nil => rfl
  | cons fault more =>
      rw [serialize_eq_error hfaults] at htext
      cases htext

end Quadlink.Quad
