import Quadlink.Client.Server
import Quadlink.Proofs.Client.Addition
import Quadlink.Proofs.Client.Tokens
import Quadlink.Proofs.Rdf.Faults

/-!
# Preconditions

What arguments must be like before anything is sent. `Violates` says for the operations of a
repository, a server and a transaction which arguments break one of their preconditions.

A check is described by `RefusedIff`: a fault of the input where a condition holds, and a value
everywhere else. `RefusedIff.bind` puts checks together that are made one after the other, so the
condition of an operation is read off its plan, check by check (`plan_refusedIff`). An operation
without a plan does nothing at all (`invalid_input_leaves_no_trace`).
-/

namespace Quadlink

/-! ## Refusals -/

/-- A result that is a fault of the input exactly where something is violated. Where nothing is,
there must be a result: a refusal for other reasons is shut out too. -/
structure RefusedIff {α : Type} (result : Except Failure α) (violated : Prop) : Prop where
  refused : violated → ∃ fault, result = .error (.invalidInput fault)
  accepted : ¬violated → ∃ value, result = .ok value

namespace RefusedIff

variable {α β : Type} {result : Except Failure α} {next : α → Except Failure β} {p q : Prop}

theorem of_ok (value : α) : RefusedIff (.ok value) False :=
  ⟨False.elim, fun _ => ⟨value, rfl⟩⟩

theorem congr (h : RefusedIff result p) (hiff : p ↔ q) : RefusedIff result q :=
  ⟨fun hq => h.refused (hiff.mpr hq), fun hq => h.accepted fun hp => hq (hiff.mp hp)⟩

theorem iff_error (h : RefusedIff result p) :
    p ↔ ∃ fault, result = .error (.invalidInput fault) := by
  refine ⟨h.refused, ?_⟩
  rintro ⟨fault, rfl⟩
  by_cases hp : p
  · exact hp
  · obtain ⟨value, hvalue⟩ := h.accepted hp
    cases hvalue

/-- A result that can only fail by a fault of the input is refused where it is no value. -/
theorem of_fault (h : ∀ failure, result = .error failure → ∃ fault, failure = .invalidInput fault) :
    RefusedIff result (∀ value, result ≠ .ok value) := by
  cases result with
  | ok value => exact ⟨fun hno => absurd rfl (hno value), fun _ => ⟨value, rfl⟩⟩
  | error failure =>
      obtain ⟨fault, rfl⟩ := h failure rfl
      exact ⟨fun _ => ⟨fault, rfl⟩, fun hno => absurd (fun _ => nofun) hno⟩

theorem map (h : RefusedIff result p) (f : α → β) : RefusedIff (result.map f) p := by
  constructor
  · intro hp
    obtain ⟨fault, rfl⟩ := h.refused hp
    exact ⟨fault, rfl⟩
  · intro hp
    obtain ⟨value, rfl⟩ := h.accepted hp
    exact ⟨f value, rfl⟩

/-- Of two checks the second is made with the value of the first. -/
theorem bind (h : RefusedIff result p)
    (hnext : ∀ value, result = .ok value → RefusedIff (next value) q) :
    RefusedIff (result >>= next) (p ∨ q) := by
  by_cases hp : p
  · obtain ⟨fault, rfl⟩ := h.refused hp
    exact ⟨fun _ => ⟨fault, rfl⟩, fun hno => absurd (.inl hp) hno⟩
  · obtain ⟨value, rfl⟩ := h.accepted hp
    exact (hnext value rfl).congr (by simp [hp])

/-- What comes after the last check cannot fail. -/
theorem bind_ok (h : RefusedIff result p)
    (hnext : ∀ value, result = .ok value → ∃ last, next value = .ok last) :
    RefusedIff (result >>= next) p := by
  refine (h.bind (q := False) fun value hvalue => ?_).congr (by simp)
  obtain ⟨last, hlast⟩ := hnext value hvalue
  rw [hlast]
  exact .of_ok last

theorem guard {c : Prop} [Decidable c] {fault : InputFault} (h : RefusedIff result p) :
    RefusedIff (if c then .error (.invalidInput fault) else result) (c ∨ p) := by
  by_cases hc : c
  · rw [if_pos hc]
    exact ⟨fun _ => ⟨fault, rfl⟩, fun hno => absurd (.inl hc) hno⟩
  · rw [if_neg hc]
    exact h.congr (by simp [hc])

theorem mapM {f : α → Except Failure β} {p : α → Prop} (h : ∀ a, RefusedIff (f a) (p a))
    (all : List α) : RefusedIff (all.mapM f) (∃ a ∈ all, p a) := by
  induction all with
  | nil => exact (RefusedIff.of_ok []).congr (by simp)
  | cons a rest ih =>
      rw [List.mapM_cons]
      refine ((h a).bind fun value _ => ih.bind_ok fun values _ => ⟨value :: values, rfl⟩).congr ?_
      simp

end RefusedIff

/-! ## Blank texts and data -/

def Text.IsBlankText (text : String) : Prop := ∀ c ∈ text.toList, Text.isBlank c = true

theorem Text.isAllBlank_iff {text : String} : isAllBlank text = true ↔ IsBlankText text :=
  List.all_eq_true

instance (text : String) : Decidable (Text.IsBlankText text) :=
  decidable_of_iff _ Text.isAllBlank_iff

theorem Text.isEmpty_trim_iff {text : String} : (trim text).isEmpty = true ↔ IsBlankText text := by
  rw [String.isEmpty_iff, ← String.toList_inj, trim, String.toList_ofList]
  exact trimChars_eq_nil_iff

def IsBlankData (data : Bytes) : Prop := ∀ b ∈ data, Text.isAsciiBlank b = true

instance (data : Bytes) : Decidable (IsBlankData data) :=
  decidable_of_iff (data.all Text.isAsciiBlank = true) List.all_eq_true

theorem requireData_refusedIff (data : Bytes) : RefusedIff (requireData data) (IsBlankData data) :=
  (RefusedIff.of_ok ()).guard.congr (by simp [IsBlankData])

theorem Resource.ofNamespace_refusedIff (label : String) :
    RefusedIff (ofNamespace label) (Text.IsBlankText label) :=
  (RefusedIff.of_ok _).guard.congr (by rw [or_false, Text.isEmpty_trim_iff])

theorem Resource.repositoryName_refusedIff (id : String) :
    RefusedIff (repositoryName id) (Text.IsBlankText id) :=
  (RefusedIff.of_ok _).guard.congr (by rw [or_false, Text.isEmpty_trim_iff])

/-! ## Queries and updates -/

theorem Query.validate_refusedIff (query : Query) :
    RefusedIff query.validate (Text.IsBlankText query.text ∨ query.limit = some 0) :=
  (RefusedIff.of_ok ()).guard.guard.congr (by rw [or_false, Text.isAllBlank_iff])

theorem Update.validate_refusedIff (update : Update) :
    RefusedIff update.validate (Text.IsBlankText update.text) :=
  (RefusedIff.of_ok ()).guard.congr (by rw [or_false, Text.isAllBlank_iff])

/-! ## Terms -/

/-- A text that stands for no term in some place. The same text may stand for one in another place,
since a literal is an object only. -/
def IsNoTerm (read : String → Except Failure Term) (raw : String) : Prop :=
  ∀ term, read raw ≠ .ok term

instance (read : String → Except Failure Term) (raw : String) : Decidable (IsNoTerm read raw) :=
  match h : read raw with
  | .ok term => .isFalse fun hno => hno term h
  | .error _ => .isTrue fun _ hterm => nomatch h.symm.trans hterm

theorem Term.readSubject_refusedIff (raw : String) :
    RefusedIff (readSubject raw) (IsNoTerm readSubject raw) := by
  refine .of_fault fun failure h => ?_
  unfold readSubject at h
  split at h
  · cases h
  · exact ⟨_, (Except.error.inj h).symm⟩

theorem Term.readPredicate_refusedIff (raw : String) :
    RefusedIff (readPredicate raw) (IsNoTerm readPredicate raw) := by
  refine .of_fault fun failure h => ?_
  unfold readPredicate at h
  split at h
  · cases h
  · exact ⟨_, (Except.error.inj h).symm⟩

theorem Term.readObject_refusedIff (raw : String) :
    RefusedIff (readObject raw) (IsNoTerm readObject raw) := by
  refine .of_fault fun failure h => ?_
  unfold readObject at h
  dsimp only at h
  split at h
  · cases h
  · split at h
    · cases h
    · exact ⟨_, (Except.error.inj h).symm⟩

theorem Term.readContext_refusedIff (raw : String) :
    RefusedIff (readContext raw) (IsNoTerm readContext raw) := by
  refine .of_fault fun failure h => ?_
  unfold readContext at h
  dsimp only at h
  split at h
  · cases h
  · split at h
    · cases h
    · exact ⟨_, (Except.error.inj h).symm⟩

def IsBadArgument (read : String → Except Failure Term) (argument : Option String) : Prop :=
  ∃ raw ∈ argument, IsNoTerm read raw

instance (read : String → Except Failure Term) (argument : Option String) :
    Decidable (IsBadArgument read argument) :=
  inferInstanceAs (Decidable (∃ raw ∈ argument, IsNoTerm read raw))

theorem contextParam_refusedIff (context : Option String) :
    RefusedIff (contextParam context) (IsBadArgument Term.readContext context) := by
  cases context with
  | none => exact (RefusedIff.of_ok []).congr (by simp [IsBadArgument])
  | some raw =>
      exact (((Term.readContext_refusedIff raw).map _).map _).congr (by simp [IsBadArgument])

theorem RepositoryOperation.termParam_refusedIff (name : String)
    {read : String → Except Failure Term} (h : ∀ raw, RefusedIff (read raw) (IsNoTerm read raw))
    (argument : Option String) :
    RefusedIff (termParam name read argument) (IsBadArgument read argument) := by
  cases argument with
  | none => exact (RefusedIff.of_ok []).congr (by simp [IsBadArgument])
  | some raw => exact ((h raw).map _).congr (by simp [IsBadArgument])

theorem patternParams_refusedIff (pattern : StatementPattern) :
    RefusedIff (patternParams pattern)
      (∃ raw ∈ pattern.contexts, IsNoTerm Term.readContext raw) :=
  (RefusedIff.mapM (fun raw => (Term.readContext_refusedIff raw).map Term.encode) _).map _

/-! ## Statements -/

/-- The arguments of an addition do not make up a statement. -/
def IsNoStatement (subject predicate object : String) (context : Option String) : Prop :=
  IsNoTerm Term.readSubject subject ∨ IsNoTerm Term.readPredicate predicate
    ∨ IsNoTerm Term.readObject object ∨ IsBadArgument Term.readContext context

instance (subject predicate object : String) (context : Option String) :
    Decidable (IsNoStatement subject predicate object context) :=
  inferInstanceAs (Decidable (_ ∨ _ ∨ _ ∨ _))

theorem readQuad_refusedIff (subject predicate object : String) (context : Option String) :
    RefusedIff (readQuad subject predicate object context)
      (IsNoStatement subject predicate object context) := by
  refine (Term.readSubject_refusedIff subject).bind fun _ _ => ?_
  refine (Term.readPredicate_refusedIff predicate).bind fun _ _ => ?_
  refine (Term.readObject_refusedIff object).bind fun _ _ => ?_
  cases context with
  | none => exact (RefusedIff.of_ok _).congr (by simp [IsBadArgument])
  | some raw =>
      refine ((Term.readContext_refusedIff raw).bind_ok fun _ _ => ⟨_, rfl⟩).congr ?_
      simp [IsBadArgument]

/-- Statements are written if none of them has a fault. -/
theorem Quad.serialize_refusedIff (quads : List Quad) :
    RefusedIff (serialize quads) (∃ quad ∈ quads, ¬quad.HasAllowedKinds) := by
  constructor
  · rintro ⟨quad, hquad, hkinds⟩
    cases hfaults : quads.flatMap faults with
    | nil =>
        have hnone := List.flatMap_eq_nil_iff.mp hfaults quad hquad
        exact absurd (faults_eq_nil_iff.mp hnone) hkinds
    | cons fault more => exact ⟨_, serialize_eq_error hfaults⟩
  · intro hnone
    refine exists_serialize_iff.mpr fun quad hquad => ?_
    by_contra hkinds
    exact hnone ⟨quad, hquad, hkinds⟩

/-- Statements that cannot be sent: none at all, or one with a term where it may not stand. -/
def AreUnsendable (quads : List Quad) : Prop :=
  quads = [] ∨ ∃ quad ∈ quads, ¬quad.HasAllowedKinds

instance (quads : List Quad) : Decidable (AreUnsendable quads) :=
  inferInstanceAs (Decidable (_ ∨ _))

theorem writeQuads_refusedIff (quads : List Quad) :
    RefusedIff (writeQuads quads) (AreUnsendable quads) :=
  (Quad.serialize_refusedIff quads).guard.congr (by rw [List.isEmpty_iff, AreUnsendable])

/-- A statement that was read can be written. -/
theorem not_areUnsendable_of_readQuad {subject predicate object : String}
    {context : Option String} {quad : Quad}
    (h : readQuad subject predicate object context = .ok quad) : ¬AreUnsendable [quad] := by
  have hkinds := (readQuad_eq_ok_iff.mp h).hasAllowedKinds
  simp [AreUnsendable, hkinds]

/-! ## Operations -/

namespace RepositoryOperation

/-- Arguments that break a precondition of an operation on a repository. They are said in terms of
the arguments alone: neither the configuration nor the state of a client makes a difference. -/
def Violates : RepositoryOperation → Prop
  | .size context => IsBadArgument Term.readContext context
  | .get pattern => ∃ raw ∈ pattern.contexts, IsNoTerm Term.readContext raw
  | .query asked => Text.IsBlankText asked.text ∨ asked.limit = some 0
  | .update change => Text.IsBlankText change.text
  | .add subject predicate object context => IsNoStatement subject predicate object context
  | .addQuads quads => AreUnsendable quads
  | .putQuads quads => AreUnsendable quads
  | .addData data _ context =>
    IsBlankData (Text.encode data) ∨ IsBadArgument Term.readContext context
  | .upload data _ context _ => IsBadArgument Term.readContext context ∨ IsBlankData data
  | .overwrite data _ context _ => IsBadArgument Term.readContext context ∨ IsBlankData data
  | .deleteStatements subject predicate object context =>
    IsBadArgument Term.readSubject subject ∨ IsBadArgument Term.readPredicate predicate
      ∨ IsBadArgument Term.readObject object ∨ IsBadArgument Term.readContext context
  | .getNamespace label => Text.IsBlankText label
  | .saveNamespace label iri => Text.IsBlankText label ∨ Text.IsBlankText iri
  | .deleteNamespace label => Text.IsBlankText label
  | .execute _ | .deleteAll | .namespaces | .deleteNamespaces | .contexts => False

instance : (operation : RepositoryOperation) → Decidable operation.Violates
  | .size _ => inferInstanceAs (Decidable (IsBadArgument _ _))
  | .get _ => inferInstanceAs (Decidable (∃ raw ∈ _, IsNoTerm _ raw))
  | .query _ => inferInstanceAs (Decidable (_ ∨ _))
  | .update _ => inferInstanceAs (Decidable (Text.IsBlankText _))
  | .add .. => inferInstanceAs (Decidable (IsNoStatement _ _ _ _))
  | .addQuads _ => inferInstanceAs (Decidable (AreUnsendable _))
  | .putQuads _ => inferInstanceAs (Decidable (AreUnsendable _))
  | .addData .. => inferInstanceAs (Decidable (_ ∨ _))
  | .upload .. => inferInstanceAs (Decidable (_ ∨ _))
  | .overwrite .. => inferInstanceAs (Decidable (_ ∨ _))
  | .deleteStatements .. => inferInstanceAs (Decidable (_ ∨ _ ∨ _ ∨ _))
  | .getNamespace _ => inferInstanceAs (Decidable (Text.IsBlankText _))
  | .saveNamespace .. => inferInstanceAs (Decidable (_ ∨ _))
  | .deleteNamespace _ => inferInstanceAs (Decidable (Text.IsBlankText _))
  | .execute _ | .deleteAll | .namespaces | .deleteNamespaces | .contexts =>
    inferInstanceAs (Decidable False)

theorem sendingFile_refusedIff (profile : Profile) (request : Request) (data : Bytes)
    (contentType context baseIri : Option String) :
    RefusedIff (sendingFile profile request data contentType context baseIri)
      (IsBadArgument Term.readContext context ∨ IsBlankData data) :=
  (contextParam_refusedIff context).bind fun _ _ =>
    (requireData_refusedIff data).bind_ok fun _ _ => ⟨_, rfl⟩

/-- An operation is refused where its arguments break a precondition, and nowhere else. -/
theorem plan_refusedIff (profile : Profile) (operation : RepositoryOperation) :
    RefusedIff (operation.plan profile) operation.Violates := by
  cases operation with
  | execute request => exact .of_ok _
  | size context => exact (contextParam_refusedIff context).bind_ok fun _ _ => ⟨_, rfl⟩
  | get pattern => exact (patternParams_refusedIff pattern).bind_ok fun _ _ => ⟨_, rfl⟩
  | query asked => exact asked.validate_refusedIff.bind_ok fun _ _ => ⟨_, rfl⟩
  | update change => exact change.validate_refusedIff.bind_ok fun _ _ => ⟨_, rfl⟩
  | add subject predicate object context =>
      refine (readQuad_refusedIff subject predicate object context).bind_ok fun quad hquad => ?_
      exact ((writeQuads_refusedIff [quad]).map _).accepted (not_areUnsendable_of_readQuad hquad)
  | addQuads quads => exact (writeQuads_refusedIff quads).map _
  | putQuads quads => exact (writeQuads_refusedIff quads).map _
  | addData data contentType context =>
      exact (requireData_refusedIff _).bind fun _ _ =>
        (contextParam_refusedIff context).bind_ok fun _ _ => ⟨_, rfl⟩
  | upload data contentType context baseIri => exact sendingFile_refusedIff ..
  | overwrite data contentType context baseIri => exact sendingFile_refusedIff ..
  | deleteStatements subject predicate object context =>
      exact (termParam_refusedIff _ Term.readSubject_refusedIff subject).bind fun _ _ =>
        (termParam_refusedIff _ Term.readPredicate_refusedIff predicate).bind fun _ _ =>
          (termParam_refusedIff _ Term.readObject_refusedIff object).bind fun _ _ =>
            (termParam_refusedIff _ Term.readContext_refusedIff context).bind_ok fun _ _ => ⟨_, rfl⟩
  | deleteAll => exact .of_ok _
  | namespaces => exact .of_ok _
  | getNamespace label =>
      exact (Resource.ofNamespace_refusedIff label).bind_ok fun _ _ => ⟨_, rfl⟩
  | saveNamespace label iri =>
      refine (Resource.ofNamespace_refusedIff label).bind fun resource _ => ?_
      exact (RefusedIff.of_ok _).guard.congr (by rw [or_false, Text.isAllBlank_iff])
  | deleteNamespace label =>
      exact (Resource.ofNamespace_refusedIff label).bind_ok fun _ _ => ⟨_, rfl⟩
  | deleteNamespaces => exact .of_ok _
  | contexts => exact .of_ok _

end RepositoryOperation

namespace ServerOperation

def Violates : ServerOperation → Prop
  | .hasRepository id => Text.IsBlankText id
  | .deleteRepository id => Text.IsBlankText id
  | .repositoryNames | .protocolVersion => False

instance : (operation : ServerOperation) → Decidable operation.Violates
  | .hasRepository _ => inferInstanceAs (Decidable (Text.IsBlankText _))
  | .deleteRepository _ => inferInstanceAs (Decidable (Text.IsBlankText _))
  | .repositoryNames | .protocolVersion => inferInstanceAs (Decidable False)

theorem plan_refusedIff (profile : Profile) (operation : ServerOperation) :
    RefusedIff (operation.plan profile) operation.Violates := by
  cases operation with
  | repositoryNames => exact .of_ok _
  | hasRepository id => exact (Resource.repositoryName_refusedIff id).bind_ok fun _ _ => ⟨_, rfl⟩
  | deleteRepository id =>
      exact (Resource.repositoryName_refusedIff id).bind_ok fun _ _ => ⟨_, rfl⟩
  | protocolVersion => exact .of_ok _

end ServerOperation

namespace TransactionOperation

def Violates : TransactionOperation → Prop
  | .get pattern => ∃ raw ∈ pattern.contexts, IsNoTerm Term.readContext raw
  | .add subject predicate object context => IsNoStatement subject predicate object context
  | .addQuads quads => AreUnsendable quads
  | .addData data _ => IsBlankData (Text.encode data)
  | .deleteData data _ => IsBlankData (Text.encode data)
  | .upload data _ _ => IsBlankData data
  | .size context => IsBadArgument Term.readContext context
  | .query asked => Text.IsBlankText asked.text ∨ asked.limit = some 0
  | .update change => Text.IsBlankText change.text
  | .commit | .rollback => False

instance : (operation : TransactionOperation) → Decidable operation.Violates
  | .get _ => inferInstanceAs (Decidable (∃ raw ∈ _, IsNoTerm _ raw))
  | .add .. => inferInstanceAs (Decidable (IsNoStatement _ _ _ _))
  | .addQuads _ => inferInstanceAs (Decidable (AreUnsendable _))
  | .addData .. => inferInstanceAs (Decidable (IsBlankData _))
  | .deleteData .. => inferInstanceAs (Decidable (IsBlankData _))
  | .upload .. => inferInstanceAs (Decidable (IsBlankData _))
  | .size _ => inferInstanceAs (Decidable (IsBadArgument _ _))
  | .query _ => inferInstanceAs (Decidable (_ ∨ _))
  | .update _ => inferInstanceAs (Decidable (Text.IsBlankText _))
  | .commit | .rollback => inferInstanceAs (Decidable False)

theorem plan_refusedIff (profile : Profile) (operation : TransactionOperation) :
    RefusedIff (operation.plan profile) operation.Violates := by
  cases operation with
  | get pattern => exact (patternParams_refusedIff pattern).bind_ok fun _ _ => ⟨_, rfl⟩
  | add subject predicate object context =>
      refine (readQuad_refusedIff subject predicate object context).bind_ok fun quad hquad => ?_
      exact ((writeQuads_refusedIff [quad]).map _).accepted (not_areUnsendable_of_readQuad hquad)
  | addQuads quads => exact (writeQuads_refusedIff quads).map _
  | addData data contentType => exact (requireData_refusedIff _).bind_ok fun _ _ => ⟨_, rfl⟩
  | deleteData data contentType => exact (requireData_refusedIff _).bind_ok fun _ _ => ⟨_, rfl⟩
  | upload data contentType baseIri => exact (requireData_refusedIff _).bind_ok fun _ _ => ⟨_, rfl⟩
  | size context => exact (contextParam_refusedIff context).bind_ok fun _ _ => ⟨_, rfl⟩
  | query asked => exact asked.validate_refusedIff.bind_ok fun _ _ => ⟨_, rfl⟩
  | update change => exact change.validate_refusedIff.bind_ok fun _ _ => ⟨_, rfl⟩
  | commit => exact .of_ok _
  | rollback => exact .of_ok _

end TransactionOperation

/-! ## No trace -/

variable {σ : Type}

namespace Client

variable (repository : Repository) (net : Network σ) (client : Client σ)

/-- An operation on a repository that is refused leaves the client as it was. -/
theorem step_of_refused {operation : RepositoryOperation} {failure : Failure}
    (h : operation.plan repository.profile = .error failure) :
    client.step repository net (.onRepository operation)
      = (.answered (.error failure), client) := by
  simp only [step, Repository.run, h]

theorem step_of_refused_inside {index : Nat} {transaction : Transaction}
    {operation : TransactionOperation} {failure : Failure}
    (hget : client.transactions[index]? = some transaction) (hactive : transaction.state = .active)
    (h : operation.plan transaction.profile = .error failure) :
    client.step repository net (.inTransaction index operation)
      = (.answered (.error failure), client) := by
  obtain ⟨hlt, hvalue⟩ := List.getElem?_eq_some_iff.mp hget
  have hrun : transaction.run net operation client.exchange
      = (.error failure, transaction, client.exchange) := by
    rw [Transaction.run, if_neg (by simp [TransactionState.isFinal, hactive]), h]
  simp only [step, hget, hrun]
  rw [← hvalue, List.set_getElem_self]

theorem call?_of_ending {index : Nat} (hactive : client.stateOf index = some .active)
    {operation : TransactionOperation} (hending : operation.ending?.isSome = true) :
    ∃ channel request, client.call? repository (.inTransaction index operation)
        = some (channel, request) ∧ request.EndsTransaction := by
  obtain ⟨transaction, hget, hstate⟩ := Option.map_eq_some_iff.mp hactive
  have hnot : ¬operation.Violates := by
    cases operation with
    | commit => exact id
    | rollback => exact id
    | _ => cases hending
  obtain ⟨plan, hplan⟩ := (operation.plan_refusedIff transaction.profile).accepted hnot
  refine ⟨transaction.channel, plan.request, ?_,
    TransactionOperation.endsTransaction_of_ending? hplan hending⟩
  simp only [call?, hget, hplan]
  rw [if_neg (by simp [TransactionState.isFinal, hstate])]
  rfl

end Client

/-- An operation whose arguments break a precondition fails with a fault of the input and leaves
everything as it was: the session with its token, what was sent, and the transactions. Nothing else
is refused in this way, and an active transaction can still be ended. -/
theorem invalid_input_leaves_no_trace (net : Network σ) :
    (∀ repository operation, ∀ client : Client σ,
      (operation.Violates → ∃ fault, client.step repository net (.onRepository operation)
          = (.answered (.error (.invalidInput fault)), client))
        ∧ (¬operation.Violates → ∃ plan, operation.plan repository.profile = .ok plan))
      ∧ (∀ (server : Server) operation, ∀ x : Exchange σ,
        (operation.Violates → ∃ fault, server.run net operation x
            = (.error (.invalidInput fault), x))
          ∧ (¬operation.Violates → ∃ plan, operation.plan server.profile = .ok plan))
      ∧ ∀ repository operation index, ∀ client : Client σ, client.stateOf index = some .active →
        (operation.Violates →
          (∃ fault, client.step repository net (.inTransaction index operation)
              = (.answered (.error (.invalidInput fault)), client))
            ∧ ∀ ending : TransactionOperation, ending.ending?.isSome = true →
              ∃ channel request, client.call? repository (.inTransaction index ending)
                = some (channel, request) ∧ request.EndsTransaction)
          ∧ (¬operation.Violates →
            (client.call? repository (.inTransaction index operation)).isSome = true) := by
  refine ⟨?_, ?_, ?_⟩
  · intro repository operation client
    have hplan := operation.plan_refusedIff repository.profile
    refine ⟨fun hviolates => ?_, hplan.accepted⟩
    obtain ⟨fault, hfault⟩ := hplan.refused hviolates
    exact ⟨fault, client.step_of_refused repository net hfault⟩
  · intro server operation x
    have hplan := operation.plan_refusedIff server.profile
    refine ⟨fun hviolates => ?_, hplan.accepted⟩
    obtain ⟨fault, hfault⟩ := hplan.refused hviolates
    exact ⟨fault, by rw [Server.run, hfault]⟩
  · intro repository operation index client hactive
    obtain ⟨transaction, hget, hstate⟩ := Option.map_eq_some_iff.mp hactive
    have hplan := operation.plan_refusedIff transaction.profile
    refine ⟨fun hviolates => ⟨?_, fun ending hending => ?_⟩, fun hkept => ?_⟩
    · obtain ⟨fault, hfault⟩ := hplan.refused hviolates
      exact ⟨fault, client.step_of_refused_inside repository net hget hstate hfault⟩
    · exact client.call?_of_ending repository hactive hending
    · obtain ⟨plan, hok⟩ := hplan.accepted hkept
      simp only [Client.call?, hget, hok]
      rw [if_neg (by simp [TransactionState.isFinal, hstate])]
      rfl

set_option maxRecDepth 10000 in
/-- A client that has to log in first does not even do that for a namespace without an IRI or a
repository without a name. A transaction in which the last of some statements has a literal for its
graph can still be committed. -/
theorem invalid_input_leaves_no_trace_before_login :
    let fresh := Client.start Client.tokenConfig.client ()
    let server : Server :=
      ⟨Client.tokenRepository.endpoints.first, Client.tokenRepository.channel,
        Client.tokenRepository.profile⟩
    let opened :=
      ((Client.start {} ()).step Client.localRepository Client.openingOnly (.begin none)).2
    let quads : List Quad :=
      [⟨.iri "urn:s", .iri "urn:p", .literal "o" none none, .defaultGraph⟩,
        ⟨.iri "urn:s", .iri "urn:p", .literal "o" none none, .literal "g" none none⟩]
    fresh.exchange.session.requiresLogin = true
      ∧ (∃ fault, fresh.step Client.tokenRepository Client.tokenServer
            (.onRepository (.saveNamespace "p" " \u2003"))
          = (.answered (.error (.invalidInput fault)), fresh))
      ∧ (∃ fault, server.run Client.tokenServer (.deleteRepository "\t") fresh.exchange
          = (.error (.invalidInput fault), fresh.exchange))
      ∧ opened.stateOf 0 = some .active
      ∧ (∃ fault, opened.step Client.localRepository Client.openingOnly
            (.inTransaction 0 (.addQuads quads))
          = (.answered (.error (.invalidInput fault)), opened))
      ∧ ∃ channel request, opened.call? Client.localRepository (.inTransaction 0 .commit)
          = some (channel, request) ∧ request.EndsTransaction := by
  intro fresh server opened quads
  obtain ⟨honRepository, honServer, -⟩ := invalid_input_leaves_no_trace Client.tokenServer
  obtain ⟨-, -, hinside⟩ := invalid_input_leaves_no_trace Client.openingOnly
  have hactive : opened.stateOf 0 = some .active := rfl
  obtain ⟨hrefused, hending⟩ :=
    (hinside Client.localRepository (.addQuads quads) 0 opened hactive).1 (by decide)
  exact ⟨rfl, (honRepository _ (.saveNamespace "p" " \u2003") fresh).1 (by decide),
    (honServer server (.deleteRepository "\t") fresh.exchange).1 (by decide), hactive, hrefused,
    hending .commit rfl⟩

end Quadlink
