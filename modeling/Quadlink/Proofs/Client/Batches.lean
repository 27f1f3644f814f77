import Quadlink.Proofs.Client.Preconditions

/-!
# Statements in batches

A list of statements is sent as one text, and only if all of it can be written: a single fault,
wherever it stands, keeps the whole list back, and then nothing happens at all
(`Client.SendsTogether`). Every operation that sends such a list is made in the same way out of what
is written of it, so one lemma for each kind of operation is enough (`sendsTogether_of_plan`,
`sendsTogether_of_plan_inside`).
-/

namespace Quadlink

variable {σ : Type} {quads : List Quad}

theorem writeQuads_of_ne_nil (h : quads ≠ []) : writeQuads quads = Quad.serialize quads :=
  if_neg (mt List.isEmpty_iff.mp h)

theorem writeQuads_eq_error {failure : Failure} (h : Quad.serialize quads = .error failure) :
    writeQuads quads = .error failure := by
  have hsome : quads ≠ [] := by
    rintro rfl
    cases h
  rw [writeQuads_of_ne_nil hsome, h]

namespace Client

/-! ## Commands -/

/-- A command that sends statements together or not at all. If one of them cannot be written, or if
there are none, it fails and leaves everything as it was; otherwise it calls for one request with
all of their lines. -/
structure SendsTogether (repository : Repository) (client : Client σ) (command : Command)
    (channel : Channel) (quads : List Quad) : Prop where
  refused : ∀ failure, Quad.serialize quads = .error failure → ∀ net : Network σ,
    client.step repository net command = (.answered (.error failure), client)
  empty : quads = [] → ∀ net : Network σ,
    client.step repository net command
      = (.answered (.error (.invalidInput .noStatements)), client)
  sent : ∀ text, quads ≠ [] → Quad.serialize quads = .ok text →
    client.CallsFor repository command channel (·.body = some (.text text))

variable {repository : Repository} {client : Client σ} {command : Command} {channel : Channel}

/-- It is enough to know what the command does with the text, or in place of it. -/
theorem SendsTogether.of_writeQuads
    (hrefused : ∀ failure, writeQuads quads = .error failure → ∀ net : Network σ,
      client.step repository net command = (.answered (.error failure), client))
    (hsent : ∀ text, writeQuads quads = .ok text →
      client.CallsFor repository command channel (·.body = some (.text text))) :
    client.SendsTogether repository command channel quads := by
  refine ⟨fun failure h => hrefused failure (writeQuads_eq_error h), ?_, ?_⟩
  · rintro rfl
    exact hrefused _ rfl
  · intro text hsome htext
    exact hsent text ((writeQuads_of_ne_nil hsome).trans htext)

theorem body_withToken {request : Request} {body : RequestBody} (h : request.body = some body)
    (token : Option String) : (request.withToken token).body = some body := by
  cases token <;> exact h

variable {f : String → Plan}

theorem sendsTogether_of_plan {operation : RepositoryOperation}
    (hplan : operation.plan repository.profile = (writeQuads quads).map f)
    (hbody : ∀ text, (f text).request.body = some (.text text)) :
    client.SendsTogether repository (.onRepository operation) repository.channel quads := by
  refine .of_writeQuads (fun failure h net => ?_) fun text h => ?_
  · rw [h] at hplan
    exact client.step_of_refused repository net hplan
  · rw [h] at hplan
    exact callsFor_of_plan hplan (body_withToken (hbody text))

theorem sendsTogether_of_plan_inside {index : Nat} {transaction : Transaction}
    {operation : TransactionOperation} (hget : client.transactions[index]? = some transaction)
    (hactive : transaction.state = .active)
    (hplan : operation.plan transaction.profile = (writeQuads quads).map f)
    (hbody : ∀ text, (f text).request.body = some (.text text)) :
    client.SendsTogether repository (.inTransaction index operation) transaction.channel quads := by
  refine .of_writeQuads (fun failure h net => ?_) fun text h => ?_
  · rw [h] at hplan
    exact client.step_of_refused_inside repository net hget hactive hplan
  · rw [h] at hplan
    exact callsFor_of_plan_inside hget hactive hplan (body_withToken (hbody text))

/-- Statements are written all or none. Of two lists together both are written, one behind the
other, or the failure is that of the first list which has one; the failure of a list is its first
fault, and a list without faults is written. So whatever adds or replaces statements sends all of
them or does nothing. -/
theorem batch_is_all_or_nothing (front back quads : List Quad) (repository : Repository)
    (client : Client σ) :
    (∀ text, Quad.serialize (front ++ back) = .ok text ↔
        ∃ first second, Quad.serialize front = .ok first ∧ Quad.serialize back = .ok second
          ∧ text = first ++ second)
      ∧ (∀ failure, Quad.serialize (front ++ back) = .error failure ↔
        Quad.serialize front = .error failure
          ∨ (∃ text, Quad.serialize front = .ok text) ∧ Quad.serialize back = .error failure)
      ∧ (∀ failure, Quad.serialize quads = .error failure ↔
        (quads.flatMap Quad.faults).head?.map Quad.report = some failure)
      ∧ ((∃ text, Quad.serialize quads = .ok text) ↔ ∀ quad ∈ quads, quad.HasAllowedKinds)
      ∧ client.SendsTogether repository (.onRepository (.addQuads quads)) repository.channel quads
      ∧ client.SendsTogether repository (.onRepository (.putQuads quads)) repository.channel quads
      ∧ ∀ index transaction, client.transactions[index]? = some transaction →
        transaction.state = .active →
        client.SendsTogether repository (.inTransaction index (.addQuads quads))
          transaction.channel quads := by
  refine ⟨fun _ => Quad.serialize_append_eq_ok_iff, fun _ => Quad.serialize_append_eq_error_iff,
    fun _ => Quad.serialize_eq_error_iff, Quad.exists_serialize_iff, ?_, ?_, ?_⟩
  · exact sendsTogether_of_plan rfl fun _ => rfl
  · exact sendsTogether_of_plan rfl fun _ => rfl
  · intro index transaction hget hactive
    exact sendsTogether_of_plan_inside hget hactive rfl fun _ => rfl

/-- The second of three statements has the default graph for its object and a literal for its graph.
Inside an open transaction the first of these faults is reported, and nothing is sent. -/
theorem batch_is_all_or_nothing_of_second_statement :
    let opened := ((start {} ()).step localRepository openingOnly (.begin none)).2
    let sound : Quad := ⟨.blankNode "b", .iri "urn:p", .literal "o" none none, .defaultGraph⟩
    let quads := [sound, ⟨.iri "urn:s", .iri "urn:p", .defaultGraph, .literal "g" none none⟩, sound]
    opened.stateOf 0 = some .active
      ∧ Quad.serialize quads = .error (.invalidInput (.notA .object "default graph"))
      ∧ opened.step localRepository openingOnly (.inTransaction 0 (.addQuads quads))
          = (.answered (.error (.invalidInput (.notA .object "default graph"))), opened) := by
  intro opened sound quads
  have hactive : opened.stateOf 0 = some .active := rfl
  obtain ⟨transaction, hget, hstate⟩ := Option.map_eq_some_iff.mp hactive
  obtain ⟨-, -, hfault, -, -, -, hinside⟩ :=
    batch_is_all_or_nothing [sound] quads.tail quads localRepository opened
  have hrefused := (hfault (.invalidInput (.notA .object "default graph"))).mpr rfl
  exact ⟨hactive, hrefused, (hinside 0 transaction hget hstate).refused _ hrefused openingOnly⟩

end Client

end Quadlink
