import Quadlink.Client.Repository
import Quadlink.Proofs.Client.Plans
import Quadlink.Proofs.Rdf.Notation

/-!
# Terms in arguments

Callers give terms as texts, in a notation with some freedom. What is sent for such a text is the
written form of the term that it was read as. Reading that form again in the same place gives the
same term, so nothing of what the caller meant gets lost on the way (`reading_normalizes`).
-/

namespace Quadlink

open Term

def Term.readers : List (String → Except Failure Term) :=
  [readSubject, readPredicate, readObject, readContext]

theorem Term.read_encode_of_read {read : String → Except Failure Term} (hread : read ∈ readers)
    {raw : String} {term : Term} (h : read raw = .ok term) : read term.encode = .ok term := by
  simp only [readers, List.mem_cons, List.not_mem_nil, or_false] at hread
  rcases hread with rfl | rfl | rfl | rfl
  · exact readSubject_encode_of_read h
  · exact readPredicate_encode_of_read h
  · exact readObject_encode_of_read h
  · exact readContext_encode_of_read h

theorem readContext_of_encodeContext {raw sent : String} (h : encodeContext raw = .ok sent) :
    readContext sent = readContext raw := by
  obtain ⟨term, hterm, rfl⟩ := map_eq_ok h
  rw [hterm, readContext_encode_of_read hterm]

/-- Graph names are sent in a form that names the same graphs, in the same order. -/
theorem mapM_readContext_of_encodeContexts {raws sent : List String}
    (h : encodeContexts raws = .ok sent) : sent.mapM readContext = raws.mapM readContext := by
  induction raws generalizing sent with
  | nil =>
      cases h
      rfl
  | cons raw rest ih =>
      rw [encodeContexts, List.mapM_cons] at h
      obtain ⟨first, hfirst, h⟩ := bind_eq_ok h
      obtain ⟨others, hothers, h⟩ := bind_eq_ok h
      cases h
      rw [List.mapM_cons, List.mapM_cons, readContext_of_encodeContext hfirst, ih hothers]

/-- In each of the four places: a text that is read as a term stands for that term and not just for
this one spelling of it. The written form of the term is read as the same term, it is what a
parameter carries for either text, and a list of graph names is sent in a form that names the same
graphs. -/
theorem Term.reading_normalizes {read : String → Except Failure Term} (hread : read ∈ readers)
    {raw : String} {term : Term} (h : read raw = .ok term) :
    read term.encode = .ok term
      ∧ (∀ name, ∀ text ∈ [raw, term.encode],
          RepositoryOperation.termParam name read (some text) = .ok [(name, term.encode)])
      ∧ ∀ raws sent, encodeContexts raws = .ok sent →
          sent.mapM readContext = raws.mapM readContext := by
  have hagain : read term.encode = .ok term := read_encode_of_read hread h
  refine ⟨hagain, fun name text htext => ?_, fun _ _ => mapM_readContext_of_encodeContexts⟩
  have hsame : read text = .ok term := by
    simp only [List.mem_cons, List.not_mem_nil, or_false] at htext
    rcases htext with rfl | rfl
    · exact h
    · exact hagain
  rw [RepositoryOperation.termParam, hsame]
  rfl

/-- A literal with a quote in the middle, a backslash at the end and white space around it. -/
theorem Term.reading_normalizes_awkward_literal :
    readObject " \"a\"b\\\"@en\u00a0" = .ok (.literal "a\"b\\" none (some "en"))
      ∧ readObject "\"a\\\"b\\\\\"@en" = .ok (.literal "a\"b\\" none (some "en")) := by
  have hread : readObject " \"a\"b\\\"@en\u00a0" = .ok (.literal "a\"b\\" none (some "en")) := rfl
  exact ⟨hread, (reading_normalizes (by simp [readers]) hread).1⟩

end Quadlink
