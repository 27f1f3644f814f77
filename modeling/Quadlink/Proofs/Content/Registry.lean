import Mathlib.Data.List.Dedup
import Quadlink.Content.Parsers
import Quadlink.Proofs.Histories
import Quadlink.Proofs.Http.Lookup
import Quadlink.Proofs.Http.MediaTypes

/-!
# Registered parsers

Which parser a type has after any number of registrations. Parsers are kept by the normal forms of
their types, and `Parsers.Holds` says of them that they have the last parser for each; one
registration keeps this up with its history (`Holds.register`), and so do any number of them
(`Holds.registerAll`). All that can be seen of parsers follows from it (`Holds.reflects`).
-/

namespace Quadlink

/-! ## Registrations -/

def Parser.key (parser : Parser) : String := MediaType.normalize parser.mediaType

namespace Parsers

def registerAll (parsers : Parsers) (history : List Parser) : Parsers := history.foldl register parsers

def defaults : List Parser := [.results, .handOn MediaType.textPlain false]

/-- The parser is the last of some that was registered for a type, in any spelling of the type. -/
def IsLatest (history : List Parser) (type : String) (parser : Parser) : Prop :=
  ∃ earlier later, history = earlier ++ parser :: later
    ∧ parser.key = MediaType.normalize type
    ∧ ∀ other ∈ later, other.key ≠ MediaType.normalize type

def latest? (history : List Parser) (key : String) : Option Parser :=
  history.reverse.find? fun parser => parser.key == key

variable {parsers : Parsers} {history : List Parser} {parser : Parser} {type : String}

theorem latest?_concat (history : List Parser) (parser : Parser) (key : String) :
    latest? (history ++ [parser]) key
      = if key = parser.key then some parser else latest? history key := by
  rw [latest?, List.reverse_concat, List.find?_cons]
  by_cases h : key = parser.key
  · rw [if_pos h, h, beq_self_eq_true]
  · rw [if_neg h, beq_eq_false_iff_ne.mpr (Ne.symm h)]
    rfl

theorem latest?_eq_none_iff {key : String} :
    latest? history key = none ↔ ∀ parser ∈ history, parser.key ≠ key := by
  simp [latest?]

theorem latest?_eq_some_iff :
    latest? history (MediaType.normalize type) = some parser ↔ IsLatest history type parser := by
  rw [latest?, List.find?_eq_some_iff_append]
  constructor
  · rintro ⟨hkey, before, after, hreverse, hbefore⟩
    refine ⟨after.reverse, before.reverse, ?_, beq_iff_eq.mp hkey, fun other hother => ?_⟩
    · rw [← List.reverse_reverse history, hreverse]
      simp
    · simpa using hbefore other (List.mem_reverse.mp hother)
  · rintro ⟨earlier, later, rfl, hkey, hlater⟩
    refine ⟨beq_iff_eq.mpr hkey, later.reverse, earlier.reverse, by simp, fun other hother => ?_⟩
    simpa using hlater other (List.mem_reverse.mp hother)

def Holds (parsers : Parsers) (history : List Parser) : Prop :=
  ∀ key, parsers.map.get? key = latest? history key

theorem empty_holds : empty.Holds [] := fun _ => rfl

/-- A registration is one more step of the history. -/
theorem Holds.register (h : parsers.Holds history) (parser : Parser) :
    (parsers.register parser).Holds (history ++ [parser]) := by
  intro key
  rw [latest?_concat, ← h key]
  exact NameMap.get?_insert parsers.map parser.key key parser

theorem Holds.registerAll (h : parsers.Holds history) (more : List Parser) :
    (parsers.registerAll more).Holds (history ++ more) :=
  foldl_history (R := Holds) (fun _ _ parser h => h.register parser) h more

theorem standard_holds : standard.Holds defaults :=
  empty_holds.registerAll defaults

/-- What can be seen of parsers is what a history of registrations says: the latest parser of each
type, whether it takes streams, and the types, each once. -/
structure Reflects (parsers : Parsers) (history : List Parser) : Prop where
  found : ∀ type parser, parsers.get? type = some parser ↔ IsLatest history type parser
  missing : ∀ type, parsers.get? type = none ↔
    ∀ parser ∈ history, parser.key ≠ MediaType.normalize type
  streaming : ∀ type, parsers.isStreaming type = true ↔
    ∃ parser, IsLatest history type parser ∧ parser.isStreaming = true
  size : parsers.size = (history.map Parser.key).dedup.length
  empty : parsers.isEmpty = true ↔ history = []
  types : ∃ types : List String, types.Pairwise (· < ·)
    ∧ (∀ type, type ∈ types ↔ ∃ parser ∈ history, parser.key = type)
    ∧ parsers.shown
        = "ParserRegistry \x7b types: [" ++ String.intercalate ", " (types.map Text.shown) ++ "] \x7d"

theorem shown_eq (parsers : Parsers) :
    parsers.shown = "ParserRegistry \x7b types: ["
      ++ String.intercalate ", " (parsers.map.names.map Text.shown) ++ "] \x7d" := by
  unfold shown
  generalize String.intercalate ", " (parsers.map.names.map Text.shown) = listed
  rw [← String.toList_inj]
  simp [Text.shownFields, String.toList_append]

theorem Holds.mem_names_iff (h : parsers.Holds history) {key : String} :
    key ∈ parsers.map.names ↔ ∃ parser ∈ history, parser.key = key := by
  rw [NameMap.mem_names_iff, h key, ← Option.ne_none_iff_exists', Ne, latest?_eq_none_iff]
  simp

theorem Holds.names_perm (h : parsers.Holds history) :
    parsers.map.names.Perm (history.map Parser.key).dedup := by
  refine (List.perm_ext_iff_of_nodup parsers.map.nodup_names (List.nodup_dedup _)).mpr fun key => ?_
  rw [List.mem_dedup]
  exact h.mem_names_iff.trans List.mem_map.symm

theorem Holds.reflects (h : parsers.Holds history) : parsers.Reflects history := by
  have hfound : ∀ type parser, parsers.get? type = some parser ↔ IsLatest history type parser := by
    intro type parser
    rw [get?, h, latest?_eq_some_iff]
  have hsize : parsers.size = (history.map Parser.key).dedup.length := by
    rw [← h.names_perm.length_eq]
    exact (List.length_map _).symm
  refine ⟨hfound, fun type => ?_, fun type => ?_, hsize, ?_, ?_⟩
  · rw [get?, h, latest?_eq_none_iff]
  · rw [isStreaming, Option.any_eq_true]
    exact exists_congr fun parser => and_congr_left' (hfound type parser)
  · rw [isEmpty, NameMap.isEmpty, List.isEmpty_iff, ← List.length_eq_zero_iff]
    show parsers.size = 0 ↔ history = []
    rw [hsize, List.length_eq_zero_iff, List.dedup_eq_nil, List.map_eq_nil_iff]
  · exact ⟨parsers.map.names, parsers.map.sorted_names, fun type => h.mem_names_iff,
      parsers.shown_eq⟩

/-! ## Laws -/

theorem get?_of_alike (parsers : Parsers) {a b : String} (h : MediaType.Alike a b) :
    parsers.get? a = parsers.get? b :=
  congrArg parsers.map.get? (MediaType.normalize_of_alike h)

theorem isStreaming_of_alike (parsers : Parsers) {a b : String} (h : MediaType.Alike a b) :
    parsers.isStreaming a = parsers.isStreaming b := by
  rw [isStreaming, parsers.get?_of_alike h, isStreaming]

theorem register_comm (parsers : Parsers) {first second : Parser} (h : first.key ≠ second.key) :
    (parsers.register first).register second = (parsers.register second).register first :=
  congrArg Parsers.mk (parsers.map.insert_comm h first second)

/-- A parser is found under any spelling of the type that it was made for. -/
theorem get?_register_of_alike (parsers : Parsers) {parser : Parser} {type : String}
    (h : MediaType.Alike parser.mediaType type) :
    (parsers.register parser).get? type = some parser := by
  rw [← get?_of_alike _ h]
  exact (NameMap.get?_insert _ _ _ _).trans (if_pos rfl)

/-- Parsers are a map on media types. After any registrations, with the usual parsers before them or
without, a look-up gives the parser that was registered last for its type. Spellings of one type are
looked up alike, and they are the ones with the same normal form, so a parser made for any spelling
is found under it. Registrations for different types can be made in any order. -/
theorem registrations_make_a_map (history : List Parser) :
    (empty.registerAll history).Reflects history
      ∧ (standard.registerAll history).Reflects (defaults ++ history)
      ∧ (∀ (parsers : Parsers) (a b : String), MediaType.Alike a b →
        parsers.get? a = parsers.get? b ∧ parsers.isStreaming a = parsers.isStreaming b)
      ∧ (∀ a b, MediaType.Alike a b ↔ MediaType.normalize a = MediaType.normalize b)
      ∧ (∀ type, MediaType.normalize (MediaType.normalize type) = MediaType.normalize type)
      ∧ (∀ (parsers : Parsers) (first second : Parser), first.key ≠ second.key →
        (parsers.register first).register second = (parsers.register second).register first)
      ∧ ∀ (parsers : Parsers) (type : String) (streaming : Bool),
        (parsers.register (.handOn type streaming)).get? type
          = some (.handOn type streaming) := by
  refine ⟨(empty_holds.registerAll history).reflects, (standard_holds.registerAll history).reflects,
    ?_, fun _ _ => MediaType.alike_iff, MediaType.normalize_normalize, ?_, ?_⟩
  · exact fun parsers a b h => ⟨parsers.get?_of_alike h, parsers.isStreaming_of_alike h⟩
  · exact fun parsers first second h => parsers.register_comm h
  · exact fun parsers type streaming =>
      parsers.get?_register_of_alike (MediaType.alike_normalize type).symm

example :
    (standard.register (.handOn "\u2003Text/TURTLE ;q=1" true)).isStreaming "text/turtle" = true := by
  decide

end Parsers

end Quadlink
