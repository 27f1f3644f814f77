import Quadlink.Json.Value
import Quadlink.Rdf.Term

/-!
# Terms as records

A term is handed to other programs as a JSON record, in which `termType` names its kind. What is
read is an object, whose other members are ignored and whose absent members count as `null`, or an
array of the kind and all its fields in their order. Every term is read back from its record
(`ofRecord?_record`).
-/

namespace Quadlink.Term

open Json (Value)

def textValue : Option String → Value
  | none => .null
  | some text => .string text

def text? : Value → Option (Option String)
  | .null => some none
  | .string text => some (some text)
  | _ => none

@[simp] theorem text?_textValue (text : Option String) : text? (textValue text) = some text := by
  cases text <;> rfl

/-- The record of a term, as other programs exchange it. Fields without a value are there all the
same. -/
def record : Term → Value
  | .iri value => .object [("termType", .string "iri"), ("value", .string value)]
  | .blankNode label => .object [("termType", .string "blankNode"), ("value", .string label)]
  | .literal value datatype language =>
    .object [("datatype", textValue datatype), ("language", textValue language),
      ("termType", .string "literal"), ("value", .string value)]
  | .defaultGraph => .object [("termType", .string "defaultGraph")]

/-- The fields of a kind of term besides its name. They must all be given where a record is written
as an array. -/
def fieldNames (kind : String) : List String :=
  match kind with
  | "iri" | "blankNode" => ["value"]
  | "literal" => ["value", "datatype", "language"]
  | _ => []

def ofFields? (kind : String) (values : List Value) : Option Term :=
  match kind, values with
  | "iri", [.string value] => some (.iri value)
  | "blankNode", [.string label] => some (.blankNode label)
  | "literal", [.string value, datatype, language] => do
    return .literal value (← text? datatype) (← text? language)
  | "defaultGraph", [] => some .defaultGraph
  | _, _ => none

def ofRecord? : Value → Option Term
  | .object members =>
    match lookupEntry "termType" members with
    | some (.string kind) =>
      ofFields? kind ((fieldNames kind).map fun name => (lookupEntry name members).getD .null)
    | _ => none
  | .array (.string kind :: values) => ofFields? kind values
  | _ => none

theorem ofRecord?_record (term : Term) : ofRecord? term.record = some term := by
  cases term <;> simp [record, ofRecord?, lookupEntry, fieldNames, ofFields?]

end Quadlink.Term
