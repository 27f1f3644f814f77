import Quadlink.Failure
import Quadlink.Json.Record
import Quadlink.Rdf.Term

/-!
# Query results in JSON

The answer to a query is a table, whose rows bind variables to terms, or a single boolean. A
document with a boolean is a boolean whatever else it holds. A binding of an unknown type makes
the whole document unreadable.
-/

namespace Quadlink

/-- A row of a result table: terms by variable. -/
abbrev Row := NameMap Term

inductive Results
  | table (rows : List Row)
  | boolean (value : Bool)
  deriving Repr, DecidableEq

namespace Results

/-- A bound value as the document gives it. Its kind is not judged before it becomes a term, which
it never does where a truth value counts instead of the rows. -/
structure BoundValue where
  kind : String
  value : String
  datatype : Option String
  language : Option String
  deriving Repr, DecidableEq

namespace BoundValue

open Json.Document

def read? (document : Json.Document) : Option BoundValue :=
  match document.fields? ["type", "value", "datatype", "xml:lang"] false with
  | some [kind, value, datatype, language] => do
    let kind ← required? text? kind
    let value ← required? text? value
    let datatype ← orElse? none (nullable? text?) datatype
    let language ← orElse? none (nullable? text?) language
    return ⟨kind, value, datatype, language⟩
  | _ => none

def term (bound : BoundValue) : Except Failure Term :=
  if bound.kind = "uri" then .ok (.iri bound.value)
  else if bound.kind = "bnode" then .ok (.blankNode bound.value)
  else if bound.kind = "literal" ∨ bound.kind = "typed-literal" then
    .ok (.literal bound.value bound.datatype bound.language)
  else .error (.parse (.badBindingType bound.kind))

end BoundValue

/-- The parts of a result document that matter: the rows, and the boolean if there is one. All else
in it is ignored. -/
structure Sheet where
  rows : List (NameMap BoundValue)
  boolean : Option Bool

open Json.Document

def readTable? (document : Json.Document) : Option (List (NameMap BoundValue)) :=
  match document.fields? ["bindings"] false with
  | some [bindings] => orElse? [] (list? (map? BoundValue.read?)) bindings
  | _ => none

/-- Read a result document. What is missing counts as empty, so a document without both parts is a
table without rows. -/
def Sheet.read? (document : Json.Document) : Option Sheet :=
  match document.fields? ["results", "boolean"] false with
  | some [results, boolean] => do
    let rows ← orElse? none (nullable? readTable?) results
    let boolean ← orElse? none (nullable? bool?) boolean
    return ⟨rows.getD [], boolean⟩
  | _ => none

/-- The terms of the entries of a row, in the order of the variables. One value of an unknown kind
spoils the row. -/
def entryTerms : List (String × BoundValue) → Except Failure (List (String × Term))
  | [] => .ok []
  | (name, bound) :: rest => do
    let term ← bound.term
    let terms ← entryTerms rest
    return (name, term) :: terms

def rowTerms (row : NameMap BoundValue) : Except Failure Row :=
  (entryTerms row.entries).map NameMap.ofList

/-- Read the answer to a query. A document with a boolean is that boolean, whatever rows it has. -/
def parse (bytes : Bytes) : Except Failure Results :=
  match (Json.Document.parse bytes).bind Sheet.read? with
  | none => .error (.parse .badResults)
  | some sheet =>
    match sheet.boolean with
    | some value => .ok (.boolean value)
    | none => (sheet.rows.mapM rowTerms).map .table

/-- Read the rows of a table. A boolean is an answer to another kind of query, and refused. -/
def parseRows (bytes : Bytes) : Except Failure (List Row) := do
  match ← parse bytes with
  | .table rows => return rows
  | .boolean _ => throw (.parse .notSelect)

/-- The values of one variable over the rows that bind it. -/
def column (rows : List Row) (name : String) : List Term :=
  rows.filterMap fun row => row.get? name

end Results

end Quadlink
