import Quadlink.NameMap

/-!
# Query parameters

The parameters of a request, in the order of their names. A parameter has one value or a list of
values; a list is written as the same name again and again.
-/

namespace Quadlink

/-- The value of a parameter. A list stands for the parameter written once for each member; it has
at least one where it is set by `setRepeated`. -/
inductive ParamValue
  | single (value : String)
  | repeated (values : List String)
  deriving Repr, DecidableEq

def ParamValue.toList : ParamValue → List String
  | .single value => [value]
  | .repeated values => values

/-- Parameters by name. Unlike headers, names differ in case, and the order in which they were set
does not matter. -/
structure Params where
  map : NameMap ParamValue
  deriving Repr, DecidableEq

namespace Params

def empty : Params := ⟨NameMap.empty⟩

def set (params : Params) (name value : String) : Params :=
  ⟨params.map.insert name (.single value)⟩

/-- Give a parameter a list of values. An empty list changes nothing, so a value that was there
stays. -/
def setRepeated (params : Params) (name : String) (values : List String) : Params :=
  if values.isEmpty then params else ⟨params.map.insert name (.repeated values)⟩

/-- Give single values to the names of some pairs, from left to right. -/
def setAll (params : Params) (pairs : List (String × String)) : Params :=
  pairs.foldl (fun acc pair => acc.set pair.1 pair.2) params

def get? (params : Params) (name : String) : Option ParamValue :=
  params.map.get? name

def first? (params : Params) (name : String) : Option String :=
  (params.get? name).bind fun value => value.toList.head?

/-- Every value with its name, in the order of the names, as they go into a URL. -/
def pairs (params : Params) : List (String × String) :=
  params.map.entries.flatMap fun entry => entry.2.toList.map fun value => (entry.1, value)

def isEmpty (params : Params) : Bool := params.map.isEmpty

end Params

/-! ## Names of the parameters and form fields of the protocol -/

namespace ParamName

def action : String := "action"
def isolationLevel : String := "isolation-level"
def subject : String := "subj"
def predicate : String := "pred"
def object : String := "obj"
def context : String := "context"
def infer : String := "infer"
def query : String := "query"
def update : String := "update"
def timeout : String := "timeout"
def distinct : String := "distinct"
def limit : String := "limit"
def offset : String := "offset"
def baseIri : String := "baseURI"

end ParamName

end Quadlink
