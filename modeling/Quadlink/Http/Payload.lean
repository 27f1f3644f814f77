import Quadlink.Failure
import Quadlink.Http.Params
import Quadlink.Text.Blank

/-!
# What the caller asks for

A pattern of statements to read, a query, or an update, each with its options. An absent option is
not sent. A query or update that cannot make sense is refused before anything is sent.
-/

namespace Quadlink

def boolText (value : Bool) : String :=
  if value then "true" else "false"

/-- A parameter that is sent if it has a value. -/
def optional (name : String) (value : Option String) : List (String × String) :=
  match value with
  | none => []
  | some text => [(name, text)]

/-- Statements to read: a pattern, whose absent places match anything, in some graphs or all. No
graphs at all means any graph. -/
structure StatementPattern where
  subject : Option String := none
  predicate : Option String := none
  object : Option String := none
  contexts : List String := []
  infer : Option Bool := none
  responseType : Option String := none
  deriving Repr, DecidableEq

/-- The parameters of a pattern, without its graphs. -/
def StatementPattern.params (pattern : StatementPattern) : List (String × String) :=
  optional ParamName.subject pattern.subject ++
    optional ParamName.predicate pattern.predicate ++
    optional ParamName.object pattern.object ++
    optional ParamName.infer (pattern.infer.map boolText)

/-- A query, with the options that a server knows. Those that are not given are not sent, which
leaves them to the defaults of the server. -/
structure Query where
  text : String
  responseType : Option String := none
  infer : Option Bool := none
  timeout : Option Nat := none
  distinct : Option Bool := none
  limit : Option Nat := none
  offset : Option Nat := none
  bindings : List (String × String) := []
  deriving Repr, DecidableEq

namespace Query

/-- A query has a text, and does not ask for no results. Whether the text is a query is for the
server to say. -/
def validate (query : Query) : Except Failure Unit :=
  if Text.isAllBlank query.text then .error (.invalidInput .blankQuery)
  else if query.limit = some 0 then .error (.invalidInput .zeroLimit)
  else .ok ()

/-- The fields of a query; bound variables come last, behind a dollar sign. Fields may share a name
if variables do. -/
def form (query : Query) : List (String × String) :=
  (ParamName.query, query.text) ::
    (optional ParamName.infer (query.infer.map boolText) ++
      optional ParamName.timeout (query.timeout.map toString) ++
      optional ParamName.distinct (query.distinct.map boolText) ++
      optional ParamName.limit (query.limit.map toString) ++
      optional ParamName.offset (query.offset.map toString) ++
      query.bindings.map fun binding => ("$" ++ binding.1, binding.2))

end Query

structure Update where
  text : String
  infer : Option Bool := none
  timeout : Option Nat := none
  baseIri : Option String := none
  deriving Repr, DecidableEq

namespace Update

def validate (update : Update) : Except Failure Unit :=
  if Text.isAllBlank update.text then .error (.invalidInput .blankUpdate) else .ok ()

def form (update : Update) : List (String × String) :=
  (ParamName.update, update.text) ::
    (optional ParamName.infer (update.infer.map boolText) ++
      optional ParamName.timeout (update.timeout.map toString) ++
      optional ParamName.baseIri update.baseIri)

end Update

end Quadlink
