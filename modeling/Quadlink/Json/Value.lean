import Quadlink.Json.Scalar
import Quadlink.NameMap

/-!
# JSON values

A value with its strings and numbers read. The members of an object are in the order of their
names, and of several members with one name the last counts. Values nest to a limited depth.
-/

namespace Quadlink.Json

/-- A JSON value. The names of an object are in ascending order, so that two texts with the same
members give the same value. -/
inductive Value
  | null
  | bool (value : Bool)
  | number (value : Number)
  | string (value : String)
  | array (items : List Value)
  | object (members : List (String × Value))
  deriving Repr

/-- How many containers lie within each other at most. JSON sets no such limit; a reader that
recurses into its input does. -/
def Value.maxDepth : Nat := 127

mutual

/-- Read a document as a value that has at most `depth` containers within each other. All of it is
read, and what cannot be read anywhere leaves the whole without a value. -/
def Document.value? (depth : Nat) : Document → Option Value
  | .null => some .null
  | .bool value => some (.bool value)
  | .number token => token.read?.map .number
  | .string raw => (readString? raw).map .string
  | .array items =>
    if depth = 0 then none else (itemValues? (depth - 1) items).map .array
  | .object members =>
    if depth = 0 then none else (memberValues? (depth - 1) [] members).map .object

def itemValues? (depth : Nat) : List Document → Option (List Value)
  | [] => some []
  | item :: rest =>
    match item.value? depth, itemValues? depth rest with
    | some value, some values => some (value :: values)
    | _, _ => none

/-- Add members to those read so far. A name that comes again takes the place of the first. -/
def memberValues? (depth : Nat) (acc : List (String × Value)) :
    List (Bytes × Document) → Option (List (String × Value))
  | [] => some acc
  | (raw, document) :: rest =>
    match readString? raw, document.value? depth with
    | some name, some value => memberValues? depth (insertEntry name value acc) rest
    | _, _ => none

end

def Value.parse (bytes : Bytes) : Option Value :=
  (Document.parse bytes).bind (Document.value? maxDepth)

end Quadlink.Json
