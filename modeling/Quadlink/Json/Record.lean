import Quadlink.Json.Scalar
import Quadlink.NameMap

/-!
# Records in JSON

A record with named fields is written as an object, or as an array of its fields in their order.
Members with other names are ignored, or refused where a record is strict; a field may not be
given twice. What an ignored member holds is not looked at.
-/

namespace Quadlink.Json.Document

def text? : Document → Option String
  | .string raw => readString? raw
  | _ => none

def bool? : Document → Option Bool
  | .bool value => some value
  | _ => none

def natural? (limit : Nat) : Document → Option Nat
  | .number token => token.natural?.filter (· ≤ limit)
  | _ => none

def nullable? {α : Type} (read : Document → Option α) : Document → Option (Option α)
  | .null => some none
  | document => (read document).map some

def items? : Document → Option (List Document)
  | .array items => some items
  | _ => none

/-- An array whose items are all read alike. -/
def list? {α : Type} (read : Document → Option α) (document : Document) : Option (List α) :=
  document.items?.bind fun items => items.mapM read

/-- The members of an object with their names read. A name that is no text spoils the object,
whether anybody asks for it or not. -/
def members? : Document → Option (List (String × Document))
  | .object members =>
    members.mapM fun member => (readString? member.1).map fun name => (name, member.2)
  | _ => none

/-- An object as a map whose values are all read alike; of several members with one name the last
counts, but all must be readable. -/
def map? {α : Type} (read : Document → Option α) (document : Document) : Option (NameMap α) :=
  document.members?.bind fun members =>
    (members.mapM fun member => (read member.2).map fun value => (member.1, value)).map
      NameMap.ofList

/-- The fields of a record with the given names, each if it is there. An array gives them in their
order and may leave out the last ones. -/
def fields? (names : List String) (strict : Bool) (document : Document) :
    Option (List (Option Document)) :=
  match document with
  | .array items =>
    if items.length ≤ names.length then
      some (items.map some ++ List.replicate (names.length - items.length) none)
    else none
  | _ =>
    document.members?.bind fun members =>
      let known := members.filter (fun member => names.contains member.1)
      let repeated := names.any (fun name => 1 < (known.filter (fun m => m.1 == name)).length)
      if repeated || (strict && known.length != members.length) then none
      else some (names.map fun name => lookupEntry name known)

def required? {α : Type} (read : Document → Option α) : Option Document → Option α
  | none => none
  | some document => read document

/-- A field with a value to fall back on when it is missing. A field that is there but cannot be
read is not missing. -/
def orElse? {α : Type} (fallback : α) (read : Document → Option α) : Option Document → Option α
  | none => some fallback
  | some document => read document

end Quadlink.Json.Document
