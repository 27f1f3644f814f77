import Quadlink.Json.Token

/-!
# The structure of JSON

A `Document` is a JSON value as written: members of objects keep their order and their
repetitions, and strings and numbers are not yet read. `Document.parse` accepts the texts of JSON,
at any depth; what it accepts besides are texts with strings that are no UTF-8, which it does not
look into.
-/

namespace Quadlink.Json

/-- A JSON value as written. Nothing is lost that a reader might ask for: the order of members and
their repetitions, and the spelling of strings and numbers. -/
inductive Document
  | null
  | bool (value : Bool)
  | number (token : NumberToken)
  | string (raw : Bytes)
  | array (items : List Document)
  | object (members : List (Bytes × Document))
  deriving Repr

namespace Document

mutual

/-- Read a value from the front of some tokens. The fuel only bounds the recursion; twice the number
of tokens is enough for all of them. -/
def readValue : Nat → List Token → Option (Document × List Token)
  | 0, _ => none
  | fuel + 1, tokens =>
    match tokens with
    | .null :: rest => some (.null, rest)
    | .true :: rest => some (.bool true, rest)
    | .false :: rest => some (.bool false, rest)
    | .number token :: rest => some (.number token, rest)
    | .string raw :: rest => some (.string raw, rest)
    | .openBracket :: .closeBracket :: rest => some (.array [], rest)
    | .openBracket :: rest => (readItems fuel rest).map fun parts => (.array parts.1, parts.2)
    | .openBrace :: .closeBrace :: rest => some (.object [], rest)
    | .openBrace :: rest => (readMembers fuel rest).map fun parts => (.object parts.1, parts.2)
    | _ => none

def readItems : Nat → List Token → Option (List Document × List Token)
  | 0, _ => none
  | fuel + 1, tokens =>
    match readValue fuel tokens with
    | some (item, .comma :: rest) =>
      (readItems fuel rest).map fun parts => (item :: parts.1, parts.2)
    | some (item, .closeBracket :: rest) => some ([item], rest)
    | _ => none

def readMembers : Nat → List Token → Option (List (Bytes × Document) × List Token)
  | 0, _ => none
  | fuel + 1, tokens =>
    match tokens with
    | .string name :: .colon :: rest =>
      match readValue fuel rest with
      | some (value, .comma :: rest') =>
        (readMembers fuel rest').map fun parts => ((name, value) :: parts.1, parts.2)
      | some (value, .closeBrace :: rest') => some ([(name, value)], rest')
      | _ => none
    | _ => none

end

/-- The value that a text writes; nothing may follow it. -/
def parse (bytes : Bytes) : Option Document :=
  match lex bytes with
  | none => none
  | some tokens =>
    match readValue (2 * tokens.length + 1) tokens with
    | some (value, []) => some value
    | _ => none

end Document

end Quadlink.Json
