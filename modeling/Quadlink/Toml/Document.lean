import Quadlink.NameMap
import Quadlink.Toml.Moment

/-!
# Settings documents in TOML

A settings document has fields at its top, whose values are strings, integers, lists of them, or
tables of named ones. A table is written in line, under a header, or by dotted keys. Other values
that TOML knows, and tables within tables, have no place in settings and are refused here. A date
or time at the top counts as a table whose one entry, of a name of its own, is its text.

A name is given once. A table that was written in line or under a header is complete; one made of
dotted keys grows with each of them.
-/

namespace Quadlink.Toml

inductive Value
  | scalar (value : Scalar)
  | list (items : List Scalar)
  deriving Repr, DecidableEq

/-- What stands under a name at the top of a document. -/
inductive Field
  | value (value : Value)
  | table (entries : List (String × Value))
  deriving Repr, DecidableEq

/-- A document: its fields in the order in which they first occur. -/
abbrev Document := List (String × Field)

/-! ## Gaps -/

/-- Skip blanks, line ends and comments. A comment may hold anything that prints, so this can fail.
-/
def skipFiller? (inComment : Bool) : List Char → Option (List Char)
  | [] => some []
  | c :: rest =>
    if c == '\n' then skipFiller? false rest
    else if inComment then if isPlain c then skipFiller? true rest else none
    else if isGap c then skipFiller? false rest
    else if c == '#' then skipFiller? true rest
    else some (c :: rest)

def atLineEnd (cs : List Char) : Bool :=
  match cs.dropWhile isGap with
  | [] => true
  | c :: _ => c == '\n' || c == '#'

/-! ## Values -/

/-- Read the items of a list up to its closing bracket, at most `fuel` of them. -/
def readItems? : Nat → List Char → Option (List Scalar × List Char)
  | 0, _ => none
  | fuel + 1, cs =>
    match skipFiller? false cs with
    | none => none
    | some (']' :: rest) => some ([], rest)
    | some start =>
      match readScalar? start with
      | none => none
      | some (item, rest) =>
        match skipFiller? false rest with
        | some (',' :: rest') =>
          (readItems? fuel rest').map fun parts => (item :: parts.1, parts.2)
        | some (']' :: rest') => some ([item], rest')
        | _ => none

def readValue? (cs : List Char) : Option (Value × List Char) :=
  match cs with
  | '[' :: rest => (readItems? cs.length rest).map fun parts => (.list parts.1, parts.2)
  | _ => (readScalar? cs).map fun parts => (.scalar parts.1, parts.2)

/-! ## Keys -/

def isBareKey (c : Char) : Bool := c.isAlphanum || c == '_' || c == '-'

def readName? (cs : List Char) : Option (String × List Char) :=
  match cs with
  | '"' :: rest => (readBasic? rest).map fun parts => (String.ofList parts.1, parts.2)
  | '\'' :: rest => (readLiteral? rest).map fun parts => (String.ofList parts.1, parts.2)
  | _ =>
    let name := cs.takeWhile isBareKey
    if name.isEmpty then none else some (String.ofList name, cs.dropWhile isBareKey)

def afterEquals? (cs : List Char) : Option (List Char) :=
  match cs.dropWhile isGap with
  | '=' :: rest => some (rest.dropWhile isGap)
  | _ => none

/-- A key: a name, or two names with a dot between them. Settings have no deeper tables, so that a
third name is never right. -/
structure Key where
  name : String
  member : Option String
  deriving Repr, DecidableEq

def readKey? (cs : List Char) : Option (Key × List Char) :=
  match readName? cs with
  | none => none
  | some (name, rest) =>
    match rest.dropWhile isGap with
    | '.' :: rest' =>
      match readName? (rest'.dropWhile isGap) with
      | none => none
      | some (member, rest'') => (afterEquals? rest'').map fun after => (⟨name, some member⟩, after)
    | rest' => (afterEquals? rest').map fun after => (⟨name, none⟩, after)

/-! ## Tables in line -/

/-- Put an entry behind the others unless its name is taken. -/
def addFresh? {β : Type} (name : String) (value : β) (entries : List (String × β)) :
    Option (List (String × β)) :=
  match lookupEntry name entries with
  | some _ => none
  | none => some (entries ++ [(name, value)])

/-- Read the entries of a table in line up to its closing brace, at most `fuel` of them; there is
at least one. -/
def readEntries? : Nat → List (String × Value) → List Char →
    Option (List (String × Value) × List Char)
  | 0, _, _ => none
  | fuel + 1, entries, cs =>
    match readName? (cs.dropWhile isGap) with
    | none => none
    | some (name, rest) =>
      match (afterEquals? rest).bind readValue? with
      | none => none
      | some (value, rest') =>
        match addFresh? name value entries, rest'.dropWhile isGap with
        | some entries, ',' :: rest'' => readEntries? fuel entries rest''
        | some entries, '\x7d' :: rest'' => some (entries, rest'')
        | _, _ => none

/-- The name under which the table of a moment holds its text. Readers that know no moments see this
table in their place. -/
def momentName : String := "$__toml_private_datetime"

def ofMoment (moment : Moment) : Field := .table [(momentName, .scalar (.text moment.text))]

def readField? (cs : List Char) : Option (Field × List Char) :=
  match cs with
  | '\x7b' :: rest =>
    match rest.dropWhile isGap with
    | '\x7d' :: rest' => some (.table [], rest')
    | rest' => (readEntries? cs.length [] rest').map fun parts => (.table parts.1, parts.2)
  | _ =>
    match readMoment? cs with
    | some (moment, rest) => some (ofMoment moment, rest)
    | none => (readValue? cs).map fun parts => (.value parts.1, parts.2)

/-! ## Lines -/

/-- One line of a document, or a few if a value goes on. -/
inductive Line
  | header (name : String)
  | field (key : Key) (value : Field)
  deriving Repr, DecidableEq

def readLine? (cs : List Char) : Option (Line × List Char) :=
  let parts : Option (Line × List Char) :=
    match cs with
    | '[' :: rest =>
      match readName? (rest.dropWhile isGap) with
      | none => none
      | some (name, rest') =>
        match rest'.dropWhile isGap with
        | ']' :: rest'' => some (.header name, rest'')
        | _ => none
    | _ =>
      match readKey? cs with
      | none => none
      | some (key, rest) =>
        (readField? rest).map fun (parts : Field × List Char) => (.field key parts.1, parts.2)
  parts.filter fun parts => atLineEnd parts.2

/-- The lines of a document, at most `fuel` of them. -/
def readLines? : Nat → List Char → Option (List Line)
  | 0, _ => none
  | fuel + 1, cs =>
    match skipFiller? false cs with
    | none => none
    | some [] => some []
    | some start =>
      match readLine? start with
      | none => none
      | some (line, rest) => (readLines? fuel rest).map (line :: ·)

/-! ## Documents -/

/-- A document in the making: its fields, the header that lines now belong to, and the tables that
dotted keys may still extend. A table under a header is closed to them. -/
structure Draft where
  fields : Document
  header? : Option String
  growing : List String

namespace Draft

def extend? (name member : String) (value : Value) : Document → Option Document
  | [] => none
  | (other, field) :: rest =>
    if name = other then
      match field with
      | .table entries => (addFresh? member value entries).map fun es => (other, .table es) :: rest
      | .value _ => none
    else (extend? name member value rest).map ((other, field) :: ·)

/-- Add one line, unless it gives something a second time. -/
def add? (draft : Draft) (line : Line) : Option Draft :=
  match line, draft.header? with
  | .header name, _ =>
    (addFresh? name (.table []) draft.fields).map fun fields =>
      { draft with fields, header? := some name }
  | .field ⟨name, none⟩ field, none =>
    (addFresh? name field draft.fields).map fun fields => { draft with fields }
  | .field ⟨name, some member⟩ (.value value), none =>
    if draft.growing.contains name then
      (extend? name member value draft.fields).map fun fields => { draft with fields }
    else
      (addFresh? name (.table [(member, value)]) draft.fields).map fun fields =>
        { draft with fields, growing := name :: draft.growing }
  | .field ⟨name, none⟩ (.value value), some header =>
    (extend? header name value draft.fields).map fun fields => { draft with fields }
  | _, _ => none

def addAll? (draft : Draft) : List Line → Option Draft
  | [] => some draft
  | line :: rest => (draft.add? line).bind fun draft => draft.addAll? rest

end Draft

/-- Make every line end a line feed. A carriage return that ends no line has no meaning. -/
def unifyLineEnds? : List Char → Option (List Char)
  | [] => some []
  | '\r' :: '\n' :: rest => (unifyLineEnds? rest).map ('\n' :: ·)
  | c :: rest => if c == '\r' then none else (unifyLineEnds? rest).map (c :: ·)

/-- A byte order mark in front of a text does not count. -/
def dropMark : List Char → List Char
  | c :: rest => if c.toNat = 0xFEFF then rest else c :: rest
  | [] => []

/-- The document that a text writes. It is read line by line before any of the lines is added. -/
def Document.parse? (text : String) : Option Document :=
  match unifyLineEnds? (dropMark text.toList) with
  | none => none
  | some cs =>
    match readLines? (cs.length + 1) cs with
    | none => none
    | some lines => ((⟨[], none, []⟩ : Draft).addAll? lines).map Draft.fields

end Quadlink.Toml
