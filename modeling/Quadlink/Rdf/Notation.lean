import Quadlink.Failure
import Quadlink.Rdf.Term
import Quadlink.Text.Blank
import Quadlink.Text.Pieces

/-!
# Terms in writing

Parameters and uploads carry terms in the notation of N-Triples: `<iri>`, `_:label`, and literals
in quotes with a language or a datatype behind them. Reading is more lenient than writing: white
space around a term is ignored, an IRI may stand without its brackets, and an object that is
nothing else is a plain literal. The default graph is written `null`.
-/

namespace Quadlink.Term

open Text

/-! ## Literals -/

/-- The characters of a literal with those that would break it behind a backslash: the quote, the
backslash itself, and what ends or indents a line. -/
def escape : List Char → List Char
  | [] => []
  | c :: rest =>
    match c with
    | '\\' => '\\' :: '\\' :: escape rest
    | '"' => '\\' :: '"' :: escape rest
    | '\n' => '\\' :: 'n' :: escape rest
    | '\r' => '\\' :: 'r' :: escape rest
    | '\t' => '\\' :: 't' :: escape rest
    | c => c :: escape rest

/-- The character that one behind a backslash stands for. A letter that is no known escape stands
for itself. -/
def unescapeChar (c : Char) : Char :=
  match c with
  | 'n' => '\n'
  | 'r' => '\r'
  | 't' => '\t'
  | c => c

/-- Take the backslashes away. One at the very end stands for itself, so every text can be read. -/
def unescape : List Char → List Char
  | '\\' :: c :: rest => unescapeChar c :: unescape rest
  | c :: rest => c :: unescape rest
  | [] => []

/-- What stands behind the closing quote of a literal: nothing, a language or a datatype. -/
def readSuffix? (value : String) (suffix : List Char) : Option Term :=
  match suffix with
  | [] => some (.literal value none none)
  | '@' :: language => some (.literal value none (some (String.ofList language)))
  | _ =>
    match dropPrefix? ['^', '^', '<'] suffix with
    | none => none
    | some rest =>
      (dropSuffix? ['>'] rest).map fun datatype =>
        .literal value (some (String.ofList datatype)) none

/-- Read a literal; its closing quote is the last one, so quotes inside need no backslash. Without
an opening quote the text is the value. -/
def readLiteral? (cs : List Char) : Option Term :=
  match cs with
  | '"' :: rest =>
    match cutAtLast? '"' rest with
    | none => none
    | some (inner, suffix) => readSuffix? (String.ofList (unescape inner)) suffix
  | _ => some (.literal (String.ofList cs) none none)

/-! ## IRIs and blank nodes -/

/-- A text that can stand as an IRI without brackets. It has a colon, and no character that would
end it or begin something else. -/
def isBareIri (cs : List Char) : Bool :=
  cs.contains ':' && cs.head? != some '"' &&
    !cs.any (fun c => Text.isBlank c || c == '<' || c == '>' || c == '"')

/-- What stands between angle brackets, whatever it is. -/
def bracketed? (cs : List Char) : Option (List Char) :=
  (dropPrefix? ['<'] cs).bind (dropSuffix? ['>'])

/-- Read an IRI or a blank node; the text has no white space around it. Neither has its own syntax
checked. -/
def readResource? (cs : List Char) : Option Term :=
  match bracketed? cs with
  | some inner => if inner.isEmpty then none else some (.iri (String.ofList inner))
  | none =>
    match dropPrefix? ['_', ':'] cs with
    | some label => if label.isEmpty then none else some (.blankNode (String.ofList label))
    | none => if isBareIri cs then some (.iri (String.ofList cs)) else none

/-! ## The four places -/

def fault {α : Type} (role : TermRole) (raw : String) : Except Failure α :=
  .error (.invalidInput (.notA role raw))

/-- Read the subject of a statement: an IRI or a blank node. The message for anything else quotes
the text as it was given. -/
def readSubject (raw : String) : Except Failure Term :=
  match readResource? (trimChars raw.toList) with
  | some term => .ok term
  | none => fault .subject raw

def readPredicate (raw : String) : Except Failure Term :=
  match readResource? (trimChars raw.toList) with
  | some (.iri value) => .ok (.iri value)
  | _ => fault .predicate raw

/-- Read the object of a statement: any term but the default graph. -/
def readObject (raw : String) : Except Failure Term :=
  let cs := trimChars raw.toList
  match readResource? cs with
  | some term => .ok term
  | none =>
    match readLiteral? cs with
    | some term => .ok term
    | none => fault .literal (String.ofList cs)

/-- Read the name of a graph; an empty text and `null` stand for the default graph. -/
def readContext (raw : String) : Except Failure Term :=
  let cs := trimChars raw.toList
  if cs = [] ∨ cs = ['n', 'u', 'l', 'l'] then .ok .defaultGraph
  else
    match readResource? cs with
    | some term => .ok term
    | none => fault .context raw

/-- The written form of a term. A literal with both a language and a datatype shows the language. -/
def encode : Term → String
  | .iri value => "<" ++ value ++ ">"
  | .blankNode label => "_:" ++ label
  | .literal value datatype language =>
    "\"" ++ String.ofList (escape value.toList) ++ "\"" ++
      match language, datatype with
      | some language, _ => "@" ++ language
      | none, some datatype => "^^<" ++ datatype ++ ">"
      | none, none => ""
  | .defaultGraph => "null"

end Quadlink.Term

namespace Quadlink.Quad

open Term (fault)

/-- A statement as one line of N-Quads, if each of its places holds a term that may stand there. The
places are looked at from left to right, and the first that is wrong is named in the fault. -/
def line (quad : Quad) : Except Failure String :=
  if !(quad.subject.isIri || quad.subject.isBlank) then fault .subject quad.subject.value
  else if !quad.predicate.isIri then fault .predicate quad.predicate.value
  else if quad.object = .defaultGraph then fault .object "default graph"
  else
    let triple := quad.subject.encode ++ " " ++ quad.predicate.encode ++ " " ++ quad.object.encode
    match quad.graph with
    | .defaultGraph => .ok (triple ++ " .\n")
    | .literal value _ _ => fault .graph value
    | graph => .ok (triple ++ " " ++ graph.encode ++ " .\n")

/-- Write the lines of some statements behind a text. The first that cannot be written decides the
failure, and what has been written before it is lost. -/
def writeLines (text : String) : List Quad → Except Failure String
  | [] => .ok text
  | quad :: rest =>
    match quad.line with
    | .error failure => .error failure
    | .ok line => writeLines (text ++ line) rest

def serialize (quads : List Quad) : Except Failure String :=
  writeLines "" quads

/-- The text that is already there does not matter. -/
theorem writeLines_eq (text : String) (quads : List Quad) :
    writeLines text quads = (serialize quads).map (text ++ ·) := by
  suffices hmore : ∀ before, writeLines (text ++ before) quads
      = (writeLines before quads).map (text ++ ·) by
    simpa [serialize] using hmore ""
  induction quads with
  | nil => exact fun _ => rfl
  | cons quad rest ih =>
    intro before
    simp only [writeLines]
    cases quad.line with
    | error failure => rfl
    | ok line =>
      show writeLines (text ++ before ++ line) rest = _
      rw [String.append_assoc]
      exact ih (before ++ line)

theorem serialize_cons (quad : Quad) (rest : List Quad) :
    serialize (quad :: rest)
      = quad.line >>= fun front => (serialize rest).map (front ++ ·) := by
  simp only [serialize, writeLines]
  cases quad.line with
  | error failure => rfl
  | ok line =>
    show writeLines ("" ++ line) rest = (serialize rest).map (line ++ ·)
    rw [String.empty_append, writeLines_eq]

end Quadlink.Quad
