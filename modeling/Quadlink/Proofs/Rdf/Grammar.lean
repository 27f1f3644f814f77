import Quadlink.Codec.Percent
import Quadlink.Rdf.Term
import Quadlink.Text.Blank
import Quadlink.Text.Pieces

/-!
# The grammar of N-Quads

A reader of N-Quads 1.1 that follows the productions of its grammar: IRIs between angle brackets,
labels of blank nodes, literals in quotes with an escape for every character, language tags and
datatypes, comments, and any line end. It is independent of how terms are written elsewhere and
knows nothing of leniency: whatever the grammar does not derive, it refuses.

`Quad.IsWellFormed` says which statements the grammar can express at all. That they are read back
from what is written of them is shown in `Quadlink.Proofs.Rdf.RoundTrip`.
-/

namespace Quadlink.NQuads

open Text

/-! ## Characters -/

/-- Characters that stand for themselves in an IRI. All others can only be written as code points.
-/
def isIriChar (c : Char) : Bool :=
  0x20 < c.toNat &&
    !(['<', '>', '"', '\x7b', '\x7d', '|', '^', '\u0060', '\\'].contains c)

def isLiteralChar (c : Char) : Bool :=
  !(['"', '\\', '\n', '\r'].contains c)

def isLineEnd (c : Char) : Bool := c == '\n' || c == '\r'

def isSpace (c : Char) : Bool := c == ' ' || c == '\t'

/-- Letters in names, those of ASCII among them. -/
def isNameBase (c : Char) : Bool :=
  c.isAlpha ||
    [(0xC0, 0xD6), (0xD8, 0xF6), (0xF8, 0x2FF), (0x370, 0x37D), (0x37F, 0x1FFF), (0x200C, 0x200D),
      (0x2070, 0x218F), (0x2C00, 0x2FEF), (0x3001, 0xD7FF), (0xF900, 0xFDCF), (0xFDF0, 0xFFFD),
      (0x10000, 0xEFFFF)].any fun range => range.1 ≤ c.toNat && c.toNat ≤ range.2

def startsLabel (c : Char) : Bool :=
  isNameBase c || c.isDigit || c == '_' || c == ':'

/-- Characters that may stand within a label; a full stop may not be the last of them. -/
def continuesLabel (c : Char) : Bool :=
  startsLabel c || c == '-' || c == '.' || c.toNat == 0xB7 ||
    (0x300 ≤ c.toNat && c.toNat ≤ 0x36F) || (0x203F ≤ c.toNat && c.toNat ≤ 0x2040)

def inTag (c : Char) : Bool := c.isAlphanum || c == '-'

/-! ## Delimited texts -/

/-- Where a reader stands within a delimited text: between two characters, behind a backslash, or
within a code point, of whose digits `more` come after the next. -/
inductive Place
  | plain
  | escape
  | digits (more value : Nat)
  deriving Repr, DecidableEq

/-- A kind of delimited text: the character that ends it, those that stand for themselves, and what
letters behind a backslash stand for. -/
structure Delimited where
  close : Char
  isPlain : Char → Bool
  letter? : Char → Option Char

def letter? (c : Char) : Option Char :=
  match c with
  | 't' => some '\t'
  | 'b' => some '\x08'
  | 'n' => some '\n'
  | 'r' => some '\r'
  | 'f' => some '\x0c'
  | '"' => some '"'
  | '\'' => some '\''
  | '\\' => some '\\'
  | _ => none

/-- What stands behind `<`. An IRI has no letters behind backslashes but those of code points. -/
def iriText : Delimited := ⟨'>', isIriChar, fun _ => none⟩

def literalText : Delimited := ⟨'"', isLiteralChar, letter?⟩

def withFirst (c : Char) (result : Option (List Char × List Char)) :
    Option (List Char × List Char) :=
  result.map fun parts => (c :: parts.1, parts.2)

/-- Read a delimited text up to its end; the result is its value and what follows. A code point is
written `\u` with four digits or `\U` with eight. -/
def Delimited.read? (kind : Delimited) : Place → List Char → Option (List Char × List Char)
  | _, [] => none
  | .plain, c :: rest =>
    if c = kind.close then some ([], rest)
    else if c = '\\' then kind.read? .escape rest
    else if kind.isPlain c then withFirst c (kind.read? .plain rest)
    else none
  | .escape, c :: rest =>
    if c = 'u' then kind.read? (.digits 3 0) rest
    else if c = 'U' then kind.read? (.digits 7 0) rest
    else
      match kind.letter? c with
      | some meant => withFirst meant (kind.read? .plain rest)
      | none => none
  | .digits more value, c :: rest =>
    match Codec.Percent.hexValue? c with
    | none => none
    | some digit =>
      match more with
      | left + 1 => kind.read? (.digits left (value * 16 + digit)) rest
      | 0 =>
        if (value * 16 + digit).isValidChar then
          withFirst (Char.ofNat (value * 16 + digit)) (kind.read? .plain rest)
        else none

/-! ## Labels and tags -/

def isLabel (cs : List Char) : Bool :=
  match cs with
  | [] => false
  | c :: rest => startsLabel c && rest.all continuesLabel && rest.getLast? != some '.'

/-- A language tag: letters, and then groups of letters and digits behind hyphens. -/
def isTag (cs : List Char) : Bool :=
  match pieces (· == '-') cs with
  | [] => false
  | first :: others =>
    !first.isEmpty && first.all Char.isAlpha &&
      others.all fun group => !group.isEmpty && group.all Char.isAlphanum

/-- Read a label as far as it goes. Full stops behind it do not belong to it. -/
def readLabel? (cs : List Char) : Option (List Char × List Char) :=
  match cs with
  | [] => none
  | c :: rest =>
    if startsLabel c then
      let tail := dropTrailing (· == '.') (rest.takeWhile continuesLabel)
      some (c :: tail, rest.drop tail.length)
    else none

def readTag? (cs : List Char) : Option (List Char × List Char) :=
  if isTag (cs.takeWhile inTag) then some (cs.takeWhile inTag, cs.dropWhile inTag) else none

/-! ## Terms -/

def skip (cs : List Char) : List Char := cs.dropWhile isSpace

def readIri? (cs : List Char) : Option (Term × List Char) :=
  match cs with
  | '<' :: rest => (iriText.read? .plain rest).map fun r => (.iri (String.ofList r.1), r.2)
  | _ => none

def readBlankNode? (cs : List Char) : Option (Term × List Char) :=
  match cs with
  | '_' :: ':' :: rest => (readLabel? rest).map fun r => (.blankNode (String.ofList r.1), r.2)
  | _ => none

def readResource? (cs : List Char) : Option (Term × List Char) :=
  (readIri? cs).or (readBlankNode? cs)

/-- What follows the quotes of a literal: a datatype, a language, or neither. -/
def readAnnotation? (value : String) (cs : List Char) : Option (Term × List Char) :=
  match skip cs with
  | '^' :: '^' :: rest =>
    match skip rest with
    | '<' :: rest =>
      (iriText.read? .plain rest).map fun r =>
        (.literal value (some (String.ofList r.1)) none, r.2)
    | _ => none
  | '@' :: rest =>
    (readTag? rest).map fun r => (.literal value none (some (String.ofList r.1)), r.2)
  | _ => some (.literal value none none, cs)

def readLiteral? (cs : List Char) : Option (Term × List Char) :=
  match cs with
  | '"' :: rest =>
    (literalText.read? .plain rest).bind fun r => readAnnotation? (String.ofList r.1) r.2
  | _ => none

def readObject? (cs : List Char) : Option (Term × List Char) :=
  (readResource? cs).or (readLiteral? cs)

/-! ## Statements -/

def readStop? (cs : List Char) : Option (List Char) :=
  match skip cs with
  | '.' :: rest => some rest
  | _ => none

/-- The end of a statement: an optional graph and a full stop. -/
def readGraph? (cs : List Char) : Option (Term × List Char) :=
  match readStop? cs with
  | some rest => some (.defaultGraph, rest)
  | none =>
    (readResource? (skip cs)).bind fun (graph, rest) =>
      (readStop? rest).map fun rest => (graph, rest)

def readStatement? (cs : List Char) : Option (Quad × List Char) :=
  (readResource? cs).bind fun (subject, rest) =>
    (readIri? (skip rest)).bind fun (predicate, rest) =>
      (readObject? (skip rest)).bind fun (object, rest) =>
        (readGraph? rest).map fun (graph, rest) => (⟨subject, predicate, object, graph⟩, rest)

def isAtEnd (cs : List Char) : Bool :=
  match skip cs with
  | [] => true
  | c :: _ => c == '#'

def readLine? (cs : List Char) : Option (Option Quad) :=
  if isAtEnd cs then some none
  else
    match readStatement? (skip cs) with
    | some (quad, rest) => if isAtEnd rest then some (some quad) else none
    | none => none

def readLines? : List (List Char) → Option (List Quad)
  | [] => some []
  | line :: rest =>
    match readLine? line, readLines? rest with
    | some quad, some quads => some (quad.toList ++ quads)
    | _, _ => none

/-- The statements of a document. No production but the line ends themselves holds a character of a
line end, so a document can be cut into lines first. -/
def read? (text : String) : Option (List Quad) :=
  readLines? (pieces isLineEnd text.toList)

end Quadlink.NQuads

namespace Quadlink

/-! ## What the grammar can express -/

/-- A term all of whose parts the grammar has a form for. What a literal says is not restricted,
since every character of it can be escaped. -/
def Term.IsWellFormed : Term → Prop
  | .iri value => value.toList.all NQuads.isIriChar = true
  | .blankNode label => NQuads.isLabel label.toList = true
  | .literal _ datatype language =>
    (∀ iri ∈ datatype, iri.toList.all NQuads.isIriChar = true)
      ∧ (∀ tag ∈ language, NQuads.isTag tag.toList = true)
      ∧ (datatype = none ∨ language = none)
  | .defaultGraph => True

instance : (term : Term) → Decidable term.IsWellFormed
  | .iri _ => inferInstanceAs (Decidable (_ = true))
  | .blankNode _ => inferInstanceAs (Decidable (_ = true))
  | .literal _ _ _ => inferInstanceAs (Decidable (_ ∧ _ ∧ _))
  | .defaultGraph => .isTrue trivial

namespace Quad

/-- The terms of a statement stand where the grammar allows terms of their kind. What they say is
another matter. -/
structure HasAllowedKinds (quad : Quad) : Prop where
  subject : quad.subject.isIri = true ∨ quad.subject.isBlank = true
  predicate : quad.predicate.isIri = true
  object : quad.object ≠ .defaultGraph
  graph : (quad.graph.isIri = true ∨ quad.graph.isBlank = true) ∨ quad.graph = .defaultGraph

/-- A statement that the grammar has a form for. The others cannot be written at all, whatever a
writer makes of them. -/
structure IsWellFormed (quad : Quad) : Prop extends HasAllowedKinds quad where
  subject_wellFormed : quad.subject.IsWellFormed
  predicate_wellFormed : quad.predicate.IsWellFormed
  object_wellFormed : quad.object.IsWellFormed
  graph_wellFormed : quad.graph.IsWellFormed

instance (quad : Quad) : Decidable quad.HasAllowedKinds :=
  decidable_of_iff
    ((quad.subject.isIri = true ∨ quad.subject.isBlank = true) ∧ quad.predicate.isIri = true
      ∧ quad.object ≠ .defaultGraph
      ∧ ((quad.graph.isIri = true ∨ quad.graph.isBlank = true) ∨ quad.graph = .defaultGraph))
    ⟨fun ⟨subject, predicate, object, graph⟩ => ⟨subject, predicate, object, graph⟩,
      fun ⟨subject, predicate, object, graph⟩ => ⟨subject, predicate, object, graph⟩⟩

instance (quad : Quad) : Decidable quad.IsWellFormed :=
  decidable_of_iff
    (quad.HasAllowedKinds ∧ quad.subject.IsWellFormed ∧ quad.predicate.IsWellFormed
      ∧ quad.object.IsWellFormed ∧ quad.graph.IsWellFormed)
    ⟨fun ⟨kinds, subject, predicate, object, graph⟩ => ⟨kinds, subject, predicate, object, graph⟩,
      fun ⟨kinds, subject, predicate, object, graph⟩ => ⟨kinds, subject, predicate, object, graph⟩⟩

end Quad

end Quadlink
