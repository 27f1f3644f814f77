/-!
# Terms and statements

A statement says something about a subject by a predicate and an object, in a named graph or in
the default graph. Its four places hold terms.
-/

namespace Quadlink

/-- An RDF term, or the default graph, which stands in the place of a graph name. That a term is in
the right place is not a matter of its type: it is checked where statements are read and written. -/
inductive Term
  | iri (value : String)
  | blankNode (label : String)
  | literal (value : String) (datatype language : Option String)
  | defaultGraph
  deriving Repr, DecidableEq

namespace Term

/-- The text of a term without its marks; empty for the default graph. Faults quote it. -/
def value : Term → String
  | .iri value => value
  | .blankNode label => label
  | .literal value _ _ => value
  | .defaultGraph => ""

def isIri : Term → Bool
  | .iri _ => true
  | _ => false

def isBlank : Term → Bool
  | .blankNode _ => true
  | _ => false

end Term

structure Quad where
  subject : Term
  predicate : Term
  object : Term
  graph : Term
  deriving Repr, DecidableEq

structure Namespace where
  label : String
  iri : String
  deriving Repr, DecidableEq

end Quadlink
