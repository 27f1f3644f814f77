import Quadlink.Text.Blank
import Quadlink.Text.Case

/-!
# Media types

A media type is compared in lower case and without its parameters.
-/

namespace Quadlink.MediaType

/-- The type in lower case, without what follows the first semicolon. -/
def normalize (raw : String) : String :=
  Text.lower (Text.trim (String.ofList (raw.toList.takeWhile (· != ';'))))

def nQuads : String := "application/n-quads"
def sparqlResultsJson : String := "application/sparql-results+json"
def formUrlencoded : String := "application/x-www-form-urlencoded"
def textPlain : String := "text/plain"
def json : String := "application/json"

end Quadlink.MediaType
