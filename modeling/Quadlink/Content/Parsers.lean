import Quadlink.Content.Results
import Quadlink.Http.MediaType
import Quadlink.Text.Shown

/-!
# Parsers by media type

What becomes of a response depends on its media type. A parser for query results reads them; a
raw parser hands the text on as it is, or the stream if it is a streaming one. Clients may bring
parsers of their own. A type has at most one parser, and a type without a parser stays plain text.

A parser is given the text and nothing else. The type of a content is the one under which its
parser has been found, and no read knows a base for relative references, so there are no further
options that could make a difference. No parser gives single terms or statements, and they have no
place in `Content`.
-/

namespace Quadlink

/-- What a parser makes of a text: a table, a truth value, or the text itself. -/
inductive Content
  | table (rows : List Row)
  | boolean (value : Bool)
  | raw (text : String)
  deriving Repr, DecidableEq

def Content.ofResults : Results → Content
  | .table rows => .table rows
  | .boolean value => .boolean value

/-- A parser of responses, with the type that it is for. A streaming one is given the body in pieces
and reads nothing itself. -/
structure Parser where
  mediaType : String
  isStreaming : Bool
  parse : String → Except Failure Content

namespace Parser

def results : Parser where
  mediaType := MediaType.sparqlResultsJson
  isStreaming := false
  parse text := (Results.parse (Text.encode text)).map Content.ofResults

/-- A parser that hands content on unchanged. As a streaming one it is what makes responses of its
type come in pieces. -/
def handOn (mediaType : String) (streaming : Bool) : Parser where
  mediaType := MediaType.normalize mediaType
  isStreaming := streaming
  parse text := .ok (.raw text)

end Parser

/-- Parsers by media type. The types are in their plain form, so that no two parsers are for one
type. -/
structure Parsers where
  map : NameMap Parser

namespace Parsers

/-- No parsers; every response stays text. -/
def empty : Parsers := ⟨NameMap.empty⟩

/-- Make a parser the one for its type. One that was there for the type is replaced. -/
def register (parsers : Parsers) (parser : Parser) : Parsers :=
  ⟨parsers.map.insert (MediaType.normalize parser.mediaType) parser⟩

/-- The parsers for query results and plain text. -/
def standard : Parsers :=
  (empty.register .results).register (.handOn MediaType.textPlain false)

/-- The parser for a type, whatever its case and parameters. -/
def get? (parsers : Parsers) (mediaType : String) : Option Parser :=
  parsers.map.get? (MediaType.normalize mediaType)

/-- Whether responses of a type are handed on as streams. -/
def isStreaming (parsers : Parsers) (mediaType : String) : Bool :=
  (parsers.get? mediaType).any Parser.isStreaming

def size (parsers : Parsers) : Nat := parsers.map.size

def isEmpty (parsers : Parsers) : Bool := parsers.map.isEmpty

def shown (parsers : Parsers) : String :=
  Text.shownFields "ParserRegistry"
    [("types", "[" ++ String.intercalate ", " (parsers.map.names.map Text.shown) ++ "]")] false

end Parsers

end Quadlink
