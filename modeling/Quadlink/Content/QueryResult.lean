import Quadlink.Content.Parsers
import Quadlink.Http.Response

/-!
# What a read gives

The media type of a response decides what a read gives: content that its parser has read, the
body in pieces if its parser is a streaming one, or plain text if there is no parser.
-/

namespace Quadlink

/-- What a read gives to its caller, depending on the media type of the response. What has no parser
is handed on as it came. -/
inductive QueryResult
  | parsed (content : Content)
  | text (contentType body : String)
  | stream (contentType : String) (chunks : List Bytes) (ending : Option Failure)
  deriving Repr, DecidableEq

namespace QueryResult

/-- Take a response apart. A response without a type counts as one of the requested type. A
streaming parser does not wait for the body, and so does not see it break off. -/
def ofResponse (parsers : Parsers) (requested : String) (response : Response) :
    Except Failure QueryResult :=
  let contentType := response.contentType?.getD (MediaType.normalize requested)
  match parsers.get? contentType with
  | none => response.text.map (.text contentType)
  | some parser =>
    if parser.isStreaming then
      let (chunks, ending) := response.body.chunks
      .ok (.stream contentType chunks ending)
    else
      match response.text with
      | .error failure => .error failure
      | .ok body => (parser.parse body).map .parsed

/-- A result in diagnostics; parsed content is not shown. -/
def shown : QueryResult → String
  | .parsed _ => "Parsed(..)"
  | .text contentType body =>
    Text.shownFields "Text"
      [("content_type", Text.shown contentType), ("len", toString body.utf8ByteSize)] false
  | .stream contentType _ _ =>
    Text.shownFields "Stream" [("content_type", Text.shown contentType)] true

end QueryResult

end Quadlink
