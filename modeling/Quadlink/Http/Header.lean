import Quadlink.NameMap
import Quadlink.Text.Case

/-!
# Headers

The headers of a request or a response. Names compare without regard to case and are kept in
lower case, each with one value.
-/

namespace Quadlink

/-- Values by header name. The names are in lower case, which makes look-ups ignore case by
construction. -/
structure Headers where
  map : NameMap String
  lower : ∀ entry ∈ map.entries, Text.lower entry.1 = entry.1
  deriving Repr, DecidableEq

namespace Headers

def empty : Headers := ⟨NameMap.empty, fun _ h => nomatch h⟩

def insert (headers : Headers) (name value : String) : Headers where
  map := headers.map.insert (Text.lower name) value
  lower := by
    intro entry hentry
    rcases mem_insertEntry hentry with rfl | hmem
    · exact Text.lower_lower name
    · exact headers.lower entry hmem

def get? (headers : Headers) (name : String) : Option String :=
  headers.map.get? (Text.lower name)

def contains (headers : Headers) (name : String) : Bool :=
  (headers.get? name).isSome

def toList (headers : Headers) : List (String × String) :=
  headers.map.entries

def size (headers : Headers) : Nat := headers.map.size

def isEmpty (headers : Headers) : Bool := headers.map.isEmpty

/-- The headers of a list of pairs, in which the last value of a name counts. -/
def ofList (pairs : List (String × String)) : Headers :=
  pairs.foldl (fun headers pair => headers.insert pair.1 pair.2) empty

/-- Add those of some pairs whose name has no value yet. Of two pairs with one name the first is
added. -/
def addMissing (headers : Headers) (pairs : List (String × String)) : Headers :=
  pairs.foldl
    (fun acc pair => if acc.contains pair.1 then acc else acc.insert pair.1 pair.2) headers

def withDefaults (headers defaults : Headers) : Headers :=
  headers.addMissing defaults.toList

end Headers

/-! ## Names of headers with a meaning to the client -/

namespace HeaderName

def authorization : String := "authorization"
def accept : String := "accept"
def contentType : String := "content-type"
def location : String := "location"
def password : String := "x-graphdb-password"

end HeaderName

end Quadlink
