import Quadlink.Config.Basic
import Quadlink.Json.Record
import Quadlink.Text.Unsigned
import Quadlink.Toml.Document

/-!
# Settings

Settings as a file or the environment gives them, before they become a configuration. Only the
endpoints must be there. A setting that is not given leaves the configuration's own value; a user
name without a mode asks for a token. A file holds no other fields than these, each at most once.
-/

namespace Quadlink

def maxUInt16 : Nat := UInt16.size - 1

/-- Settings of a repository client, each as it was given. All notations of settings come down to
this record, and differ in nothing after that. -/
structure Settings where
  endpoints : List String
  username : Option String := none
  password : Option String := none
  authMode : Option String := none
  retryCount : Option Nat := none
  retryBackoffMs : Option Nat := none
  retriableStatuses : Option (List Nat) := none
  readTimeoutMs : Option Nat := none
  writeTimeoutMs : Option Nat := none
  headers : NameMap String := .empty
  rdfType : Option String := none
  queryType : Option String := none
  deriving Repr, DecidableEq

namespace Settings

/-- The user name, unless it is blank. A blank one counts as none, so that a mode is not implied by
an empty variable. -/
def visibleUsername (settings : Settings) : Option String :=
  settings.username.filter fun name => !Text.isAllBlank name

/-- The mode that the settings name, or the one that they imply: a token for a user, nothing for
nobody. -/
def mode (settings : Settings) : Except Failure AuthMode :=
  match settings.authMode, settings.visibleUsername with
  | some raw, _ => AuthMode.parse raw
  | none, some _ => .ok .token
  | none, none => .ok .none

def credentials (settings : Settings) : Option Credentials :=
  settings.visibleUsername.map fun username => ⟨username, settings.password.getD ""⟩

/-- The configuration of a client that uses a mode. Where a setting is missing, the default of the
client stands. -/
def client (settings : Settings) (mode : AuthMode) : ClientConfig :=
  let standard : ClientConfig := {}
  let millis (given : Option Nat) (fallback : Duration) : Duration :=
    (given.map Duration.ofMillis).getD fallback
  { headers := .ofList settings.headers.entries
    readTimeout := millis settings.readTimeoutMs standard.readTimeout
    writeTimeout := millis settings.writeTimeoutMs standard.writeTimeout
    retryCount := settings.retryCount.getD standard.retryCount
    retryBackoff := millis settings.retryBackoffMs standard.retryBackoff
    retriableStatuses :=
      (settings.retriableStatuses.map ascending).getD standard.retriableStatuses
    authMode := mode
    credentials := settings.credentials }

/-- The configuration that the settings describe, if it is valid. -/
def config (settings : Settings) : Except Failure RepositoryConfig := do
  let mode ← settings.mode
  let standard : RepositoryConfig := {}
  let config : RepositoryConfig :=
    { client := settings.client mode
      endpoints := settings.endpoints
      rdfType := settings.rdfType.getD standard.rdfType
      queryType := settings.queryType.getD standard.queryType }
  let _ ← config.endpointSet
  return config

/-! ## Fields -/

/-- The names of the fields, in their order. The order matters where a record is written as an
array. -/
def fieldNames : List String :=
  ["endpoints", "username", "password", "auth_mode", "retry_count", "retry_backoff_ms",
    "retriable_statuses", "read_timeout_ms", "write_timeout_ms", "headers",
    "default_rdf_mime_type", "default_query_mime_type"]

section Json

open Json Json.Document

/-- Read settings from a JSON document. An optional field may be `null`. -/
def ofJson? (document : Json.Document) : Option Settings := do
  let maybe {α : Type} (read : Json.Document → Option α) := orElse? none (nullable? read)
  match ← document.fields? fieldNames true with
  | [endpoints, username, password, authMode, retryCount, retryBackoffMs, retriableStatuses,
      readTimeoutMs, writeTimeoutMs, headers, rdfType, queryType] =>
    return {
      endpoints := ← required? (list? text?) endpoints
      username := ← maybe text? username
      password := ← maybe text? password
      authMode := ← maybe text? authMode
      retryCount := ← maybe (natural? Text.maxUInt32) retryCount
      retryBackoffMs := ← maybe (natural? Text.maxUInt64) retryBackoffMs
      retriableStatuses := ← maybe (list? (natural? maxUInt16)) retriableStatuses
      readTimeoutMs := ← maybe (natural? Text.maxUInt64) readTimeoutMs
      writeTimeoutMs := ← maybe (natural? Text.maxUInt64) writeTimeoutMs
      headers := ← orElse? .empty (map? text?) headers
      rdfType := ← maybe text? rdfType
      queryType := ← maybe text? queryType }
  | _ => none

end Json

section Toml

open Toml

def scalarText? : Scalar → Option String
  | .text value => some value
  | .integer _ => none

/-- The natural number of a scalar, up to a limit. -/
def scalarNatural? (limit : Nat) : Scalar → Option Nat
  | .text _ => none
  | .integer n => if 0 ≤ n ∧ n ≤ limit then some n.toNat else none

def scalarField? {α : Type} (read : Scalar → Option α) : Field → Option α
  | .value (.scalar value) => read value
  | _ => none

def listField? {α : Type} (read : Scalar → Option α) : Field → Option (List α)
  | .value (.list items) => items.mapM read
  | _ => none

def tableField? : Field → Option (NameMap String)
  | .table entries =>
    (entries.mapM fun entry => (scalarField? scalarText? (.value entry.2)).map (entry.1, ·)).map
      NameMap.ofList
  | _ => none

/-- Read settings from a TOML document. An unknown field is refused, as in JSON, but nothing may
stand for a missing one. -/
def ofToml? (document : Toml.Document) : Option Settings := do
  let maybe {α : Type} (read : Field → Option α) (name : String) : Option (Option α) :=
    match lookupEntry name document with
    | none => some none
    | some field => (read field).map some
  let text := scalarField? scalarText?
  let natural (limit : Nat) := scalarField? (scalarNatural? limit)
  if document.any (fun field => !fieldNames.contains field.1) then none
  else
    return {
      endpoints := ← (lookupEntry "endpoints" document).bind (listField? scalarText?)
      username := ← maybe text "username"
      password := ← maybe text "password"
      authMode := ← maybe text "auth_mode"
      retryCount := ← maybe (natural Text.maxUInt32) "retry_count"
      retryBackoffMs := ← maybe (natural Text.maxUInt64) "retry_backoff_ms"
      retriableStatuses := ← maybe (listField? (scalarNatural? maxUInt16)) "retriable_statuses"
      readTimeoutMs := ← maybe (natural Text.maxUInt64) "read_timeout_ms"
      writeTimeoutMs := ← maybe (natural Text.maxUInt64) "write_timeout_ms"
      headers := (← maybe tableField? "headers").getD .empty
      rdfType := ← maybe text "default_rdf_mime_type"
      queryType := ← maybe text "default_query_mime_type" }

end Toml

/-! ## Files -/

/-- The name of a file: the last component of its path that is neither empty nor a single dot. A
path that ends in two dots names no file. -/
def fileName? (path : String) : Option (List Char) :=
  let components := Text.pieces (· == '/') path.toList
  match (components.filter (fun c => c != [] && c != ['.'])).getLast? with
  | none => none
  | some name => if name = ['.', '.'] then none else some name

/-- What follows the last dot of a file name; a dot at its very front does not count. -/
def extension? (path : String) : Option String :=
  match (fileName? path).bind (Text.cutAtLast? '.') with
  | none => none
  | some (before, after) => if before.isEmpty then none else some (String.ofList after)

/-- Read the text of a settings file; a file without an extension is in JSON. -/
def parse (contents path : String) : Except Failure Settings :=
  let format := (extension? path).getD "json"
  if format = "toml" then
    match (Toml.Document.parse? contents).bind ofToml? with
    | some settings => .ok settings
    | none => .error (.config .badToml)
  else if format = "json" then
    match (Json.Document.parse (Text.encode contents)).bind ofJson? with
    | some settings => .ok settings
    | none => .error (.config .badJson)
  else .error (.config (.unknownFormat format))

end Settings

def RepositoryConfig.parse (contents path : String) : Except Failure RepositoryConfig := do
  (← Settings.parse contents path).config

end Quadlink
