import Quadlink.Config.Settings

/-!
# Where settings come from

Settings come from variables of the environment or, if those do not make a valid configuration,
from a file. Two folders are looked at for a settings file, the working folder and the one above
it, and in each of them a TOML file comes before a JSON file.
-/

namespace Quadlink

abbrev Folder := NameMap Bytes

/-- What a program finds around itself: variables, the working folder and the folder above. -/
structure Environment where
  values : NameMap String := .empty
  here : Folder := .empty
  above : Folder := .empty

namespace Environment

/-! ## Variables -/

/-- The parts of a comma-separated list that are not blank. A list of nothing but commas has no
parts and is found to be empty later, as a list of endpoints. -/
def splitEndpoints (raw : String) : List String :=
  ((Text.pieces (· == ',') raw.toList).map fun part => String.ofList (Text.trimChars part)).filter
    fun part => !part.isEmpty

def required (env : Environment) (key : String) : Except Failure String :=
  match env.values.get? key with
  | some value => .ok value
  | none => .error (.config (.missingVariable key))

def number? (env : Environment) (limit : Nat) (key : String) : Except Failure (Option Nat) :=
  match env.values.get? key with
  | none => .ok none
  | some raw =>
    match Text.parseUnsigned limit (Text.trim raw) with
    | .ok n => .ok (some n)
    | .error why => .error (.config (.badVariable key why))

/-- The settings that the variables give. Those that hold texts are taken as they are, blank ones
included. -/
def settings (env : Environment) : Except Failure Settings := do
  let endpoints ← env.required "GRAPHDB_ENDPOINTS"
  let retryCount ← env.number? Text.maxUInt32 "GRAPHDB_RETRY_COUNT"
  let readTimeoutMs ← env.number? Text.maxUInt64 "GRAPHDB_READ_TIMEOUT_MS"
  let writeTimeoutMs ← env.number? Text.maxUInt64 "GRAPHDB_WRITE_TIMEOUT_MS"
  return {
    endpoints := splitEndpoints endpoints
    username := env.values.get? "GRAPHDB_USERNAME"
    password := env.values.get? "GRAPHDB_PASSWORD"
    authMode := env.values.get? "GRAPHDB_AUTH_MODE"
    retryCount, readTimeoutMs, writeTimeoutMs }

def configOfVariables (env : Environment) : Except Failure RepositoryConfig := do
  (← env.settings).config

/-! ## Files -/

/-- What a path leads to. A folder in place of a file is told apart, because reading it fails in a
way of its own. -/
inductive Found
  | file (contents : Bytes)
  | folder
  | nothing
  deriving Repr, DecidableEq

/-- Follow a path from the working folder. Only files of the two folders are in reach, and nothing
lies below a file. From the root only the root itself can be reached. -/
def find (env : Environment) (path : String) : Found :=
  let cs := path.toList
  let names := (Text.pieces (· == '/') cs).filter fun c => c != [] && c != ['.']
  let up (c : List Char) : Bool := c == ['.', '.']
  if cs.isEmpty then .nothing
  else if cs.head? == some '/' then if names.all up then .folder else .nothing
  else
    match names.dropWhile up with
    | [] => .folder
    | [name] =>
      let folder : Folder :=
        match names.takeWhile up with
        | [] => env.here
        | [_] => env.above
        | _ => .empty
      let asFolder := cs.getLast? == some '/' || (Text.pieces (· == '/') cs).getLast? == some ['.']
      match folder.get? (String.ofList name) with
      | some contents => if asFolder then .nothing else .file contents
      | none => .nothing
    | _ => .nothing

/-- The configuration in a settings file. The file is looked at before its text is read, and the
text before its settings are judged. -/
def configOfFile (env : Environment) (path : String) : Except Failure RepositoryConfig :=
  match env.find path with
  | .nothing => .error (.config (.fileNotFound path))
  | .folder => .error (.config .folderAsFile)
  | .file contents =>
    match Text.decode contents with
    | .error _ => .error (.config .unreadableFile)
    | .ok text => RepositoryConfig.parse text path

/-- The paths where a settings file is looked for. -/
def standardPaths : List String :=
  ["graphdb.toml", "graphdb.json", "../graphdb.toml", "../graphdb.json"]

/-- The configuration in the first settings file that there is. If that one is not valid the others
are not tried. -/
def configOfStandardFile (env : Environment) : Except Failure RepositoryConfig :=
  match standardPaths.find? fun path => env.find path != .nothing with
  | some path => env.configOfFile path
  | none => .error (.config .noFile)

/-- The configuration of the variables or, if that is not valid, the one of a file. What is wrong
with the variables is then not reported. -/
def config (env : Environment) : Except Failure RepositoryConfig :=
  match env.configOfVariables with
  | .ok config => .ok config
  | .error _ => env.configOfStandardFile

end Environment

end Quadlink
