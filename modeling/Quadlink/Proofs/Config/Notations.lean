import Quadlink.Config.Environment
import Quadlink.Proofs.Http.Lookup
import Quadlink.Proofs.Json.Records
import Quadlink.Proofs.Toml.Documents

/-!
# Settings in three notations

Some settings can be given in any of three notations: as variables of the environment, as an object
of JSON and as a document of TOML (`CommonSettings`). Each notation has many ways to write the same
settings. Whichever is used, the settings are read (`Environment.Gives.settings_eq`,
`CommonSettings.IsJsonText.parse`, `CommonSettings.IsTomlText.parse`).

In the two file notations settings are entries under names, in any order. What both readers ask a
document is the entry under a name, so the order is settled once (`lookupEntry_entries`), and so is
what the entries of a notation answer (`Option.Rel` of what the settings themselves answer).
-/

namespace Quadlink

/-! ## The settings -/

/-- An endpoint that can stand in a list between commas. White space around it would be lost, and a
comma would make two of it. -/
def IsListable (endpoint : String) : Prop :=
  endpoint ≠ "" ∧ Text.trim endpoint = endpoint ∧ ',' ∉ endpoint.toList

/-- The largest integer in 64 bits with a sign, 2^63 - 1: larger ones are not for every reader of
TOML. -/
def maxInt64 : Nat := UInt64.size / 2 - 1

/-- Settings that every notation can express. Variables have no headers and no list of statuses, and
numbers have the least of the limits that the notations set. -/
structure CommonSettings where
  endpoints : List String
  username : Option String
  password : Option String
  authMode : Option String
  retryCount : Option Nat
  readTimeoutMs : Option Nat
  writeTimeoutMs : Option Nat
  isListable_of_mem : ∀ endpoint ∈ endpoints, IsListable endpoint
  retryCount_le : ∀ n ∈ retryCount, n ≤ Text.maxUInt32
  readTimeoutMs_le : ∀ n ∈ readTimeoutMs, n ≤ maxInt64
  writeTimeoutMs_le : ∀ n ∈ writeTimeoutMs, n ≤ maxInt64

inductive Given
  | text (value : String)
  | number (n : Nat)
  | texts (items : List String)

namespace CommonSettings

variable (common : CommonSettings)

/-- The settings, with those left out that not every notation knows. -/
def settings : Settings :=
  { endpoints := common.endpoints
    username := common.username
    password := common.password
    authMode := common.authMode
    retryCount := common.retryCount
    readTimeoutMs := common.readTimeoutMs
    writeTimeoutMs := common.writeTimeoutMs }

/-- The names of the settings, each with what is given under it. -/
def fields : List (String × Option Given) :=
  [("endpoints", some (.texts common.endpoints)), ("username", common.username.map .text),
    ("password", common.password.map .text), ("auth_mode", common.authMode.map .text),
    ("retry_count", common.retryCount.map .number),
    ("read_timeout_ms", common.readTimeoutMs.map .number),
    ("write_timeout_ms", common.writeTimeoutMs.map .number)]

def entries : List (String × Given) := presentEntries common.fields

theorem readTimeoutMs_fits : ∀ n ∈ common.readTimeoutMs, n ≤ Text.maxUInt64 := fun n hn =>
  Nat.le_trans (common.readTimeoutMs_le n hn) (by decide)

theorem writeTimeoutMs_fits : ∀ n ∈ common.writeTimeoutMs, n ≤ Text.maxUInt64 := fun n hn =>
  Nat.le_trans (common.writeTimeoutMs_le n hn) (by decide)

theorem nodup_fields : (common.fields.map Prod.fst).Nodup := by
  show ["endpoints", "username", "password", "auth_mode", "retry_count", "read_timeout_ms",
    "write_timeout_ms"].Nodup
  decide

theorem nodup_entries : (common.entries.map Prod.fst).Nodup :=
  common.nodup_fields.sublist (names_presentEntries common.fields)

theorem mem_fieldNames {name : String} (h : name ∈ common.entries.map Prod.fst) :
    name ∈ Settings.fieldNames := by
  have hfields : ∀ name ∈ common.fields.map Prod.fst, name ∈ Settings.fieldNames := by
    show ∀ name ∈ ["endpoints", "username", "password", "auth_mode", "retry_count",
      "read_timeout_ms", "write_timeout_ms"], name ∈ Settings.fieldNames
    decide
  exact hfields name ((names_presentEntries common.fields).subset h)

/-- What is given under a name, in whatever order the entries stand. -/
theorem lookupEntry_entries {ordered : List (String × Given)} (h : ordered.Perm common.entries)
    (name : String) : lookupEntry name ordered = (lookupEntry name common.fields).join := by
  rw [lookupEntry_perm common.nodup_entries h]
  exact lookupEntry_presentEntries common.nodup_fields

end CommonSettings

/-! ## Variables -/

/-- The ways to write some endpoints between commas, with white space around each of them. The list
may be empty, and then it is written as white space. -/
inductive IsListed : List String → List Char → Prop where
  | nil {gap : List Char} (hgap : ∀ c ∈ gap, Text.isBlank c = true) : IsListed [] gap
  | last {endpoint : String} {padded : List Char} (h : Text.IsPadded endpoint.toList padded) :
      IsListed [endpoint] padded
  | cons {endpoint : String} {endpoints : List String} {padded rest : List Char}
      (h : Text.IsPadded endpoint.toList padded) (hrest : IsListed endpoints rest) :
      IsListed (endpoint :: endpoints) (padded ++ ',' :: rest)

def IsNumbered (given : Option Nat) (raw? : Option String) : Prop :=
  Option.Rel (fun n raw => Text.IsPadded (toString n).toList raw.toList) given raw?

/-- Variables that give some settings. Others may be set as well, but an optional one that is not
given must not be there. -/
structure Environment.Gives (env : Environment) (common : CommonSettings) : Prop where
  endpoints : ∃ raw, env.values.get? "GRAPHDB_ENDPOINTS" = some raw
    ∧ IsListed common.endpoints raw.toList
  username : env.values.get? "GRAPHDB_USERNAME" = common.username
  password : env.values.get? "GRAPHDB_PASSWORD" = common.password
  authMode : env.values.get? "GRAPHDB_AUTH_MODE" = common.authMode
  retryCount : IsNumbered common.retryCount (env.values.get? "GRAPHDB_RETRY_COUNT")
  readTimeoutMs : IsNumbered common.readTimeoutMs (env.values.get? "GRAPHDB_READ_TIMEOUT_MS")
  writeTimeoutMs : IsNumbered common.writeTimeoutMs (env.values.get? "GRAPHDB_WRITE_TIMEOUT_MS")

theorem IsListable.not_mem_padded {endpoint : String} {padded : List Char} (h : IsListable endpoint)
    (hpadded : Text.IsPadded endpoint.toList padded) : ',' ∉ padded := by
  obtain ⟨left, right, hleft, hright, rfl⟩ := hpadded
  simp only [List.mem_append, not_or]
  exact ⟨fun hc => absurd (hleft _ hc) (by decide), h.2.2,
    fun hc => absurd (hright _ hc) (by decide)⟩

theorem IsListable.trimChars_padded {endpoint : String} {padded : List Char}
    (h : IsListable endpoint) (hpadded : Text.IsPadded endpoint.toList padded) :
    String.ofList (Text.trimChars padded) = endpoint := by
  have htrim : Text.trimChars endpoint.toList = endpoint.toList := by
    rw [← String.toList_ofList (l := Text.trimChars endpoint.toList)]
    exact congrArg String.toList h.2.1
  rw [hpadded.trimChars_eq htrim, String.ofList_toList]

/-- The endpoints of a list are its parts. -/
theorem Environment.splitEndpoints_eq {endpoints : List String} {raw : String}
    (h : IsListed endpoints raw.toList) (hlistable : ∀ endpoint ∈ endpoints, IsListable endpoint) :
    Environment.splitEndpoints raw = endpoints := by
  have hcut : ∀ {front : List Char}, ',' ∉ front → front.any (· == ',') = false := by
    intro front hfront
    rw [Text.any_eq_false_iff]
    intro c hc
    rw [beq_eq_false_iff_ne]
    rintro rfl
    exact hfront hc
  unfold Environment.splitEndpoints
  generalize raw.toList = cs at h
  induction h with
  | @nil gap hgap =>
      have hplain : ',' ∉ gap := fun hc => absurd (hgap _ hc) (by decide)
      rw [Text.pieces_eq_singleton (hcut hplain), List.map_singleton,
        Text.trimChars_eq_nil_iff.mpr hgap]
      rfl
  | @last endpoint padded h =>
      have hendpoint := hlistable endpoint List.mem_cons_self
      rw [Text.pieces_eq_singleton (hcut (hendpoint.not_mem_padded h)), List.map_singleton,
        hendpoint.trimChars_padded h]
      simp [hendpoint.1]
  | @cons endpoint endpoints padded rest h _ ih =>
      obtain ⟨hendpoint, hothers⟩ := List.forall_mem_cons.mp hlistable
      rw [Text.pieces_append (by rfl) (hcut (hendpoint.not_mem_padded h)), List.map_cons,
        hendpoint.trimChars_padded h, List.filter_cons_of_pos (by simp [hendpoint.1]), ih hothers]

theorem Environment.number?_eq {env : Environment} {limit : Nat} {key : String} {given : Option Nat}
    (h : IsNumbered given (env.values.get? key)) (hlimit : ∀ n ∈ given, n ≤ limit) :
    env.number? limit key = .ok given := by
  unfold Environment.number?
  revert h
  generalize env.values.get? key = raw?
  rintro (⟨hpadded⟩ | ⟨⟩)
  · rename_i n raw
    have htrim : Text.trimChars (toString n).toList = (toString n).toList :=
      Text.trimChars_eq_self fun c hc =>
        Text.not_isBlank_of_isDigit (Text.isDigit_of_mem_toString hc)
    have hraw : Text.trim raw = toString n := by
      rw [Text.trim, hpadded.trimChars_eq htrim, String.ofList_toList]
    dsimp only
    rw [hraw, Text.parseUnsigned_toString (hlimit n rfl)]
  · rfl

namespace Environment

variable {env : Environment} {common : CommonSettings}

theorem Gives.settings_eq (h : env.Gives common) : env.settings = .ok common.settings := by
  obtain ⟨raw, hraw, hlisted⟩ := h.endpoints
  have hrequired : env.required "GRAPHDB_ENDPOINTS" = .ok raw := by
    rw [Environment.required, hraw]
  have hretry := number?_eq h.retryCount common.retryCount_le
  have hread := number?_eq h.readTimeoutMs common.readTimeoutMs_fits
  have hwrite := number?_eq h.writeTimeoutMs common.writeTimeoutMs_fits
  unfold Environment.settings
  rw [hrequired, hretry, hread, hwrite, h.username, h.password, h.authMode]
  show Except.ok _ = Except.ok _
  rw [splitEndpoints_eq hlisted common.isListable_of_mem]
  rfl

end Environment

/-! ## Paths -/

/-- A path to a file whose name ends in an extension, with something in front of it. -/
def HasExtension (extension path : String) : Prop :=
  ∃ front last, last ≠ '/' ∧ path.toList = front ++ last :: '.' :: extension.toList

theorem Settings.fileName?_eq {path : String} {folders : List (List Char)} {name : List Char}
    (hpieces : Text.pieces (· == '/') path.toList = folders ++ [name])
    (hname : name ∉ [[], ['.'], ['.', '.']]) : Settings.fileName? path = some name := by
  simp only [List.mem_cons, List.not_mem_nil, or_false, not_or] at hname
  obtain ⟨hsome, hhere, hback⟩ := hname
  have hlast : ((folders ++ [name]).filter fun c => c != [] && c != ['.']).getLast? = some name := by
    rw [List.filter_append, List.filter_cons_of_pos (by simp [hsome, hhere]), List.filter_nil,
      List.getLast?_concat]
  unfold Settings.fileName?
  simp only [hpieces, hlast, hback, if_false]

/-- The name of the file is what stands behind the last slash of the path. -/
theorem HasExtension.exists_pieces {extension path : String} (h : HasExtension extension path)
    (hslash : '/' ∉ extension.toList) : ∃ folders stem last, Text.pieces (· == '/') path.toList
      = folders ++ [stem ++ last :: '.' :: extension.toList] := by
  obtain ⟨front, last, hlast, hpath⟩ := h
  have hplain : ∀ stem : List Char, '/' ∉ stem →
      (stem ++ last :: '.' :: extension.toList).any (· == '/') = false := by
    intro stem hstem
    simp only [List.any_append, List.any_cons, Bool.or_eq_false_iff, Text.any_eq_false_iff,
      beq_eq_false_iff_ne]
    exact ⟨fun c hc heq => hstem (heq ▸ hc), hlast, by decide, fun c hc heq => hslash (heq ▸ hc)⟩
  cases hcut : Text.cutAtLast? '/' front with
  | none =>
      refine ⟨[], front, last, ?_⟩
      rw [hpath, Text.pieces_eq_singleton (hplain front fun h => Text.cutAtLast?_ne_none h hcut)]
      rfl
  | some parts =>
      obtain ⟨folder, stem⟩ := parts
      obtain ⟨first, others, hpieces⟩ := @Text.exists_pieces_append (· == '/') _ '/' rfl
        (hplain stem (Text.not_mem_of_cutAtLast? hcut)) folder
      refine ⟨first :: others, stem, last, ?_⟩
      rw [hpath, Text.cutAtLast?_eq_some hcut, List.append_assoc, List.cons_append]
      exact hpieces

theorem HasExtension.extension?_eq {extension path : String} (h : HasExtension extension path)
    (hsome : extension.toList ≠ []) (hdot : '.' ∉ extension.toList)
    (hslash : '/' ∉ extension.toList) : Settings.extension? path = some extension := by
  obtain ⟨folders, stem, last, hpieces⟩ := h.exists_pieces hslash
  have hlength : 3 ≤ (stem ++ last :: '.' :: extension.toList).length := by
    have hpositive := List.length_pos_iff.mpr hsome
    simp only [List.length_append, List.length_cons]
    omega
  have hname : stem ++ last :: '.' :: extension.toList ∉ [[], ['.'], ['.', '.']] := by
    intro hmem
    simp only [List.mem_cons, List.not_mem_nil, or_false] at hmem
    rcases hmem with heq | heq | heq <;> (rw [heq] at hlength; exact absurd hlength (by decide))
  have hcut : Text.cutAtLast? '.' (stem ++ last :: '.' :: extension.toList)
      = some (stem ++ [last], extension.toList) := by
    rw [← List.singleton_append, ← List.append_assoc]
    exact Text.cutAtLast?_append hdot
  rw [Settings.extension?, Settings.fileName?_eq hpieces hname, Option.bind_some, hcut]
  simp

/-! ## JSON -/

section Json

open Json Json.Document

inductive Given.IsJson : Given → Json.Document → Prop where
  | text {value : String} {document : Json.Document} (h : IsJsonString value document) :
      IsJson (.text value) document
  | number (n : Nat) :
      IsJson (.number n) (.number ⟨false, Text.digitValues (toString n).toList, none, none⟩)
  | texts {items : List String} {documents : List Json.Document}
      (h : List.Forall₂ IsJsonString items documents) : IsJson (.texts items) (.array documents)

/-- A member of an object that gives a setting under its name. -/
def IsJsonMember (entry : String × Given) (member : Bytes × Json.Document) : Prop :=
  (∃ body, IsBody entry.1.toList body ∧ member.1 = Text.encodeChars body)
    ∧ entry.2.IsJson member.2

/-- An object that holds some settings and nothing else, as a text. Members may come in any order
and be written in any way that JSON has. -/
def CommonSettings.IsJsonText (common : CommonSettings) (text : String) : Prop :=
  ∃ ordered members, ordered.Perm common.entries ∧ List.Forall₂ IsJsonMember ordered members
    ∧ IsText (Json.Document.object members).tokens text.toList

theorem Json.Document.natural?_eq {limit n : Nat} (h : n ≤ limit) :
    natural? limit (.number ⟨false, Text.digitValues (toString n).toList, none, none⟩)
      = some n := by
  rw [natural?, NumberToken.natural?, Text.foldl_digitValues_toString, Option.filter_some,
    if_pos (by simpa using h)]

theorem Given.IsJson.ne_null {given : Given} {document : Json.Document}
    (h : given.IsJson document) : document ≠ .null := by
  cases h with
  | text h =>
      obtain ⟨body, _, rfl⟩ := h
      exact nofun
  | number n => exact nofun
  | texts _ => exact nofun

/-- An optional field, read from what the document holds under its name. -/
theorem Json.Document.optional_eq {α : Type} {given : Option α} {write : α → Given}
    {read : Json.Document → Option α} {found : Option Json.Document}
    (h : Option.Rel Given.IsJson (given.map write) found)
    (hread : ∀ value ∈ given, ∀ document, (write value).IsJson document →
      read document = some value) :
    orElse? none (nullable? read) found = some given := by
  cases given with
  | none =>
      cases h
      rfl
  | some value =>
      obtain @⟨_, document, hvalue⟩ := h
      exact optional_eq_some_iff.mpr
        ⟨document, rfl, hvalue.ne_null, hread value rfl document hvalue⟩

theorem Json.Document.optionalText_eq {given : Option String} {found : Option Json.Document}
    (h : Option.Rel Given.IsJson (given.map .text) found) :
    orElse? none (nullable? text?) found = some given := by
  refine optional_eq h ?_
  rintro value - _ ⟨hstring⟩
  exact text?_eq hstring

theorem Json.Document.optionalNumber_eq {limit : Nat} {given : Option Nat}
    {found : Option Json.Document} (h : Option.Rel Given.IsJson (given.map .number) found)
    (hlimit : ∀ n ∈ given, n ≤ limit) :
    orElse? none (nullable? (natural? limit)) found = some given := by
  refine optional_eq h ?_
  rintro n hn _ ⟨⟩
  exact natural?_eq (hlimit n hn)

theorem Json.Document.listedTexts_eq {given : List String} {found : Option Json.Document}
    (h : Option.Rel Given.IsJson (some (.texts given)) found) :
    required? (list? text?) found = some given := by
  obtain ⟨hvalue⟩ := h
  cases hvalue with
  | @texts _ documents hitems =>
      exact mapM_eq_some_iff.mpr (hitems.flip.imp fun _ _ => text?_eq)

theorem Settings.ofJson?_eq {common : CommonSettings} {ordered : List (String × Given)}
    {members : List (Bytes × Json.Document)} (hordered : ordered.Perm common.entries)
    (h : List.Forall₂ IsJsonMember ordered members) :
    Settings.ofJson? (.object members) = some common.settings := by
  obtain ⟨known, hmembers, hsame⟩ := members?_eq (R := Given.IsJson) h
  have hnames : (known.map Prod.fst).Perm (common.entries.map Prod.fst) := by
    rw [names_eq_of_forall₂ hsame]
    exact hordered.map Prod.fst
  have hfound : ∀ name, Option.Rel Given.IsJson (lookupEntry name common.fields).join
      (lookupEntry name known) := by
    intro name
    rw [← common.lookupEntry_entries hordered name]
    exact lookupEntry_forall₂ hsame name
  have hfields : (Json.Document.object members).fields? Settings.fieldNames true
      = some (Settings.fieldNames.map fun name => lookupEntry name known) :=
    fields?_of_members? hmembers (hnames.nodup_iff.mpr common.nodup_entries)
      fun _ name hname => common.mem_fieldNames (hnames.mem_iff.mp hname)
  have habsent : ∀ name, (lookupEntry name common.fields).join = none →
      lookupEntry name known = none := by
    intro name hnone
    have hrel := hfound name
    rw [hnone] at hrel
    generalize lookupEntry name known = found at hrel
    cases hrel
    rfl
  unfold Settings.ofJson?
  rw [hfields]
  simp only [Settings.fieldNames, List.map_cons, List.map_nil, Option.bind_eq_bind, Option.bind_some,
    listedTexts_eq (hfound "endpoints"), optionalText_eq (hfound "username"),
    optionalText_eq (hfound "password"), optionalText_eq (hfound "auth_mode"),
    optionalNumber_eq (hfound "retry_count") common.retryCount_le,
    optionalNumber_eq (hfound "read_timeout_ms") common.readTimeoutMs_fits,
    optionalNumber_eq (hfound "write_timeout_ms") common.writeTimeoutMs_fits,
    habsent "retry_backoff_ms" rfl, habsent "retriable_statuses" rfl, habsent "headers" rfl,
    habsent "default_rdf_mime_type" rfl, habsent "default_query_mime_type" rfl]
  rfl

/-- However settings are written in JSON, they are read. -/
theorem CommonSettings.IsJsonText.parse {common : CommonSettings} {text path : String}
    (h : common.IsJsonText text) (hpath : HasExtension "json" path) :
    Settings.parse text path = .ok common.settings := by
  obtain ⟨ordered, members, hordered, hmembers, htext⟩ := h
  have hread : Json.Document.parse (Text.encode text) = some (.object members) :=
    Json.Document.parse_encodeChars htext
  have hsettings := Settings.ofJson?_eq hordered hmembers
  rw [Settings.parse, hpath.extension?_eq (by decide) (by decide) (by decide)]
  simp only [Option.getD_some, hread, Option.bind_some, hsettings]
  rfl

end Json

/-! ## TOML -/

section Toml

open Toml Settings

def Given.toml : Given → Toml.Value
  | .text value => .scalar (.text value)
  | .number n => .scalar (.integer n)
  | .texts items => .list (items.map .text)

/-- A document that holds some settings and nothing else, as a text. Fields may come in any order,
with comments between them and either kind of line end. -/
def CommonSettings.IsTomlText (common : CommonSettings) (text : String) : Prop :=
  ∃ (ordered : List (String × Given)) (cs : List Char), ordered.Perm common.entries
    ∧ IsText (ordered.map fun entry => (entry.1, entry.2.toml)) cs ∧ WithLineEnds cs text.toList

theorem Settings.scalarText_eq (given : String) :
    scalarField? scalarText? (.value (Given.text given).toml) = some given := rfl

theorem Settings.scalarNatural_eq {limit n : Nat} (h : n ≤ limit) :
    scalarField? (scalarNatural? limit) (.value (Given.number n).toml) = some n := by
  have hrange : (0 : Int) ≤ n ∧ (n : Int) ≤ limit := ⟨Int.natCast_nonneg n, Int.ofNat_le.mpr h⟩
  show (if (0 : Int) ≤ n ∧ (n : Int) ≤ limit then some (n : Int).toNat else none) = some n
  rw [if_pos hrange, Int.toNat_natCast]

theorem Settings.listField_eq (given : List String) :
    listField? scalarText? (.value (Given.texts given).toml) = some given := by
  show (given.map Scalar.text).mapM scalarText? = some given
  induction given with
  | nil => rfl
  | cons item items ih =>
      rw [List.map_cons, List.mapM_cons, ih]
      rfl

def Settings.optionalField? {α : Type} (read : Field → Option α) : Option Field → Option (Option α)
  | none => some none
  | some field => (read field).map some

/-- An optional field, read from what the document holds under its name. -/
theorem Settings.optionalField?_eq {α : Type} {given : Option α} {write : α → Given}
    {read : Field → Option α} {found : Option Field}
    (hfound : found = (given.map write).map fun given => Field.value given.toml)
    (hread : ∀ value ∈ given, read (.value (write value).toml) = some value) :
    optionalField? read found = some given := by
  subst hfound
  cases given with
  | none => rfl
  | some value =>
      show (read (.value (write value).toml)).map some = _
      rw [hread value rfl]
      rfl

theorem Settings.ofToml?_eq {common : CommonSettings} {ordered : List (String × Given)}
    (hordered : ordered.Perm common.entries) :
    Settings.ofToml? (ordered.map fun entry => (entry.1, .value entry.2.toml))
      = some common.settings := by
  have hfound : ∀ name,
      lookupEntry name (ordered.map fun entry => (entry.1, Field.value entry.2.toml))
      = (lookupEntry name common.fields).join.map fun given => .value given.toml := by
    intro name
    rw [lookupEntry_map (fun given : Given => Field.value given.toml) name ordered,
      common.lookupEntry_entries hordered]
  have hknown : ((ordered.map fun entry => (entry.1, Field.value entry.2.toml)).any
      fun field => !Settings.fieldNames.contains field.1) = false := by
    rw [List.any_eq_false]
    intro field hfield
    obtain ⟨entry, hentry, rfl⟩ := List.mem_map.mp hfield
    have hname := common.mem_fieldNames
      (List.mem_map_of_mem (f := Prod.fst) (hordered.mem_iff.mp hentry))
    simpa using hname
  have hnext : ∀ {α β : Type} {x : Option α} {a : α} {f : α → Option β}, x = some a →
      x.bind f = f a := by
    rintro _ _ _ _ _ rfl
    rfl
  generalize hdocument : (ordered.map fun entry => (entry.1, Field.value entry.2.toml)) = document
    at hfound hknown
  unfold Settings.ofToml?
  dsimp only
  rw [hknown]
  have hendpoints : (lookupEntry "endpoints" document).bind (listField? scalarText?)
      = some common.endpoints := by
    rw [hfound "endpoints"]
    exact listField_eq common.endpoints
  refine (hnext hendpoints).trans ?_
  refine (hnext (optionalField?_eq (hfound "username") fun value _ => scalarText_eq value)).trans ?_
  refine (hnext (optionalField?_eq (hfound "password") fun value _ => scalarText_eq value)).trans ?_
  refine (hnext (optionalField?_eq (hfound "auth_mode") fun value _ =>
    scalarText_eq value)).trans ?_
  refine (hnext (optionalField?_eq (hfound "retry_count") fun n hn =>
    scalarNatural_eq (common.retryCount_le n hn))).trans ?_
  rw [hfound "retry_backoff_ms", hfound "retriable_statuses"]
  refine (hnext (optionalField?_eq (hfound "read_timeout_ms") fun n hn =>
    scalarNatural_eq (common.readTimeoutMs_fits n hn))).trans ?_
  refine (hnext (optionalField?_eq (hfound "write_timeout_ms") fun n hn =>
    scalarNatural_eq (common.writeTimeoutMs_fits n hn))).trans ?_
  rw [hfound "headers", hfound "default_rdf_mime_type", hfound "default_query_mime_type"]
  rfl

/-- However settings are written in TOML, they are read. -/
theorem CommonSettings.IsTomlText.parse {common : CommonSettings} {text path : String}
    (h : common.IsTomlText text) (hpath : HasExtension "toml" path) :
    Settings.parse text path = .ok common.settings := by
  obtain ⟨ordered, cs, hordered, htext, hends⟩ := h
  have hnames : ((ordered.map fun entry => (entry.1, entry.2.toml)).map Prod.fst).Nodup := by
    rw [List.map_map]
    exact (hordered.map Prod.fst).nodup_iff.mpr common.nodup_entries
  have hread : Document.parse? text
      = some (ordered.map fun entry => (entry.1, .value entry.2.toml)) := by
    have hparsed := Document.parse?_ofList htext hends hnames
    rw [String.ofList_toList, List.map_map] at hparsed
    exact hparsed
  rw [Settings.parse, hpath.extension?_eq (by decide) (by decide) (by decide)]
  simp only [Option.getD_some, if_true, hread, Option.bind_some, Settings.ofToml?_eq hordered]

end Toml

end Quadlink
