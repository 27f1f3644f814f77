import Quadlink.Proofs.Config.Notations
import Quadlink.Proofs.Json.Writing

/-!
# Writing settings

Every `CommonSettings` can be written in each of the three notations, so that what holds of all ways
to write them is not about nothing: as variables (`CommonSettings.gives_variables`), by the writer of
JSON (`CommonSettings.isJsonText_jsonText`) and as lines of TOML
(`CommonSettings.isTomlText_tomlText`). Characters that cannot stand for themselves are escaped by
their number.
-/

namespace Quadlink

/-! ## JSON -/

open Json

def Given.json : Given → Json.Value
  | .text value => .string value
  | .number n => .number (.natural n)
  | .texts items => .array (items.map .string)

theorem isText_items (items : List String) {tokens : List Token} {rest : List Char}
    (hrest : IsText tokens rest) :
    IsText (itemTokens (items.map writtenString) ++ tokens)
      ((itemsText (items.map .string)).toList ++ rest) := by
  induction items with
  | nil => exact hrest
  | cons item items ih =>
      cases items with
      | nil => exact isText_string item hrest
      | cons next items =>
          have hmore := isText_string item (.mark (by decide : (Token.comma, ',') ∈ marks) ih)
          have htokens : itemTokens ((item :: next :: items).map writtenString) ++ tokens
              = (writtenString item).tokens
                ++ .comma :: (itemTokens ((next :: items).map writtenString) ++ tokens) := by
            rw [List.map_cons, List.map_cons, itemTokens, List.append_assoc, List.cons_append]
            exact nofun
          have htext : (itemsText ((item :: next :: items).map .string)).toList ++ rest
              = (quoted item).toList
                ++ ',' :: ((itemsText ((next :: items).map .string)).toList ++ rest) := by
            rw [List.map_cons, List.map_cons, itemsText]
            · simp [Value.text]
            · exact nofun
          rw [htokens, htext]
          exact hmore

theorem Given.exists_document (given : Given) :
    ∃ document, given.IsJson document ∧ ∀ {tokens : List Token} {rest : List Char},
      IsText tokens rest → EndsNumber rest →
        IsText (document.tokens ++ tokens) (given.json.text.toList ++ rest) := by
  cases given with
  | text value =>
      exact ⟨_, .text (isJsonString_writtenString value), fun hrest _ => isText_string value hrest⟩
  | number n =>
      refine ⟨_, .number n, fun {tokens rest} hrest hend => ?_⟩
      exact @IsText.cons _ tokens [] _ rest nofun (isTokenText_natural n) hrest fun _ _ => hend
  | texts items =>
      refine ⟨.array (items.map writtenString), .texts ?_, fun {tokens rest} hrest _ => ?_⟩
      · rw [List.forall₂_map_right_iff]
        exact List.forall₂_same.mpr fun item _ => isJsonString_writtenString item
      · have hitems := isText_items items (.mark (by decide : (Token.closeBracket, ']') ∈ marks) hrest)
        have hopened := IsText.mark (by decide : (Token.openBracket, '[') ∈ marks) hitems
        have htokens : (Json.Document.array (items.map writtenString)).tokens ++ tokens
            = .openBracket :: (itemTokens (items.map writtenString) ++ .closeBracket :: tokens) := by
          rw [Json.Document.tokens, List.cons_append, List.append_assoc, List.singleton_append]
        have htext : (Given.texts items).json.text.toList ++ rest
            = '[' :: ((itemsText (items.map .string)).toList ++ ']' :: rest) := by
          simp [Given.json, Value.text]
        rw [htokens, htext]
        exact hopened

theorem exists_members (entries : List (String × Given)) :
    ∃ members, List.Forall₂ IsJsonMember entries members ∧ ∀ {tokens : List Token}
      {rest : List Char}, IsText tokens rest → EndsNumber rest →
        IsText (memberTokens members ++ tokens)
          ((membersText (entries.map fun entry => (entry.1, entry.2.json))).toList ++ rest) := by
  induction entries with
  | nil => exact ⟨[], .nil, fun hrest _ => hrest⟩
  | cons entry entries ih =>
      obtain ⟨members, hmembers, hmore⟩ := ih
      obtain ⟨document, hdocument, hvalue⟩ := entry.2.exists_document
      refine ⟨(Text.encodeChars (entry.1.toList.flatMap escapeChar), document) :: members,
        .cons ⟨⟨_, isBody_escape _, rfl⟩, hdocument⟩ hmembers, fun {tokens rest} hrest hend => ?_⟩
      cases hmembers with
      | nil =>
          have hmember := isText_string entry.1
            (.mark (by decide : (Token.colon, ':') ∈ marks) (hvalue hrest hend))
          have htext : (membersText ([entry].map fun entry => (entry.1, entry.2.json))).toList ++ rest
              = (quoted entry.1).toList ++ ':' :: (entry.2.json.text.toList ++ rest) := by
            simp [membersText]
          rw [htext]
          exact hmember
      | @cons next member entries members hnext hothers =>
          have hmember := isText_string entry.1 (.mark (by decide : (Token.colon, ':') ∈ marks)
            (hvalue (.mark (by decide : (Token.comma, ',') ∈ marks) (hmore hrest hend))
              (endsNumber_cons (by decide) _)))
          have htext : (membersText ((entry :: next :: entries).map
                fun entry => (entry.1, entry.2.json))).toList ++ rest
              = (quoted entry.1).toList ++ ':' :: (entry.2.json.text.toList
                ++ ',' :: ((membersText ((next :: entries).map
                  fun entry => (entry.1, entry.2.json))).toList ++ rest)) := by
            rw [List.map_cons, List.map_cons, membersText]
            · simp
            · exact nofun
          have htokens : memberTokens ((Text.encodeChars (entry.1.toList.flatMap escapeChar), document)
                :: member :: members) ++ tokens
              = (writtenString entry.1).tokens ++ .colon :: (document.tokens
                ++ .comma :: (memberTokens (member :: members) ++ tokens)) := by
            rw [memberTokens, List.cons_append, List.cons_append, List.append_assoc,
              List.cons_append]
            · rfl
            · exact nofun
          rw [htext, htokens]
          exact hmember

def CommonSettings.jsonText (common : CommonSettings) : String :=
  (Json.Value.object (common.entries.map fun entry => (entry.1, entry.2.json))).text

theorem CommonSettings.isJsonText_jsonText (common : CommonSettings) :
    common.IsJsonText common.jsonText := by
  obtain ⟨members, hmembers, hmore⟩ := exists_members common.entries
  refine ⟨common.entries, members, .refl _, hmembers, ?_⟩
  have hclosed := hmore (.mark (by decide : (Token.closeBrace, '\x7d') ∈ marks) (@IsText.nil [] nofun))
    (endsNumber_cons (by decide) [])
  have hopened := IsText.mark (by decide : (Token.openBrace, '\x7b') ∈ marks) hclosed
  have htext : common.jsonText.toList = '\x7b' :: ((membersText (common.entries.map
      fun entry => (entry.1, entry.2.json))).toList ++ ['\x7d']) := by
    simp [CommonSettings.jsonText, Value.text]
  rw [htext]
  exact hopened

/-! ## TOML -/

/-- A character between double quotes. -/
def tomlChar (c : Char) : List Char :=
  if c = '"' then ['\\', '"']
  else if c = '\\' then ['\\', '\\']
  else if Toml.isPlain c then [c]
  else ['\\', 'u', '0', '0', hexDigit (c.toNat / 16), hexDigit (c.toNat % 16)]

def tomlString (s : String) : List Char := '"' :: (s.toList.flatMap tomlChar ++ ['"'])

/-- The value of a setting. In a list a comma stands behind each item. -/
def Given.tomlText : Given → List Char
  | .text value => tomlString value
  | .number n => (toString n).toList
  | .texts items => '[' :: ((items.flatMap fun item => tomlString item ++ [',']) ++ [']'])

def tomlLine (entry : String × Given) : List Char :=
  entry.1.toList ++ ([' '] ++ '=' :: ([' '] ++ entry.2.tomlText))

def CommonSettings.tomlText (common : CommonSettings) : String :=
  String.ofList (common.entries.flatMap fun entry => tomlLine entry ++ ['\n'])

theorem lt_of_not_isPlain {c : Char} (h : ¬Toml.isPlain c = true) : c.toNat < 128 := by
  simp only [Toml.isPlain, Bool.or_eq_true, Bool.and_eq_true, decide_eq_true_eq, not_or, not_and,
    bne_iff_ne, ne_eq, Decidable.not_not] at h
  omega

theorem isCharText_tomlChar (c : Char) : Toml.IsCharText c (tomlChar c) := by
  unfold tomlChar
  split
  · rename_i hc
    subst hc
    exact .short (by decide)
  · rename_i hquote
    split
    · rename_i hc
      subst hc
      exact .short (by decide)
    · rename_i hslash
      split
      · rename_i hplain
        exact .plain hplain hquote hslash
      · rename_i hplain
        exact .unit (hexNumber?_control (lt_of_not_isPlain hplain))

theorem isStringText_tomlString (s : String) : Toml.IsStringText s (tomlString s) := by
  refine .basic ?_
  induction s.toList with
  | nil => exact .nil
  | cons c tail ih =>
      rw [List.flatMap_cons]
      exact .cons (isCharText_tomlChar c) ih

theorem isValueText_tomlText (given : Given) : Toml.IsValueText given.toml given.tomlText := by
  cases given with
  | text value => exact .scalar (.text (isStringText_tomlString value))
  | number n => exact .scalar (.integer n)
  | texts items =>
      refine .list ?_
      induction items with
      | nil => exact .close .nil
      | cons item items ih =>
          rw [List.map_cons, List.flatMap_cons, List.append_assoc, List.append_assoc,
            List.singleton_append]
          exact @Toml.IsItemsText.cons _ _ [] _ [] _ .nil
            (.text (isStringText_tomlString item)) .nil ih

theorem isFieldText_tomlLine {entry : String × Given} (h : entry.1 ∈ Settings.fieldNames) :
    Toml.IsFieldText (entry.1, entry.2.toml) (tomlLine entry) := by
  have hbare : ∀ name ∈ Settings.fieldNames,
      name.toList ≠ [] ∧ name.toList.all Toml.isBareKey = true := by
    decide
  obtain ⟨hsome, hall⟩ := hbare entry.1 h
  exact .mk (.bare hsome hall) (by decide) (by decide) (isValueText_tomlText entry.2)

/-- A line end in front of a document is filler. -/
theorem isText_lineEnd {fields : List (String × Toml.Value)} {text : List Char}
    (h : Toml.IsText fields text) : Toml.IsText fields ('\n' :: text) := by
  cases h with
  | nil hfiller => exact .nil (.blank (.inr rfl) hfiller)
  | comment hfiller hplain => exact .comment (.blank (.inr rfl) hfiller) hplain
  | cons hfiller hfield hrest hend => exact .cons (.blank (.inr rfl) hfiller) hfield hrest hend

theorem isText_tomlLines {entries : List (String × Given)}
    (h : ∀ entry ∈ entries, entry.1 ∈ Settings.fieldNames) :
    Toml.IsText (entries.map fun entry => (entry.1, entry.2.toml))
      (entries.flatMap fun entry => tomlLine entry ++ ['\n']) := by
  induction entries with
  | nil => exact .nil .nil
  | cons entry entries ih =>
      obtain ⟨hentry, hothers⟩ := List.forall_mem_cons.mp h
      rw [List.map_cons, List.flatMap_cons, List.append_assoc, List.singleton_append]
      refine @Toml.IsText.cons _ _ [] _ _ .nil (isFieldText_tomlLine hentry)
        (isText_lineEnd (ih hothers)) ⟨[], _, rfl, rfl, ?_⟩
      rintro _ ⟨⟩
      exact .inl rfl

theorem not_return_tomlChar (c : Char) : '\r' ∉ tomlChar c := by
  have hdigit : ∀ n < 16, '\r' ≠ hexDigit n := by decide
  unfold tomlChar
  split
  · decide
  · split
    · decide
    · split
      · rename_i hplain
        rw [List.mem_singleton]
        rintro rfl
        exact absurd hplain (by decide)
      · rename_i hplain
        have hsmall := lt_of_not_isPlain hplain
        simp only [List.mem_cons, List.not_mem_nil, or_false, not_or]
        exact ⟨by decide, by decide, by decide, by decide, hdigit _ (by omega), hdigit _ (by omega)⟩

theorem not_return_tomlString (s : String) : '\r' ∉ tomlString s := by
  simp only [tomlString, List.mem_cons, List.mem_append, List.mem_flatMap, List.not_mem_nil,
    or_false, not_or, not_exists, not_and]
  exact ⟨by decide, fun c _ => not_return_tomlChar c, by decide⟩

theorem not_return_tomlLine {entry : String × Given} (h : entry.1 ∈ Settings.fieldNames) :
    '\r' ∉ tomlLine entry := by
  have hname : ∀ name ∈ Settings.fieldNames, '\r' ∉ name.toList := by decide
  have hvalue : '\r' ∉ entry.2.tomlText := by
    cases entry.2 with
    | text value => exact not_return_tomlString value
    | number n => exact fun hmem => absurd (Text.isDigit_of_mem_toString hmem) (by decide)
    | texts items =>
        simp only [Given.tomlText, List.mem_cons, List.mem_append, List.mem_flatMap,
          List.not_mem_nil, or_false, not_or, not_exists, not_and]
        exact ⟨by decide, fun item _ => ⟨not_return_tomlString item, by decide⟩, by decide⟩
  simp only [tomlLine, List.mem_append, List.mem_cons, List.not_mem_nil, or_false, not_or]
  exact ⟨hname _ h, by decide, by decide, by decide, hvalue⟩

theorem CommonSettings.isTomlText_tomlText (common : CommonSettings) :
    common.IsTomlText common.tomlText := by
  have hnames : ∀ entry ∈ common.entries, entry.1 ∈ Settings.fieldNames := fun entry hentry =>
    common.mem_fieldNames (List.mem_map_of_mem hentry)
  refine ⟨common.entries, _, .refl _, isText_tomlLines hnames, ?_⟩
  rw [tomlText, String.toList_ofList]
  refine .refl ?_
  simp only [List.mem_flatMap, List.mem_append, List.mem_singleton, not_exists, not_and, not_or]
  exact fun entry hentry => ⟨not_return_tomlLine (hnames entry hentry), by decide⟩

/-! ## Variables -/

/-- The variables that give the settings. In the list of endpoints a comma stands behind each. -/
def CommonSettings.variables (common : CommonSettings) : List (String × Option String) :=
  [("GRAPHDB_ENDPOINTS",
      some (String.ofList (common.endpoints.flatMap fun endpoint => endpoint.toList ++ [',']))),
    ("GRAPHDB_USERNAME", common.username), ("GRAPHDB_PASSWORD", common.password),
    ("GRAPHDB_AUTH_MODE", common.authMode), ("GRAPHDB_RETRY_COUNT", common.retryCount.map toString),
    ("GRAPHDB_READ_TIMEOUT_MS", common.readTimeoutMs.map toString),
    ("GRAPHDB_WRITE_TIMEOUT_MS", common.writeTimeoutMs.map toString)]

def CommonSettings.environment (common : CommonSettings) : Environment :=
  { values := .ofList (presentEntries common.variables) }

theorem CommonSettings.get?_environment (common : CommonSettings) (name : String) :
    common.environment.values.get? name = (lookupEntry name common.variables).join := by
  have hnames : (common.variables.map Prod.fst).Nodup := by
    show ["GRAPHDB_ENDPOINTS", "GRAPHDB_USERNAME", "GRAPHDB_PASSWORD", "GRAPHDB_AUTH_MODE",
      "GRAPHDB_RETRY_COUNT", "GRAPHDB_READ_TIMEOUT_MS", "GRAPHDB_WRITE_TIMEOUT_MS"].Nodup
    decide
  rw [environment, NameMap.get?_ofList (hnames.sublist (names_presentEntries common.variables))]
  exact lookupEntry_presentEntries hnames

theorem isPadded_self (cs : List Char) : Text.IsPadded cs cs :=
  ⟨[], [], nofun, nofun, (List.append_nil cs).symm⟩

theorem isNumbered_toString (given : Option Nat) : IsNumbered given (given.map toString) := by
  cases given with
  | none => exact .none
  | some n => exact .some (isPadded_self _)

theorem CommonSettings.gives_variables (common : CommonSettings) :
    common.environment.Gives common := by
  have hlisted : IsListed common.endpoints
      (common.endpoints.flatMap fun endpoint => endpoint.toList ++ [',']) := by
    induction common.endpoints with
    | nil => exact .nil nofun
    | cons endpoint endpoints ih =>
        rw [List.flatMap_cons, List.append_assoc, List.singleton_append]
        exact .cons (isPadded_self _) ih
  refine ⟨⟨_, common.get?_environment "GRAPHDB_ENDPOINTS", ?_⟩,
    common.get?_environment "GRAPHDB_USERNAME", common.get?_environment "GRAPHDB_PASSWORD",
    common.get?_environment "GRAPHDB_AUTH_MODE", ?_, ?_, ?_⟩
  · rw [String.toList_ofList]
    exact hlisted
  · rw [common.get?_environment "GRAPHDB_RETRY_COUNT"]
    exact isNumbered_toString common.retryCount
  · rw [common.get?_environment "GRAPHDB_READ_TIMEOUT_MS"]
    exact isNumbered_toString common.readTimeoutMs
  · rw [common.get?_environment "GRAPHDB_WRITE_TIMEOUT_MS"]
    exact isNumbered_toString common.writeTimeoutMs

end Quadlink
