import Quadlink.Http.Payload
import Quadlink.Proofs.Http.Lookup

/-!
# Parameters as pairs

The pairs of some parameters are what a request shows of them. The pairs of one name are the values
of that parameter (`Params.filter_pairs_eq`), and setting a parameter leaves the pairs of all other
names alone (`Params.filter_pairs_set`).

Fields that are set one after the other come back as pairs, in whatever order, exactly if no name
occurs twice (`Params.pairs_setAll_perm_iff`). In the form of a query only bindings can do that
(`Query.nodup_form_iff`).
-/

namespace Quadlink

/-! ## Entries as pairs -/

def pairsOf (entries : List (String × ParamValue)) : List (String × String) :=
  entries.flatMap fun entry => entry.2.toList.map fun value => (entry.1, value)

variable {name : String} {entries rest : List (String × ParamValue)}

theorem pairsOf_cons (entry : String × ParamValue) (rest : List (String × ParamValue)) :
    pairsOf (entry :: rest) = (entry.2.toList.map fun value => (entry.1, value)) ++ pairsOf rest :=
  List.flatMap_cons

theorem exists_of_mem_pairsOf {pair : String × String} (h : pair ∈ pairsOf entries) :
    ∃ entry ∈ entries, entry.1 = pair.1 := by
  obtain ⟨entry, hentry, hpair⟩ := List.mem_flatMap.mp h
  obtain ⟨value, -, rfl⟩ := List.mem_map.mp hpair
  exact ⟨entry, hentry, rfl⟩

/-- The pairs of one name among those of sorted entries are the values of that name. -/
theorem filter_pairsOf_eq (hsorted : entries.Pairwise fun a b => a.1 < b.1) :
    (pairsOf entries).filter (fun pair => pair.1 == name)
      = (((lookupEntry name entries).map ParamValue.toList).getD []).map (name, ·) := by
  induction entries with
  | nil => rfl
  | cons entry rest ih =>
      obtain ⟨key, value⟩ := entry
      obtain ⟨habove, hrest⟩ := List.pairwise_cons.mp hsorted
      rw [pairsOf_cons, List.filter_append, ih hrest, lookupEntry]
      by_cases hname : name = key
      · subst hname
        have hself : ∀ values : List String,
            (values.map fun text => (name, text)).filter (fun pair => pair.1 == name)
              = values.map (name, ·) := fun values => by simp [List.filter_eq_self]
        rw [hself, lookupEntry_eq_none_of_lt habove (String.le_refl _)]
        simp
      · have hnone : ∀ values : List String,
            (values.map fun text => (key, text)).filter (fun pair => pair.1 == name) = [] :=
          fun values => by simp [Ne.symm hname]
        rw [hnone, if_neg hname, List.nil_append]

/-- Putting a value under a name leaves the pairs of all other names alone. -/
theorem filter_pairsOf_insertEntry (value : ParamValue) :
    (pairsOf (insertEntry name value entries)).filter (fun pair => pair.1 != name)
      = (pairsOf entries).filter (fun pair => pair.1 != name) := by
  have hown : ∀ value : ParamValue,
      (value.toList.map fun text => (name, text)).filter (fun pair => pair.1 != name) = [] :=
    fun value => by simp
  induction entries with
  | nil => rw [insertEntry, pairsOf_cons, List.filter_append, hown, List.nil_append]
  | cons entry rest ih =>
      obtain ⟨key, old⟩ := entry
      rw [insertEntry]
      split
      · rename_i hname
        subst hname
        simp only [pairsOf_cons, List.filter_append, hown]
      · split
        · rw [pairsOf_cons (name, value), List.filter_append, hown, List.nil_append]
        · simp only [pairsOf_cons, List.filter_append, ih]

theorem pairsOf_insertEntry_perm (value : String) (h : lookupEntry name entries = none) :
    (pairsOf (insertEntry name (.single value) entries)).Perm
      ((name, value) :: pairsOf entries) := by
  induction entries with
  | nil => exact .refl _
  | cons entry rest ih =>
      obtain ⟨key, old⟩ := entry
      have hnew := lookupEntry_eq_none_iff.mp h
      rw [insertEntry, if_neg (Ne.symm (hnew _ List.mem_cons_self))]
      split
      · exact .refl _
      · have hrest := ih (lookupEntry_eq_none_iff.mpr fun entry hentry =>
          hnew entry (List.mem_cons_of_mem _ hentry))
        rw [pairsOf_cons, pairsOf_cons]
        exact (hrest.append_left _).trans List.perm_middle

namespace Params

variable {params : Params} {fields : List (String × String)}

theorem filter_pairs_eq (params : Params) (name : String) :
    params.pairs.filter (fun pair => pair.1 == name)
      = (((params.get? name).map ParamValue.toList).getD []).map (name, ·) :=
  filter_pairsOf_eq params.map.sorted

theorem filter_pairs_set (params : Params) (name value : String) :
    (params.set name value).pairs.filter (fun pair => pair.1 != name)
      = params.pairs.filter (fun pair => pair.1 != name) :=
  filter_pairsOf_insertEntry _

theorem filter_pairs_of_get?_eq_none (h : params.get? name = none) :
    params.pairs.filter (fun pair => pair.1 != name) = params.pairs := by
  refine List.filter_eq_self.mpr fun pair hpair => ?_
  obtain ⟨entry, hentry, hname⟩ := exists_of_mem_pairsOf hpair
  have hother := lookupEntry_eq_none_iff.mp h entry hentry
  rw [hname] at hother
  simpa using hother

theorem filter_pairs_set_of_new (h : params.get? name = none) (value : String) :
    (params.set name value).pairs.filter (fun pair => pair.1 != name) = params.pairs := by
  rw [filter_pairs_set, filter_pairs_of_get?_eq_none h]

theorem filter_pairs_set_self (params : Params) (name value : String) :
    (params.set name value).pairs.filter (fun pair => pair.1 == name) = [(name, value)] := by
  rw [filter_pairs_eq, get?_set, if_pos rfl]
  rfl

/-! ## Fields as parameters -/

theorem get?_setAll_of_notMem (h : ∀ field ∈ fields, field.1 ≠ name) :
    (params.setAll fields).get? name = params.get? name := by
  induction fields generalizing params with
  | nil => rfl
  | cons field rest ih =>
      obtain ⟨hfield, hrest⟩ := List.forall_mem_cons.mp h
      show ((params.set field.1 field.2).setAll rest).get? name = _
      rw [ih hrest, get?_set, if_neg (Ne.symm hfield)]

/-- Fields under names of their own are so many more pairs. -/
theorem pairs_setAll_perm (hnodup : (fields.map Prod.fst).Nodup)
    (hnew : ∀ field ∈ fields, params.get? field.1 = none) :
    (params.setAll fields).pairs.Perm (params.pairs ++ fields) := by
  induction fields generalizing params with
  | nil =>
      rw [List.append_nil]
      exact .refl _
  | cons field rest ih =>
      obtain ⟨hother, hnodup⟩ := List.nodup_cons.mp hnodup
      obtain ⟨hfield, hrest⟩ := List.forall_mem_cons.mp hnew
      have hstill : ∀ other ∈ rest, (params.set field.1 field.2).get? other.1 = none := by
        intro other hmem
        have hne : other.1 ≠ field.1 := fun heq => hother (heq ▸ List.mem_map_of_mem hmem)
        rw [get?_set, if_neg hne]
        exact hrest other hmem
      show ((params.set field.1 field.2).setAll rest).pairs.Perm _
      refine (ih hnodup hstill).trans ?_
      exact ((pairsOf_insertEntry_perm field.2 hfield).append_right rest).trans
        List.perm_middle.symm

/-- No parameter has a list of values. -/
def AreSingle (params : Params) : Prop :=
  ∀ entry ∈ params.map.entries, ∃ value, entry.2 = .single value

theorem AreSingle.setAll (h : params.AreSingle) (fields : List (String × String)) :
    (params.setAll fields).AreSingle := by
  induction fields generalizing params with
  | nil => exact h
  | cons field rest ih =>
      show ((params.set field.1 field.2).setAll rest).AreSingle
      refine ih fun entry hentry => ?_
      rcases mem_insertEntry hentry with rfl | hmem
      · exact ⟨_, rfl⟩
      · exact h entry hmem

/-- The names of the pairs of entries with one value each are the names of the entries. -/
theorem names_pairsOf (h : ∀ entry ∈ entries, ∃ value, entry.2 = .single value) :
    (pairsOf entries).map Prod.fst = entries.map Prod.fst := by
  induction entries with
  | nil => rfl
  | cons entry rest ih =>
      obtain ⟨⟨value, hvalue⟩, hrest⟩ := List.forall_mem_cons.mp h
      rw [pairsOf_cons, List.map_append, ih hrest, hvalue]
      rfl

/-- Parameters with one value each have pairs in the strict order of their names. -/
theorem AreSingle.sorted_pairs (h : params.AreSingle) :
    params.pairs.Pairwise fun a b => a.1 < b.1 := by
  have hnames : params.pairs.map Prod.fst = params.map.entries.map Prod.fst := names_pairsOf h
  have hsorted : (params.map.entries.map Prod.fst).Pairwise (· < ·) :=
    List.pairwise_map.mpr params.map.sorted
  rw [← hnames] at hsorted
  exact List.pairwise_map.mp hsorted

theorem AreSingle.nodup_names (h : params.AreSingle) : (params.pairs.map Prod.fst).Nodup :=
  List.pairwise_map.mpr (h.sorted_pairs.imp String.ne_of_lt)

theorem areSingle_empty : empty.AreSingle := fun _ hentry => nomatch hentry

/-- Fields come back as the pairs of parameters exactly if no name occurs twice. -/
theorem pairs_setAll_perm_iff :
    (Params.empty.setAll fields).pairs.Perm fields ↔ (fields.map Prod.fst).Nodup := by
  constructor
  · intro hperm
    exact (hperm.map Prod.fst).nodup_iff.mp (areSingle_empty.setAll fields).nodup_names
  · intro hnodup
    exact pairs_setAll_perm hnodup fun _ _ => rfl

/-- Fields come back as pairs in the order of their names. -/
theorem pairs_setAll_eq {sorted : List (String × String)} (hperm : sorted.Perm fields)
    (hsorted : sorted.Pairwise fun a b => a.1 < b.1) :
    (Params.empty.setAll fields).pairs = sorted := by
  have hnames : (sorted.map Prod.fst).Nodup :=
    List.pairwise_map.mpr (hsorted.imp String.ne_of_lt)
  have hpairs : (Params.empty.setAll fields).pairs.Perm sorted :=
    (pairs_setAll_perm_iff.mpr ((hperm.map Prod.fst).nodup_iff.mp hnames)).trans hperm.symm
  refine hpairs.eq_of_pairwise ?_ (areSingle_empty.setAll fields).sorted_pairs hsorted
  exact fun _ _ _ _ hlt hgt => absurd hlt (String.lt_asymm hgt)

/-- A list of one value says the same as the value. -/
theorem pairs_setRepeated_singleton (params : Params) (name value : String) :
    (params.setRepeated name [value]).pairs = (params.set name value).pairs := by
  show pairsOf (insertEntry name (.repeated [value]) params.map.entries)
    = pairsOf (insertEntry name (.single value) params.map.entries)
  induction params.map.entries with
  | nil => rfl
  | cons entry rest ih =>
      obtain ⟨key, old⟩ := entry
      rw [insertEntry, insertEntry]
      split
      · rfl
      · split
        · rfl
        · rw [pairsOf_cons, pairsOf_cons, ih]

end Params

/-! ## Fields of patterns, queries and updates -/

theorem optional_names (name : String) (value : Option String) :
    ((optional name value).map Prod.fst).Sublist [name] := by
  cases value with
  | none => exact List.nil_sublist _
  | some text => exact .refl _

def StatementPattern.fieldNames : List String :=
  [ParamName.subject, ParamName.predicate, ParamName.object, ParamName.infer]

theorem StatementPattern.params_names (pattern : StatementPattern) :
    (pattern.params.map Prod.fst).Sublist fieldNames := by
  simp only [params, List.map_append]
  exact (((optional_names _ _).append (optional_names _ _)).append
    (optional_names _ _)).append (optional_names _ _)

def Query.fieldNames : List String :=
  [ParamName.query, ParamName.infer, ParamName.timeout, ParamName.distinct, ParamName.limit,
    ParamName.offset]

def Update.fieldNames : List String :=
  [ParamName.update, ParamName.infer, ParamName.timeout, ParamName.baseIri]

theorem Query.form_names (query : Query) :
    ∃ fixed, query.form.map Prod.fst = fixed ++ query.bindings.map (fun binding => "$" ++ binding.1)
      ∧ fixed.Sublist fieldNames := by
  refine ⟨ParamName.query :: (optional ParamName.infer (query.infer.map boolText) ++
      optional ParamName.timeout (query.timeout.map toString) ++
      optional ParamName.distinct (query.distinct.map boolText) ++
      optional ParamName.limit (query.limit.map toString) ++
      optional ParamName.offset (query.offset.map toString)).map Prod.fst, ?_, ?_⟩
  · simp [form, Function.comp_def]
  · simp only [List.map_append]
    exact ((((((optional_names _ _).append (optional_names _ _)).append
      (optional_names _ _)).append (optional_names _ _)).append
      (optional_names _ _)).cons_cons ParamName.query)

theorem Update.form_names (update : Update) :
    (update.form.map Prod.fst).Sublist fieldNames := by
  simp only [form, List.map_cons, List.map_append]
  exact (((optional_names _ _).append (optional_names _ _)).append
    (optional_names _ _)).cons_cons ParamName.update

theorem dollar_append_inj {left right : String} (h : "$" ++ left = "$" ++ right) :
    left = right := by
  rw [← String.toList_inj] at h ⊢
  simpa using h

/-- A binding has a name of its own, which no other field has. -/
theorem Query.ne_dollar_of_mem {name binding : String} (h : name ∈ fieldNames) :
    name ≠ "$" ++ binding := by
  have hhead : ∀ name ∈ fieldNames, name.toList.head? ≠ some '$' := by decide
  rintro rfl
  exact hhead _ h (by simp)

/-- A name occurs twice in the form of a query only as the name of two bindings. -/
theorem Query.nodup_form_iff (query : Query) :
    (query.form.map Prod.fst).Nodup ↔ (query.bindings.map Prod.fst).Nodup := by
  obtain ⟨fixed, hnames, hfixed⟩ := query.form_names
  have hbindings : (query.bindings.map fun binding => "$" ++ binding.1).Nodup
      ↔ (query.bindings.map Prod.fst).Nodup := by
    simp only [List.Nodup, List.pairwise_map]
    constructor
    · exact List.Pairwise.imp fun hne heq => hne (congrArg _ heq)
    · exact List.Pairwise.imp fun hne heq => hne (dollar_append_inj heq)
  rw [hnames, List.nodup_append, hbindings]
  refine ⟨fun h => h.2.1, fun h => ⟨hfixed.nodup (by decide), h, ?_⟩⟩
  intro name hname other hother
  obtain ⟨binding, -, rfl⟩ := List.mem_map.mp hother
  exact Query.ne_dollar_of_mem (hfixed.subset hname)

theorem Update.nodup_form (update : Update) : (update.form.map Prod.fst).Nodup :=
  update.form_names.nodup (by decide)

theorem Query.ne_action_of_mem_form {query : Query} :
    ∀ field ∈ query.form, field.1 ≠ ParamName.action := by
  intro field hfield
  obtain ⟨fixed, hnames, hfixed⟩ := query.form_names
  have hmem : field.1 ∈ query.form.map Prod.fst := List.mem_map_of_mem hfield
  rw [hnames] at hmem
  rcases List.mem_append.mp hmem with hname | hname
  · have hother : ∀ name ∈ fieldNames, name ≠ ParamName.action := by decide
    exact hother _ (hfixed.subset hname)
  · obtain ⟨binding, -, hbinding⟩ := List.mem_map.mp hname
    rw [← hbinding]
    intro heq
    have hhead := congrArg (fun name => name.toList.head?) heq
    simp [ParamName.action] at hhead

theorem Update.ne_action_of_mem_form {update : Update} :
    ∀ field ∈ update.form, field.1 ≠ ParamName.action := by
  have hother : ∀ name ∈ fieldNames, name ≠ ParamName.action := by decide
  exact fun field hfield => hother _ (update.form_names.subset (List.mem_map_of_mem hfield))

end Quadlink
