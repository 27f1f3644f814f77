import Quadlink.Proofs.Histories
import Quadlink.Proofs.Http.Pairs
import Quadlink.Proofs.Text.Order

/-!
# Headers and parameters as maps

What headers and parameters hold after any changes. Headers have the last value of each name,
whatever its case (`Headers.Reflects`), and parameters the values of the last assignment that gave
any (`Params.Reflects`); both list them in the order of the encoded names.

One change keeps up what a history says of a map (`Headers.Holds.insert`, `Params.Holds.assign`), and
so do all changes of the history. Default headers fill what is missing and can be added before the
others or after them.
-/

namespace Quadlink

/-- The order of names in a map is the order of their encodings. -/
theorem NameMap.sorted_encodings {β : Type} (map : NameMap β) :
    map.entries.Pairwise fun a b => Text.encode a.1 < Text.encode b.1 :=
  map.sorted.imp Text.encode_lt_encode

theorem NameMap.mem_entries_iff {β : Type} {map : NameMap β} {name : String} {value : β} :
    (name, value) ∈ map.entries ↔ map.get? name = some value :=
  ⟨lookupEntry_of_mem map.nodup_names, mem_of_lookupEntry⟩

/-! ## Headers -/

namespace Headers

variable {headers : Headers} {history : List (String × String)} {name value : String}

/-- The names are the same but for the case of their letters. -/
def IsNamed (name : String) (pair : String × String) : Prop := Text.lower pair.1 = Text.lower name

/-- What headers show is what a history of insertions says: under each name the value of the last
one, whatever the case of its name. The entries are the names in lower case, each once, in the order
of their encodings. -/
structure Reflects (headers : Headers) (history : List (String × String)) : Prop where
  found : ∀ name value, headers.get? name = some value ↔
    ∃ other, IsLast (IsNamed name) history (other, value)
  missing : ∀ name, headers.get? name = none ↔ ∀ pair ∈ history, ¬ IsNamed name pair
  entries : ∀ name value, (name, value) ∈ headers.toList ↔
    Text.lower name = name ∧ ∃ other, IsLast (IsNamed name) history (other, value)
  names : ∀ name, name ∈ headers.toList.map Prod.fst ↔ ∃ pair ∈ history, Text.lower pair.1 = name
  sorted : headers.toList.Pairwise fun a b => Text.encode a.1 < Text.encode b.1

def Holds (headers : Headers) (history : List (String × String)) : Prop :=
  ∀ name value, headers.get? name = some value ↔
    ∃ other, IsLast (IsNamed name) history (other, value)

theorem empty_holds : empty.Holds [] := by
  intro name value
  refine ⟨nofun, ?_⟩
  rintro ⟨other, earlier, later, hnil, -⟩
  simp at hnil

/-- An insertion is one more element of the history. -/
theorem Holds.insert (h : headers.Holds history) (pair : String × String) :
    (headers.insert pair.1 pair.2).Holds (history ++ [pair]) := by
  intro name value
  obtain ⟨key, given⟩ := pair
  rw [get?_insert]
  by_cases hname : IsNamed name (key, given)
  · rw [if_pos (Eq.symm hname)]
    simp only [isLast_concat_of hname, Prod.mk.injEq, exists_and_right, exists_eq, true_and]
    exact ⟨fun heq => (Option.some.inj heq).symm, fun heq => congrArg some heq.symm⟩
  · rw [if_neg (Ne.symm hname), h name value]
    simp only [isLast_concat_of_not hname]

theorem ofList_holds (history : List (String × String)) : (ofList history).Holds history :=
  foldl_history (R := Holds) (fun _ _ pair h => h.insert pair) empty_holds history

theorem get?_eq_some_iff_mem (hlower : Text.lower name = name) :
    headers.get? name = some value ↔ (name, value) ∈ headers.toList := by
  rw [get?, hlower]
  exact NameMap.mem_entries_iff.symm

theorem lower_of_mem (h : (name, value) ∈ headers.toList) : Text.lower name = name :=
  headers.lower (name, value) h

theorem mem_toList_iff :
    (name, value) ∈ headers.toList ↔ Text.lower name = name ∧ headers.get? name = some value := by
  constructor
  · intro hmem
    have hlower := lower_of_mem hmem
    exact ⟨hlower, (get?_eq_some_iff_mem hlower).mpr hmem⟩
  · rintro ⟨hlower, hvalue⟩
    exact (get?_eq_some_iff_mem hlower).mp hvalue

theorem Holds.exists_iff (h : headers.Holds history) (name : String) :
    (∃ value, headers.get? name = some value) ↔ ∃ pair ∈ history, IsNamed name pair := by
  rw [← exists_isLast_iff, Prod.exists, exists_comm]
  exact exists_congr (h name)

theorem Holds.mem_names_iff (h : headers.Holds history) (name : String) :
    name ∈ headers.toList.map Prod.fst ↔ ∃ pair ∈ history, Text.lower pair.1 = name := by
  constructor
  · intro hmem
    obtain ⟨⟨_, value⟩, hentry, rfl⟩ := List.mem_map.mp hmem
    obtain ⟨hlower, hvalue⟩ := mem_toList_iff.mp hentry
    obtain ⟨pair, hpair, hnamed⟩ := (h.exists_iff _).mp ⟨value, hvalue⟩
    exact ⟨pair, hpair, hnamed.trans hlower⟩
  · rintro ⟨pair, hpair, rfl⟩
    have hlower := Text.lower_lower pair.1
    obtain ⟨value, hvalue⟩ := (h.exists_iff (Text.lower pair.1)).mpr ⟨pair, hpair, hlower.symm⟩
    exact List.mem_map.mpr ⟨(_, value), mem_toList_iff.mpr ⟨hlower, hvalue⟩, rfl⟩

theorem Holds.reflects (h : headers.Holds history) : headers.Reflects history where
  found := h
  missing := by
    intro name
    rw [← Option.not_isSome_iff_eq_none, Option.isSome_iff_exists, h.exists_iff]
    simp
  entries := by
    intro name value
    rw [mem_toList_iff, h]
  names := h.mem_names_iff
  sorted := headers.map.sorted_encodings

theorem withDefaults_withDefaults (headers defaults : Headers) :
    (headers.withDefaults defaults).withDefaults defaults = headers.withDefaults defaults := by
  refine ext_get? fun name => ?_
  rw [get?_withDefaults, get?_withDefaults, Option.or_assoc, Option.or_self]

end Headers

/-! ## Parameters -/

namespace Params

variable {params : Params} {history : List (String × ParamValue)} {name : String}
  {value : ParamValue}

/-- Set a parameter to one value or to a list of values. An empty list changes nothing, as there is
no way to write it in a URL. -/
def assign (params : Params) (assignment : String × ParamValue) : Params :=
  match assignment.2 with
  | .single value => params.set assignment.1 value
  | .repeated values => params.setRepeated assignment.1 values

def assignAll (params : Params) (history : List (String × ParamValue)) : Params :=
  history.foldl assign params

/-- The assignment gives the parameter a value. One of an empty list does not, and is passed over.
-/
def Gives (name : String) (assignment : String × ParamValue) : Prop :=
  assignment.1 = name ∧ assignment.2.toList ≠ []

/-- What parameters show is what a history of assignments says: of each the values of the last
assignment that gave any, listed in the order of the encoded names. -/
structure Reflects (params : Params) (history : List (String × ParamValue)) : Prop where
  found : ∀ name value, params.get? name = some value ↔ IsLast (Gives name) history (name, value)
  first : ∀ name text, params.first? name = some text ↔
    ∃ value more, IsLast (Gives name) history (name, value) ∧ value.toList = text :: more
  missing : ∀ name, params.first? name = none ↔ ∀ assignment ∈ history, ¬ Gives name assignment
  pairs : ∃ groups, params.pairs = pairsOf groups
    ∧ groups.Pairwise (fun a b => Text.encode a.1 < Text.encode b.1)
    ∧ ∀ name value, (name, value) ∈ groups ↔ IsLast (Gives name) history (name, value)

def Holds (params : Params) (history : List (String × ParamValue)) : Prop :=
  ∀ name value, params.get? name = some value ↔ IsLast (Gives name) history (name, value)

theorem empty_holds : empty.Holds [] := by
  intro name value
  refine ⟨nofun, ?_⟩
  rintro ⟨earlier, later, hnil, -⟩
  simp at hnil

theorem assign_of_ne_nil (params : Params) (name : String) (h : value.toList ≠ []) :
    params.assign (name, value) = ⟨params.map.insert name value⟩ := by
  cases value with
  | single text => rfl
  | repeated texts =>
      have hne : texts ≠ [] := h
      exact if_neg (by simpa using hne)

theorem assign_of_eq_nil (params : Params) (name : String) (h : value.toList = []) :
    params.assign (name, value) = params := by
  cases value with
  | single text => cases h
  | repeated texts =>
      obtain rfl : texts = [] := h
      rfl

/-- An assignment is one more element of the history. -/
theorem Holds.assign (h : params.Holds history) (assignment : String × ParamValue) :
    (params.assign assignment).Holds (history ++ [assignment]) := by
  intro name value
  obtain ⟨key, given⟩ := assignment
  by_cases hgiven : given.toList = []
  · rw [assign_of_eq_nil _ _ hgiven, h name value, isLast_concat_of_not fun hgives => hgives.2 hgiven]
  · rw [assign_of_ne_nil _ _ hgiven, get?, NameMap.get?_insert]
    by_cases hname : key = name
    · rw [if_pos hname.symm, isLast_concat_of ⟨hname, hgiven⟩, Prod.mk.injEq]
      exact ⟨fun heq => ⟨hname.symm, (Option.some.inj heq).symm⟩, fun heq => congrArg some heq.2.symm⟩
    · rw [if_neg (Ne.symm hname), isLast_concat_of_not fun hgives => hname hgives.1]
      exact h name value

theorem assignAll_holds (history : List (String × ParamValue)) :
    (empty.assignAll history).Holds history :=
  foldl_history (R := Holds) (fun _ _ assignment h => h.assign assignment) empty_holds history

theorem Holds.first_iff (h : params.Holds history) (name text : String) :
    params.first? name = some text ↔
      ∃ value more, IsLast (Gives name) history (name, value) ∧ value.toList = text :: more := by
  rw [first?, Option.bind_eq_some_iff]
  refine exists_congr fun value => ?_
  rw [h, exists_and_left, List.head?_eq_some_iff]

theorem Holds.missing_iff (h : params.Holds history) (name : String) :
    params.first? name = none ↔ ∀ assignment ∈ history, ¬ Gives name assignment := by
  have hfirst : (∃ text, params.first? name = some text)
      ↔ ∃ assignment ∈ history, Gives name assignment := by
    rw [← exists_isLast_iff]
    constructor
    · rintro ⟨text, htext⟩
      obtain ⟨value, -, hlast, -⟩ := (h.first_iff name text).mp htext
      exact ⟨_, hlast⟩
    · rintro ⟨⟨key, value⟩, hlast⟩
      obtain ⟨-, -, -, ⟨rfl, hne⟩, -⟩ := id hlast
      obtain ⟨text, more, hvalue⟩ := List.exists_cons_of_ne_nil hne
      exact ⟨text, (h.first_iff key text).mpr ⟨value, more, hlast, hvalue⟩⟩
  rw [← Option.not_isSome_iff_eq_none, Option.isSome_iff_exists, hfirst]
  simp

theorem Holds.reflects (h : params.Holds history) : params.Reflects history where
  found := h
  first := h.first_iff
  missing := h.missing_iff
  pairs := ⟨params.map.entries, rfl, params.map.sorted_encodings,
    fun name value => NameMap.mem_entries_iff.trans (h name value)⟩

end Params

/-! ## Laws -/

/-- Headers and parameters are maps. After any insertions a header has the value of the last one
under its name, in whatever case. Default headers leave the headers of a request as they are and add
all others; adding them twice is adding them once, and they can be added before a header is set or
after it. After any assignments a parameter has the values of the last one that gave it any. -/
theorem assignments_make_maps (insertions : List (String × String))
    (assignments : List (String × ParamValue)) :
    (Headers.ofList insertions).Reflects insertions
      ∧ (∀ (request : Request) (defaults : Headers),
        (∀ name value, request.headers.get? name = some value →
            (request.withDefaultHeaders defaults).headers.get? name = some value)
          ∧ (∀ name, request.headers.get? name = none →
            (request.withDefaultHeaders defaults).headers.get? name = defaults.get? name)
          ∧ (request.withDefaultHeaders defaults).withDefaultHeaders defaults
            = request.withDefaultHeaders defaults
          ∧ ∀ name value, (request.withHeader name value).withDefaultHeaders defaults
            = (request.withDefaultHeaders defaults).withHeader name value)
      ∧ (Params.empty.assignAll assignments).Reflects assignments := by
  refine ⟨(Headers.ofList_holds insertions).reflects, fun request defaults => ⟨?_, ?_, ?_, ?_⟩,
    (Params.assignAll_holds assignments).reflects⟩
  · intro name value h
    rw [Request.withDefaultHeaders, Headers.get?_withDefaults, h, Option.some_or]
  · intro name h
    rw [Request.withDefaultHeaders, Headers.get?_withDefaults, h, Option.none_or]
  · exact congrArg (fun headers => { request with headers })
      (request.headers.withDefaults_withDefaults defaults)
  · intro name value
    exact congrArg (fun headers => { request with headers })
      (request.headers.withDefaults_insert defaults name value)

example :
    (Params.empty.assignAll
        [("b", .single "1"), ("a", .repeated ["2", "3"]), ("b", .repeated [])]).pairs
      = [("a", "2"), ("a", "3"), ("b", "1")] := by decide

end Quadlink
