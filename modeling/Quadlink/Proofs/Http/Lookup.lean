import Mathlib.Data.List.Forall2
import Quadlink.Http.Request

/-!
# Look-ups

What a map of names, the headers and the parameters of a request answer after a change. Look-ups
see the last value of a name, and default headers only where there is no other value. What a map
answers is all there is to it (`NameMap.ext_get?`, `Headers.ext_get?`).
-/

namespace Quadlink

/-! ## Maps of names -/

theorem lookupEntry_insertEntry {β : Type} (name other : String) (value : β)
    (entries : List (String × β)) :
    lookupEntry other (insertEntry name value entries)
      = if other = name then some value else lookupEntry other entries := by
  induction entries with
  | nil => simp only [insertEntry, lookupEntry]
  | cons head rest ih =>
      obtain ⟨key, old⟩ := head
      simp only [insertEntry]
      by_cases hkey : name = key
      · subst hkey
        rw [if_pos rfl]
        simp only [lookupEntry]
        split <;> rfl
      · rw [if_neg hkey]
        split
        · simp only [lookupEntry]
        · simp only [lookupEntry, ih]
          by_cases hother : other = key
          · subst hother
            rw [if_pos rfl, if_neg (Ne.symm hkey), if_pos rfl]
          · rw [if_neg hother, if_neg hother]

@[simp] theorem NameMap.get?_insert {β : Type} (map : NameMap β) (name other : String)
    (value : β) :
    (map.insert name value).get? other = if other = name then some value else map.get? other :=
  lookupEntry_insertEntry name other value map.entries

theorem lookupEntry_eq_none_iff {β : Type} {name : String} {entries : List (String × β)} :
    lookupEntry name entries = none ↔ ∀ entry ∈ entries, entry.1 ≠ name := by
  induction entries with
  | nil => simp [lookupEntry]
  | cons head rest ih =>
      obtain ⟨key, value⟩ := head
      simp only [lookupEntry]
      by_cases hname : name = key
      · simp [hname]
      · simp [hname, ih, Ne.symm hname]

/-- Names behind the first of sorted entries are other names. -/
theorem lookupEntry_eq_none_of_lt {β : Type} {name other : String} {entries : List (String × β)}
    (h : ∀ entry ∈ entries, other < entry.1) (hle : name ≤ other) :
    lookupEntry name entries = none := by
  refine lookupEntry_eq_none_iff.mpr fun entry hentry heq => ?_
  exact absurd hle (String.not_le.mpr (heq ▸ h entry hentry))

/-- Sorted entries are determined by what they answer. -/
theorem eq_of_lookupEntry_eq {β : Type} {left right : List (String × β)}
    (hleft : left.Pairwise fun a b => a.1 < b.1) (hright : right.Pairwise fun a b => a.1 < b.1)
    (h : ∀ name, lookupEntry name left = lookupEntry name right) : left = right := by
  induction left generalizing right with
  | nil =>
      cases right with
      | nil => rfl
      | cons head rest => simpa [lookupEntry] using h head.1
  | cons first rest ih =>
      cases right with
      | nil => simpa [lookupEntry] using h first.1
      | cons other others =>
          obtain ⟨key, value⟩ := first
          obtain ⟨key', value'⟩ := other
          obtain ⟨habove, hrest⟩ := List.pairwise_cons.mp hleft
          obtain ⟨habove', hothers⟩ := List.pairwise_cons.mp hright
          -- Were the first names different, the smaller one would be missing on the other side.
          have hkey : key = key' := by
            refine String.le_antisymm (String.not_lt.mp fun hlt => ?_)
              (String.not_lt.mp fun hlt => ?_)
            · have hhere := h key'
              simp only [lookupEntry, if_neg (String.ne_of_lt hlt), if_true,
                lookupEntry_eq_none_of_lt habove (String.not_lt.mp (String.lt_asymm hlt))] at hhere
              cases hhere
            · have hhere := h key
              simp only [lookupEntry, if_neg (String.ne_of_lt hlt), if_true,
                lookupEntry_eq_none_of_lt habove' (String.not_lt.mp (String.lt_asymm hlt))] at hhere
              cases hhere
          subst hkey
          obtain rfl : value = value' := by simpa [lookupEntry] using h key
          refine congrArg _ (ih hrest hothers fun name => ?_)
          by_cases hname : name = key
          · subst hname
            rw [lookupEntry_eq_none_of_lt habove (String.le_refl _),
              lookupEntry_eq_none_of_lt habove' (String.le_refl _)]
          · simpa [lookupEntry, hname] using h name

theorem NameMap.ext_get? {β : Type} {left right : NameMap β}
    (h : ∀ name, left.get? name = right.get? name) : left = right :=
  NameMap.ext (eq_of_lookupEntry_eq left.sorted right.sorted h)

/-! ## Entries in any order -/

section Entries

variable {β γ : Type} {name : String} {value : β} {entries others : List (String × β)}

theorem mem_of_lookupEntry (h : lookupEntry name entries = some value) : (name, value) ∈ entries := by
  induction entries with
  | nil => cases h
  | cons head rest ih =>
      obtain ⟨key, first⟩ := head
      rw [lookupEntry] at h
      split at h
      · rename_i hname
        cases h
        rw [hname]
        exact List.mem_cons_self
      · exact List.mem_cons_of_mem _ (ih h)

theorem lookupEntry_of_mem (hnames : (entries.map Prod.fst).Nodup) (h : (name, value) ∈ entries) :
    lookupEntry name entries = some value := by
  induction entries with
  | nil => cases h
  | cons head rest ih =>
      obtain ⟨key, first⟩ := head
      rw [List.map_cons, List.nodup_cons] at hnames
      rw [lookupEntry]
      rcases List.mem_cons.mp h with heq | hrest
      · cases heq
        exact if_pos rfl
      · rw [if_neg, ih hnames.2 hrest]
        rintro rfl
        exact hnames.1 (List.mem_map.mpr ⟨_, hrest, rfl⟩)

/-- Where each name stands once, the order does not matter. -/
theorem lookupEntry_perm (hnames : (entries.map Prod.fst).Nodup) (h : others.Perm entries) :
    lookupEntry name others = lookupEntry name entries := by
  have hnames' : (others.map Prod.fst).Nodup := (h.map Prod.fst).nodup_iff.mpr hnames
  ext value
  exact ⟨fun hv => lookupEntry_of_mem hnames (h.mem_iff.mp (mem_of_lookupEntry hv)),
    fun hv => lookupEntry_of_mem hnames' (h.mem_iff.mpr (mem_of_lookupEntry hv))⟩

/-- Entries under other names can be left out. -/
theorem lookupEntry_filter {names : List String} (hname : name ∈ names)
    (entries : List (String × β)) :
    lookupEntry name (entries.filter fun entry => names.contains entry.1) =
      lookupEntry name entries := by
  induction entries with
  | nil => rfl
  | cons head rest ih =>
      obtain ⟨key, value⟩ := head
      by_cases hkey : names.contains key = true
      · rw [List.filter_cons_of_pos (by exact hkey), lookupEntry, lookupEntry, ih]
      · have hne : name ≠ key := by
          rintro rfl
          exact hkey (List.contains_iff_mem.mpr hname)
        rw [List.filter_cons_of_neg (by exact hkey), ih, lookupEntry, if_neg hne]

/-- Entries that correspond to each other have answers that do. -/
theorem lookupEntry_forall₂ {R : β → γ → Prop} {images : List (String × γ)}
    (h : List.Forall₂ (fun entry image => entry.1 = image.1 ∧ R entry.2 image.2) entries images)
    (name : String) : Option.Rel R (lookupEntry name entries) (lookupEntry name images) := by
  induction h with
  | nil => exact .none
  | @cons entry image _ _ hfirst _ ih =>
      obtain ⟨key, value⟩ := entry
      obtain ⟨key', value'⟩ := image
      obtain ⟨rfl, hvalue⟩ := hfirst
      simp only [lookupEntry]
      split
      · exact .some hvalue
      · exact ih

theorem names_eq_of_forall₂ {R : β → γ → Prop} {images : List (String × γ)}
    (h : List.Forall₂ (fun entry image => entry.1 = image.1 ∧ R entry.2 image.2) entries images) :
    images.map Prod.fst = entries.map Prod.fst := by
  induction h with
  | nil => rfl
  | cons hfirst _ ih => rw [List.map_cons, List.map_cons, hfirst.1, ih]

theorem lookupEntry_map (f : β → γ) (name : String) (entries : List (String × β)) :
    lookupEntry name (entries.map fun entry => (entry.1, f entry.2))
      = (lookupEntry name entries).map f := by
  induction entries with
  | nil => rfl
  | cons head rest ih =>
      rw [List.map_cons, lookupEntry, lookupEntry, ih]
      split <;> rfl

/-- The fields that have a value, as entries. -/
def presentEntries (fields : List (String × Option β)) : List (String × β) :=
  fields.filterMap fun field => field.2.map fun value => (field.1, value)

theorem names_presentEntries (fields : List (String × Option β)) :
    ((presentEntries fields).map Prod.fst).Sublist (fields.map Prod.fst) := by
  induction fields with
  | nil => exact .refl _
  | cons head rest ih =>
      obtain ⟨key, value⟩ := head
      cases value with
      | none => exact ih.cons key
      | some value => exact ih.cons_cons key

theorem lookupEntry_presentEntries {fields : List (String × Option β)}
    (hnames : (fields.map Prod.fst).Nodup) :
    lookupEntry name (presentEntries fields) = (lookupEntry name fields).join := by
  induction fields with
  | nil => rfl
  | cons head rest ih =>
      obtain ⟨key, value⟩ := head
      rw [List.map_cons, List.nodup_cons] at hnames
      cases value with
      | none =>
          rw [lookupEntry]
          split
          · rename_i hname
            rw [hname]
            refine lookupEntry_eq_none_iff.mpr fun entry hentry heq => hnames.1 ?_
            rw [← heq]
            exact (names_presentEntries rest).subset (List.mem_map_of_mem hentry)
          · exact ih hnames.2
      | some value =>
          have hshape : presentEntries ((key, some value) :: rest)
              = (key, value) :: presentEntries rest := rfl
          rw [hshape, lookupEntry, lookupEntry]
          split
          · rfl
          · exact ih hnames.2

theorem NameMap.get?_insertAll (hnames : (entries.map Prod.fst).Nodup) (map : NameMap β) :
    (map.insertAll entries).get? name = (lookupEntry name entries).or (map.get? name) := by
  induction entries generalizing map with
  | nil => rfl
  | cons head rest ih =>
      obtain ⟨key, value⟩ := head
      rw [List.map_cons, List.nodup_cons] at hnames
      have hinsert : (map.insertAll ((key, value) :: rest)) = (map.insert key value).insertAll rest :=
        rfl
      rw [hinsert, ih hnames.2, NameMap.get?_insert, lookupEntry]
      by_cases hname : name = key
      · subst hname
        have hfree : lookupEntry name rest = none :=
          lookupEntry_eq_none_iff.mpr fun entry hentry heq =>
            hnames.1 (List.mem_map.mpr ⟨entry, hentry, heq⟩)
        rw [if_pos rfl, if_pos rfl, hfree]
        rfl
      · rw [if_neg hname, if_neg hname]

/-- Where each name stands once, a map answers what its entries do. -/
theorem NameMap.get?_ofList (hnames : (entries.map Prod.fst).Nodup) :
    (NameMap.ofList entries).get? name = lookupEntry name entries := by
  rw [NameMap.ofList, NameMap.get?_insertAll hnames]
  exact Option.or_none

theorem NameMap.nodup_names (map : NameMap β) : (map.entries.map Prod.fst).Nodup :=
  List.pairwise_map.mpr (map.sorted.imp String.ne_of_lt)

theorem NameMap.mem_names_iff {map : NameMap β} :
    name ∈ map.names ↔ ∃ value, map.get? name = some value := by
  constructor
  · intro h
    obtain ⟨⟨_, value⟩, hentry, rfl⟩ := List.mem_map.mp h
    exact ⟨value, lookupEntry_of_mem map.nodup_names hentry⟩
  · rintro ⟨value, hvalue⟩
    exact List.mem_map.mpr ⟨_, mem_of_lookupEntry hvalue, rfl⟩

theorem NameMap.sorted_names (map : NameMap β) : map.names.Pairwise (· < ·) :=
  List.pairwise_map.mpr map.sorted

/-- The order of two insertions under different names does not matter. -/
theorem NameMap.insert_comm (map : NameMap β) {first second : String} (h : first ≠ second)
    (value other : β) :
    (map.insert first value).insert second other = (map.insert second other).insert first value := by
  refine NameMap.ext_get? fun name => ?_
  simp only [NameMap.get?_insert]
  by_cases hname : name = second
  · rw [if_pos hname, if_neg (fun hfirst => h (hfirst.symm.trans hname)), if_pos hname]
  · rw [if_neg hname, if_neg hname]

/-- What corresponds to the answers of some entries has an answer for each of them. -/
theorem exists_of_rel {R : γ → β → Prop} {answer : String → Option γ}
    (hnames : (entries.map Prod.fst).Nodup)
    (h : ∀ name, Option.Rel R (answer name) (lookupEntry name entries)) {entry : String × β}
    (hentry : entry ∈ entries) : ∃ found, answer entry.1 = some found ∧ R found entry.2 := by
  have hrel := h entry.1
  rw [lookupEntry_of_mem hnames hentry] at hrel
  generalize answer entry.1 = found at hrel
  obtain ⟨hfound⟩ := hrel
  exact ⟨_, rfl, hfound⟩

/-- The map of a list answers what corresponds to what another list answers. -/
theorem NameMap.rel_ofList {R : β → γ → Prop} {images : List (String × γ)}
    (hnames : (images.map Prod.fst).Nodup)
    (h : List.Forall₂ (fun entry image => entry.1 = image.1 ∧ R entry.2 image.2) entries images)
    (name : String) : Option.Rel R ((NameMap.ofList entries).get? name) (lookupEntry name images) := by
  rw [NameMap.get?_ofList (names_eq_of_forall₂ h ▸ hnames)]
  exact lookupEntry_forall₂ h name

/-- Maps that correspond to the same answers are the same, where what corresponds is determined. -/
theorem NameMap.eq_of_rel {R : β → γ → Prop} {left right : NameMap β} {answer : String → Option γ}
    (hunique : ∀ a b c, R a c → R b c → a = b)
    (hleft : ∀ name, Option.Rel R (left.get? name) (answer name))
    (hright : ∀ name, Option.Rel R (right.get? name) (answer name)) : left = right := by
  refine NameMap.ext_get? fun name => ?_
  have hleft := hleft name
  have hright := hright name
  generalize answer name = found at hleft hright
  generalize left.get? name = first at hleft ⊢
  generalize right.get? name = second at hright ⊢
  cases hleft with
  | none =>
      cases hright
      rfl
  | some hfirst =>
      obtain ⟨hsecond⟩ := hright
      rw [hunique _ _ _ hfirst hsecond]

end Entries

/-! ## Headers -/

namespace Headers

@[simp] theorem get?_insert (headers : Headers) (name other value : String) :
    (headers.insert name value).get? other
      = if Text.lower other = Text.lower name then some value else headers.get? other :=
  NameMap.get?_insert _ _ _ _

theorem get?_addMissing (headers : Headers) (pairs : List (String × String)) (name : String)
    (hlower : ∀ pair ∈ pairs, Text.lower pair.1 = pair.1) :
    (headers.addMissing pairs).get? name
      = (headers.get? name).or (lookupEntry (Text.lower name) pairs) := by
  induction pairs generalizing headers with
  | nil => simp [addMissing, lookupEntry]
  | cons pair rest ih =>
      obtain ⟨hpair, hrest⟩ := List.forall_mem_cons.mp hlower
      obtain ⟨key, value⟩ := pair
      have hstep : headers.addMissing ((key, value) :: rest)
          = (if headers.contains key then headers else headers.insert key value).addMissing rest :=
        rfl
      rw [hstep, ih _ hrest, lookupEntry]
      by_cases hname : Text.lower name = key
      · have hsame : headers.get? name = headers.get? key := by
          simp only [get?, hname, hpair]
        rw [if_pos hname]
        cases hvalue : headers.get? key with
        | none => simp [contains, hvalue, hsame, hname, hpair]
        | some old => simp [contains, hvalue, hsame]
      · rw [if_neg hname]
        split
        · rfl
        · rw [get?_insert, hpair, if_neg hname]

theorem ext_get? {left right : Headers} (h : ∀ name, left.get? name = right.get? name) :
    left = right := by
  have hmap : left.map = right.map := by
    refine NameMap.ext_get? fun name => ?_
    by_cases hlower : Text.lower name = name
    · simpa only [get?, hlower] using h name
    · -- A name with capitals is the name of no header.
      have hnone : ∀ headers : Headers, headers.map.get? name = none := fun headers =>
        lookupEntry_eq_none_iff.mpr fun entry hentry heq =>
          hlower (heq ▸ headers.lower entry hentry)
      rw [hnone left, hnone right]
  cases left
  cases right
  cases hmap
  rfl

/-- Default headers count where the headers themselves have no value. -/
@[simp] theorem get?_withDefaults (headers defaults : Headers) (name : String) :
    (headers.withDefaults defaults).get? name = (headers.get? name).or (defaults.get? name) :=
  get?_addMissing headers defaults.toList name defaults.lower

/-- A header that is set for certain can be set before the defaults or after them. -/
theorem withDefaults_insert (headers defaults : Headers) (name value : String) :
    (headers.insert name value).withDefaults defaults
      = (headers.withDefaults defaults).insert name value := by
  refine ext_get? fun other => ?_
  simp only [get?_withDefaults, get?_insert]
  split <;> rfl

end Headers

/-! ## Parameters -/

@[simp] theorem Params.get?_set (params : Params) (name other value : String) :
    (params.set name value).get? other
      = if other = name then some (.single value) else params.get? other :=
  NameMap.get?_insert _ _ _ _

/-! ## Requests -/

namespace Request

variable (request : Request)

@[simp] theorem withHeader_headers (name value : String) :
    (request.withHeader name value).headers = request.headers.insert name value := rfl

@[simp] theorem withDefaultHeaders_params (defaults : Headers) :
    (request.withDefaultHeaders defaults).params = request.params := rfl

@[simp] theorem withParams_params (params : Params) :
    (request.withParams params).params = params := rfl

@[simp] theorem withTimeout_params (timeout : Duration) :
    (request.withTimeout timeout).params = request.params := rfl

end Request

end Quadlink
