import Quadlink.Json.Record
import Quadlink.Proofs.Http.Lookup
import Quadlink.Proofs.Json.Documents

/-!
# Objects and records

What the readers of records see of a document. Of an object in which no name is repeated they see
the entry under each name, wherever it stands and whatever else the object holds (`HasEntries`); of
an array they see the items at the places of the names. There is nothing else that they accept
(`fields?_cases`).
-/

namespace Quadlink

open Json

/-- A string of a document that stands for a text. -/
def IsJsonString (value : String) (document : Json.Document) : Prop :=
  ∃ body, IsBody value.toList body ∧ document = .string (Text.encodeChars body)

namespace Json.Document

variable {α : Type} {document : Document} {entries known : List (String × Document)}
  {names : List String}

theorem text?_eq {value : String} (h : IsJsonString value document) :
    document.text? = some value := by
  obtain ⟨body, hbody, rfl⟩ := h
  exact hbody.readString?

/-! ## Lists that are read item by item -/

theorem mapM_eq_some_iff {β : Type} {read : α → Option β} {items : List α} {values : List β} :
    items.mapM read = some values ↔ List.Forall₂ (fun item value => read item = some value)
      items values := by
  induction items generalizing values with
  | nil => cases values <;> simp
  | cons item rest ih =>
      simp only [List.mapM_cons, Option.bind_eq_bind, Option.bind_eq_some_iff,
        List.forall₂_cons_left_iff]
      constructor
      · rintro ⟨value, hvalue, others, hothers, ⟨⟩⟩
        exact ⟨value, others, hvalue, ih.mp hothers, rfl⟩
      · rintro ⟨value, others, hvalue, hothers, rfl⟩
        exact ⟨value, hvalue, others, ih.mpr hothers, rfl⟩

theorem exists_mapM {β : Type} {read : α → Option β} {items : List α}
    (h : ∀ item ∈ items, ∃ value, read item = some value) :
    ∃ values, items.mapM read = some values := by
  induction items with
  | nil => exact ⟨[], rfl⟩
  | cons item rest ih =>
      obtain ⟨⟨value, hvalue⟩, hrest⟩ := List.forall_mem_cons.mp h
      obtain ⟨values, hvalues⟩ := ih hrest
      exact ⟨value :: values, by rw [List.mapM_cons, hvalue, hvalues]; rfl⟩

/-! ## Objects -/

def IsName (name : String) (raw : Bytes) : Prop :=
  ∃ body, IsBody name.toList body ∧ raw = Text.encodeChars body

/-- An object in which no name is repeated, with its entries in their order. Each name is written in
one of its spellings. -/
def HasEntries (document : Document) (entries : List (String × Document)) : Prop :=
  (entries.map Prod.fst).Nodup ∧ ∃ members, document = .object members
    ∧ List.Forall₂ (fun entry member => IsName entry.1 member.1 ∧ entry.2 = member.2) entries members

theorem members?_eq {R : α → Document → Prop} {ordered : List (String × α)}
    {members : List (Bytes × Document)}
    (h : List.Forall₂ (fun entry member => IsName entry.1 member.1 ∧ R entry.2 member.2)
      ordered members) :
    ∃ known, (Document.object members).members? = some known
      ∧ List.Forall₂ (fun entry member => entry.1 = member.1 ∧ R entry.2 member.2)
          ordered known := by
  show ∃ known, (members.mapM fun member => (readString? member.1).map fun name => (name, member.2))
    = some known ∧ _
  induction h with
  | nil => exact ⟨[], rfl, .nil⟩
  | @cons entry member _ _ hmember _ ih =>
      obtain ⟨known, hknown, hsame⟩ := ih
      obtain ⟨⟨body, hbody, hname⟩, hvalue⟩ := hmember
      refine ⟨(entry.1, member.2) :: known, ?_, .cons ⟨rfl, hvalue⟩ hsame⟩
      rw [List.mapM_cons, hname, hbody.readString?, hknown]
      rfl

theorem HasEntries.members?_eq (h : document.HasEntries entries) :
    document.members? = some entries := by
  obtain ⟨-, members, rfl, hmembers⟩ := h
  obtain ⟨known, hknown, hsame⟩ := Document.members?_eq hmembers
  have heq : entries = known := by
    refine List.forall₂_eq_eq_eq ▸ hsame.imp fun entry member h => ?_
    exact Prod.ext h.1 h.2
  rw [hknown, heq]

/-! ## Fields -/

/-- The fields of a record in an object are the entries under their names. -/
theorem fields?_of_members? {strict : Bool} (hmembers : document.members? = some known)
    (hnames : (known.map Prod.fst).Nodup)
    (hstrict : strict = true → ∀ name ∈ known.map Prod.fst, name ∈ names) :
    document.fields? names strict = some (names.map fun name => lookupEntry name known) := by
  have hsingle : (names.any fun name => decide (1 < ((known.filter fun member =>
      names.contains member.1).filter fun member => member.1 == name).length)) = false := by
    rw [List.any_eq_false]
    intro name _
    have hcount := List.nodup_iff_count.mp hnames name
    rw [List.count_eq_countP, List.countP_map, List.countP_eq_length_filter] at hcount
    rw [decide_eq_true_eq, Nat.not_lt]
    exact Nat.le_trans (List.filter_sublist.filter _).length_le hcount
  have hallowed : (strict && (known.filter fun member => names.contains member.1).length
      != known.length) = false := by
    cases strict with
    | false => rfl
    | true =>
        have hall : known.filter (fun member => names.contains member.1) = known :=
          List.filter_eq_self.mpr fun member hmember => by
            simpa using hstrict rfl member.1 (List.mem_map_of_mem hmember)
        rw [hall, bne_self_eq_false, Bool.and_false]
  have hfound : (names.map fun name => lookupEntry name (known.filter fun member =>
      names.contains member.1)) = names.map fun name => lookupEntry name known :=
    List.map_congr_left fun name hname => lookupEntry_filter hname known
  cases document with
  | object members =>
      unfold fields?
      simp only [hmembers, Option.bind_some, hsingle, hallowed, hfound, Bool.or_self,
        Bool.false_eq_true, if_false]
  | null => cases hmembers
  | bool _ => cases hmembers
  | number _ => cases hmembers
  | string _ => cases hmembers
  | array _ => cases hmembers

theorem HasEntries.fields?_eq (h : document.HasEntries entries) (names : List String) :
    document.fields? names false = some (names.map fun name => lookupEntry name entries) :=
  fields?_of_members? h.members?_eq h.1 nofun

/-- The documents that a record is read from: an array of no more items than there are fields, or
an object. -/
theorem fields?_cases {found : List (Option Document)}
    (h : document.fields? names false = some found) :
    (∃ items, document = .array items
        ∧ found = items.map some ++ List.replicate (names.length - items.length) none)
      ∨ ∃ members, document.members? = some members
        ∧ found = names.map fun name => lookupEntry name members := by
  unfold fields? at h
  split at h
  · rename_i items
    split at h
    · exact .inl ⟨items, rfl, (Option.some.inj h).symm⟩
    · cases h
  · obtain ⟨members, hmembers, h⟩ := Option.bind_eq_some_iff.mp h
    dsimp only at h
    split at h
    · cases h
    · refine .inr ⟨members, hmembers, ?_⟩
      rw [← Option.some.inj h]
      exact List.map_congr_left fun name hname => lookupEntry_filter hname members

/-- A field that gives nothing: it is missing, or it is `null`. -/
def IsVoid (found : Option Document) : Prop := found = none ∨ found = some .null

section Optional

variable {read : Document → Option α} {found : Option Document}

theorem nullable?_of_ne_null (h : document ≠ .null) :
    nullable? read document = (read document).map some := by
  cases document with
  | null => exact absurd rfl h
  | bool _ => rfl
  | number _ => rfl
  | string _ => rfl
  | array _ => rfl
  | object _ => rfl

theorem optional_eq_none_iff : orElse? none (nullable? read) found = some none ↔ IsVoid found := by
  constructor
  · intro h
    cases found with
    | none => exact .inl rfl
    | some document =>
        by_cases hnull : document = .null
        · exact .inr (congrArg some hnull)
        · rw [orElse?, nullable?_of_ne_null hnull] at h
          obtain ⟨_, _, ⟨⟩⟩ := Option.map_eq_some_iff.mp h
  · rintro (rfl | rfl) <;> rfl

theorem optional_eq_some_iff {value : α} : orElse? none (nullable? read) found = some (some value)
    ↔ ∃ document, found = some document ∧ document ≠ .null ∧ read document = some value := by
  constructor
  · intro h
    cases found with
    | none => cases h
    | some document =>
        by_cases hnull : document = .null
        · subst hnull
          cases h
        · rw [orElse?, nullable?_of_ne_null hnull] at h
          obtain ⟨_, hvalue, ⟨⟩⟩ := Option.map_eq_some_iff.mp h
          exact ⟨document, rfl, hnull, hvalue⟩
  · rintro ⟨document, rfl, hnull, hvalue⟩
    rw [orElse?, nullable?_of_ne_null hnull, hvalue, Option.map_some]

end Optional

/-! ## Maps -/

section Maps

variable {read : Document → Option α}

/-- An object all of whose entries can be read is read as a map of what they are read as. -/
theorem HasEntries.exists_map? (h : document.HasEntries entries)
    (hread : ∀ entry ∈ entries, ∃ value, read entry.2 = some value) :
    ∃ map, document.map? read = some map ∧ ∀ name,
      Option.Rel (fun value found => read found = some value) (map.get? name)
        (lookupEntry name entries) := by
  obtain ⟨pairs, hpairs⟩ : ∃ pairs, (entries.mapM fun member =>
      (read member.2).map fun value => (member.1, value)) = some pairs := by
    refine exists_mapM fun member hmember => ?_
    obtain ⟨value, hvalue⟩ := hread member hmember
    exact ⟨(member.1, value), by rw [hvalue]; rfl⟩
  have hsame : List.Forall₂ (fun pair entry => pair.1 = entry.1 ∧ read entry.2 = some pair.2)
      pairs entries := by
    refine (mapM_eq_some_iff.mp hpairs).flip.imp fun pair entry hpair => ?_
    obtain ⟨value, hvalue, rfl⟩ := Option.map_eq_some_iff.mp hpair
    exact ⟨rfl, hvalue⟩
  refine ⟨.ofList pairs, ?_, ?_⟩
  · rw [map?, h.members?_eq, Option.bind_some, hpairs, Option.map_some]
  · exact NameMap.rel_ofList (R := fun value found => read found = some value) h.1 hsame

/-- An object is read as the map that answers what its entries stand for. -/
theorem HasEntries.map?_eq {R : α → Document → Prop} {map : NameMap α}
    (h : document.HasEntries entries)
    (hmap : ∀ name, Option.Rel R (map.get? name) (lookupEntry name entries))
    (hread : ∀ value document, R value document → read document = some value) :
    document.map? read = some map := by
  have hanswer : ∀ name, Option.Rel (fun value found => read found = some value) (map.get? name)
      (lookupEntry name entries) := by
    intro name
    have hrel := hmap name
    generalize map.get? name = answer at hrel ⊢
    generalize lookupEntry name entries = found at hrel ⊢
    cases hrel with
    | none => exact .none
    | some hvalue => exact .some (hread _ _ hvalue)
  obtain ⟨found, hfound, hsame⟩ := h.exists_map? fun entry hentry =>
    have ⟨value, _, (hvalue : read entry.2 = some value)⟩ := exists_of_rel h.1 hanswer hentry
    ⟨value, hvalue⟩
  have hunique : ∀ a b c, read c = some a → read c = some b → a = b := fun _ _ _ ha hb =>
    Option.some.inj (ha.symm.trans hb)
  rw [hfound, NameMap.eq_of_rel hunique hsame hanswer]

end Maps

end Json.Document

end Quadlink
