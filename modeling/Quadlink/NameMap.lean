/-!
# Values by name

Headers, query parameters, result rows and JSON objects all map names to values and are listed
in the order of their names. A `NameMap` keeps its entries in that order with each name once, so
two maps that answer every look-up alike are equal.
-/

namespace Quadlink

/-- Put a value under a name into entries in name order, replacing the value it had. -/
def insertEntry {β : Type} (name : String) (value : β) :
    List (String × β) → List (String × β)
  | [] => [(name, value)]
  | (other, old) :: rest =>
    if name = other then (name, value) :: rest
    else if name < other then (name, value) :: (other, old) :: rest
    else (other, old) :: insertEntry name value rest

/-- The value under a name. It is also used on lists in any order, where the first entry of a name
counts. -/
def lookupEntry {β : Type} (name : String) : List (String × β) → Option β
  | [] => none
  | (other, value) :: rest => if name = other then some value else lookupEntry name rest

theorem mem_insertEntry {β : Type} {name : String} {value : β} {entries : List (String × β)}
    {entry : String × β} (h : entry ∈ insertEntry name value entries) :
    entry = (name, value) ∨ entry ∈ entries := by
  induction entries with
  | nil => simpa [insertEntry] using h
  | cons head rest ih =>
    obtain ⟨other, old⟩ := head
    simp only [insertEntry] at h
    split at h
    · grind
    · split at h <;> grind

theorem pairwise_insertEntry {β : Type} (name : String) (value : β)
    {entries : List (String × β)} (h : entries.Pairwise (fun a b => a.1 < b.1)) :
    (insertEntry name value entries).Pairwise (fun a b => a.1 < b.1) := by
  induction entries with
  | nil => simp [insertEntry]
  | cons head rest ih =>
    obtain ⟨other, old⟩ := head
    rw [List.pairwise_cons] at h
    obtain ⟨hhead, hrest⟩ := h
    simp only [insertEntry]
    split
    · next heq => subst heq; exact List.pairwise_cons.2 ⟨hhead, hrest⟩
    · next hne =>
      split
      · next hlt =>
        refine List.pairwise_cons.2 ⟨?_, List.pairwise_cons.2 ⟨hhead, hrest⟩⟩
        intro entry hentry
        rcases List.mem_cons.1 hentry with rfl | hmem
        · exact hlt
        · exact String.lt_trans hlt (hhead entry hmem)
      · next hnlt =>
        refine List.pairwise_cons.2 ⟨?_, ih hrest⟩
        intro entry hentry
        rcases mem_insertEntry hentry with rfl | hmem
        · rcases Decidable.em (other < name) with hgt | hngt
          · exact hgt
          · exact absurd (String.le_antisymm (String.not_lt.1 hngt) (String.not_lt.1 hnlt)) hne
        · exact hhead entry hmem

/-- Values by name. The entries are in strictly ascending order of their names, so that two maps
with the same values are equal and whoever lists one does so in order. -/
structure NameMap (β : Type) where
  entries : List (String × β)
  sorted : entries.Pairwise (fun a b => a.1 < b.1)

namespace NameMap

variable {β : Type}

def empty : NameMap β := ⟨[], List.Pairwise.nil⟩

instance : Inhabited (NameMap β) := ⟨empty⟩

instance : EmptyCollection (NameMap β) := ⟨empty⟩

def insert (map : NameMap β) (name : String) (value : β) : NameMap β :=
  ⟨insertEntry name value map.entries, pairwise_insertEntry name value map.sorted⟩

def get? (map : NameMap β) (name : String) : Option β :=
  lookupEntry name map.entries

def contains (map : NameMap β) (name : String) : Bool :=
  (map.get? name).isSome

def size (map : NameMap β) : Nat :=
  map.entries.length

def isEmpty (map : NameMap β) : Bool :=
  map.entries.isEmpty

def names (map : NameMap β) : List String :=
  map.entries.map Prod.fst

/-- Insert pairs from left to right, so that the last value of a name stays. -/
def insertAll (map : NameMap β) (pairs : List (String × β)) : NameMap β :=
  pairs.foldl (fun acc pair => acc.insert pair.1 pair.2) map

/-- The map of a list of pairs, in which the last value of a name counts. -/
def ofList (pairs : List (String × β)) : NameMap β :=
  empty.insertAll pairs

@[ext] theorem ext {a b : NameMap β} (h : a.entries = b.entries) : a = b := by
  cases a; cases b; cases h; rfl

instance [DecidableEq β] : DecidableEq (NameMap β) := fun a b =>
  if h : a.entries = b.entries then isTrue (ext h) else isFalse (fun heq => h (heq ▸ rfl))

instance [Repr β] : Repr (NameMap β) := ⟨fun map prec => reprPrec map.entries prec⟩

end NameMap

end Quadlink
