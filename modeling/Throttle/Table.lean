/-!
# Tables

A table holds at most one value per name and keeps its names in the order in which they came.  Main
statements: `put` sets one name and leaves the others, `keep` keeps exactly the entries that pass a
test, and the size of a table is the number of its entries.
-/

namespace Throttle

/-- A list of named values in which a name is set, in its place or at the end. -/
def putEntry {β : Type} (name : String) (value : β) : List (String × β) → List (String × β)
  | [] => [(name, value)]
  | (key, old) :: rest =>
    if key = name then (name, value) :: rest else (key, old) :: putEntry name value rest

def valueAt {β : Type} (name : String) : List (String × β) → Option β
  | [] => none
  | (key, value) :: rest => if key = name then some value else valueAt name rest

theorem mem_keys_putEntry {β : Type} {name key : String} {value : β} {l : List (String × β)} :
    key ∈ (putEntry name value l).map (·.1) ↔ key = name ∨ key ∈ l.map (·.1) := by
  induction l with
  | nil => simp [putEntry]
  | cons e rest ih =>
    obtain ⟨k, old⟩ := e
    rw [putEntry]
    split
    · next h => subst h; simp
    · next h =>
      simp only [List.map_cons, List.mem_cons, ih]
      grind

theorem nodup_putEntry {β : Type} (name : String) (value : β) (l : List (String × β))
    (h : (l.map (·.1)).Nodup) : ((putEntry name value l).map (·.1)).Nodup := by
  induction l with
  | nil => simp [putEntry]
  | cons e rest ih =>
    obtain ⟨k, old⟩ := e
    rw [putEntry]
    simp only [List.map_cons, List.nodup_cons] at h
    split
    · next hk => subst hk; simpa using h
    · next hk =>
      simp only [List.map_cons, List.nodup_cons]
      exact ⟨fun hm => (mem_keys_putEntry.1 hm).elim hk h.1, ih h.2⟩

/-- Values under names, no name twice. -/
structure Table (β : Type) where
  entries : List (String × β) := []
  nodup : (entries.map (·.1)).Nodup := by simp

namespace Table

variable {β : Type}

def empty : Table β := {}

instance : Inhabited (Table β) := ⟨empty⟩

def get? (table : Table β) (name : String) : Option β := valueAt name table.entries

def put (table : Table β) (name : String) (value : β) : Table β :=
  ⟨putEntry name value table.entries, nodup_putEntry name value _ table.nodup⟩

def keep (table : Table β) (p : String → β → Bool) : Table β where
  entries := table.entries.filter fun (name, value) => p name value
  nodup := (List.Sublist.map _ List.filter_sublist).nodup table.nodup

def size (table : Table β) : Nat := table.entries.length

def isEmpty (table : Table β) : Bool := table.entries.isEmpty

theorem valueAt_putEntry (name key : String) (value : β) (l : List (String × β)) :
    valueAt key (putEntry name value l) = if key = name then some value else valueAt key l := by
  induction l with
  | nil => simp [putEntry, valueAt, eq_comm]
  | cons e rest ih => grind [putEntry, valueAt]

theorem valueAt_eq_none {name : String} {l : List (String × β)} (h : name ∉ l.map (·.1)) :
    valueAt name l = none := by
  induction l with
  | nil => rfl
  | cons e rest ih => grind [valueAt]

theorem valueAt_filter (p : String → β → Bool) (name : String) (l : List (String × β))
    (h : (l.map (·.1)).Nodup) :
    valueAt name (l.filter fun e => p e.1 e.2) = (valueAt name l).filter (p name) := by
  induction l with
  | nil => rfl
  | cons e rest ih =>
    obtain ⟨k, v⟩ := e
    simp only [List.map_cons, List.nodup_cons] at h
    have ih := ih h.2
    by_cases hk : k = name
    · subst hk
      by_cases hp : p k v <;> simp [valueAt, hp, ih, valueAt_eq_none h.1, Option.filter]
    · by_cases hp : p k v <;> simp [valueAt, hp, ih, hk]

@[simp] theorem get?_empty (name : String) : (empty : Table β).get? name = none := rfl

theorem get?_put (table : Table β) (name key : String) (value : β) :
    (table.put name value).get? key = if key = name then some value else table.get? key :=
  valueAt_putEntry name key value table.entries

@[simp] theorem get?_put_self (table : Table β) (name : String) (value : β) :
    (table.put name value).get? name = some value := by
  simp [get?_put]

theorem get?_put_of_ne (table : Table β) {name key : String} (value : β) (h : key ≠ name) :
    (table.put name value).get? key = table.get? key := by
  simp [get?_put, h]

theorem get?_keep (table : Table β) (p : String → β → Bool) (name : String) :
    (table.keep p).get? name = (table.get? name).filter (p name) :=
  valueAt_filter p name table.entries table.nodup

end Table

end Throttle
