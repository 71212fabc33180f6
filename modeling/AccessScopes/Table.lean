/-!
# Tables in order of arrival

A table maps finitely many keys to values and remembers the order in which the keys first came.
Writing to a key that is already there replaces the value and keeps the place. The rest of the
library relies on the equations for `get?` and `keys` below, never on how the entries are stored.
-/

namespace AccessScopes

universe u v

/-- A finite map whose entries stand in the order in which their keys first came. -/
structure Table (κ : Type u) (α : Type v) where
  entries : List (κ × α)
  nodup_keys : (entries.map Prod.fst).Nodup
  deriving DecidableEq

namespace Table

variable {κ : Type u} {α : Type v}

/-- The keys in the order in which they first came. -/
def keys (table : Table κ α) : List κ :=
  table.entries.map Prod.fst

def empty : Table κ α :=
  ⟨[], List.nodup_nil⟩

instance : EmptyCollection (Table κ α) := ⟨empty⟩

instance : Inhabited (Table κ α) := ⟨empty⟩

theorem ext_entries {table other : Table κ α} (hentries : table.entries = other.entries) : table = other := by
  cases table
  cases other
  simpa using hentries

variable [DecidableEq κ]

/-- The value under a key, if the key is there. -/
def get? (table : Table κ α) (key : κ) : Option α :=
  (table.entries.find? (·.1 = key)).map Prod.snd

/-! ### Writing -/

/-- Writes a value into a list of entries: in the place of the key if it is there, else at the end. -/
def write (key : κ) (value : α) : List (κ × α) → List (κ × α)
  | [] => [(key, value)]
  | entry :: rest => if entry.1 = key then (key, value) :: rest else entry :: write key value rest

theorem map_fst_write (key : κ) (value : α) (entries : List (κ × α)) :
    (write key value entries).map Prod.fst =
      if key ∈ entries.map Prod.fst then entries.map Prod.fst else entries.map Prod.fst ++ [key] := by
  induction entries with
  | nil => simp [write]
  | cons entry rest ih =>
    by_cases hkey : entry.1 = key
    · simp [write, hkey]
    · have hne : key ≠ entry.1 := fun h => hkey h.symm
      simp only [write, if_neg hkey, List.map_cons, ih, List.mem_cons, hne, false_or]
      split <;> simp

theorem nodup_map_fst_write (key : κ) (value : α) {entries : List (κ × α)}
    (hnodup : (entries.map Prod.fst).Nodup) : ((write key value entries).map Prod.fst).Nodup := by
  rw [map_fst_write]
  split
  · exact hnodup
  · rename_i hkey
    rw [List.nodup_append]
    refine ⟨hnodup, by simp, ?_⟩
    intro a ha b hb hab
    simp only [List.mem_singleton] at hb
    exact hkey (hb ▸ hab ▸ ha)

/-- Writes a value under a key; a key that is already there keeps its place. -/
def insert (table : Table κ α) (key : κ) (value : α) : Table κ α :=
  ⟨write key value table.entries, nodup_map_fst_write key value table.nodup_keys⟩

def erase (table : Table κ α) (key : κ) : Table κ α where
  entries := table.entries.filter (·.1 ≠ key)
  nodup_keys := table.nodup_keys.sublist (List.filter_sublist.map _)

def insertAll (table : Table κ α) (entries : List (κ × α)) : Table κ α :=
  entries.foldl (fun table entry => table.insert entry.1 entry.2) table

/-- The table that results from writing entries one after another: a repeated key keeps its first
place and takes its last value. -/
def ofList (entries : List (κ × α)) : Table κ α :=
  empty.insertAll entries

/-- Writes every entry of the second table into the first. -/
def merge (table other : Table κ α) : Table κ α :=
  table.insertAll other.entries

/-! ### Equations -/

@[simp] theorem get?_empty (key : κ) : (∅ : Table κ α).get? key = none := rfl

theorem keys_insert (table : Table κ α) (key : κ) (value : α) :
    (table.insert key value).keys = if key ∈ table.keys then table.keys else table.keys ++ [key] :=
  map_fst_write key value table.entries

theorem get?_insert (table : Table κ α) (key other : κ) (value : α) :
    (table.insert key value).get? other = if other = key then some value else table.get? other := by
  obtain ⟨entries, hnodup⟩ := table
  simp only [get?, insert]
  clear hnodup
  induction entries with
  | nil => by_cases hother : key = other <;> simp [write, hother, eq_comm]
  | cons entry rest ih =>
    by_cases hkey : entry.1 = key <;> by_cases hother : other = key
    · simp [write, hkey, hother]
    · have hne : ¬ key = other := fun h => hother h.symm
      simp [write, hkey, hother, hne]
    · subst hother
      simp [write, hkey, ih]
    · by_cases hentry : entry.1 = other
      · simp [write, hother, hentry]
      · simp [write, hkey, hentry, ih]

theorem get?_erase (table : Table κ α) (key other : κ) :
    (table.erase key).get? other = if other = key then none else table.get? other := by
  obtain ⟨entries, hnodup⟩ := table
  simp only [get?, erase]
  clear hnodup
  induction entries with
  | nil => simp
  | cons entry rest ih =>
    by_cases hkey : entry.1 = key <;> by_cases hother : other = key
    · simp_all
    · have hne : ¬ key = other := fun h => hother h.symm
      simp_all
    · simp_all
    · by_cases hentry : entry.1 = other <;> simp_all

theorem get?_eq_some_iff {table : Table κ α} {key : κ} {value : α} :
    table.get? key = some value ↔ (key, value) ∈ table.entries := by
  obtain ⟨entries, hnodup⟩ := table
  simp only [get?]
  induction entries with
  | nil => simp
  | cons entry rest ih =>
    rw [List.map_cons, List.nodup_cons] at hnodup
    by_cases hkey : entry.1 = key
    · have hrest : (key, value) ∉ rest := fun h =>
        hnodup.1 (hkey ▸ List.mem_map_of_mem (f := Prod.fst) h)
      obtain ⟨entryKey, entryValue⟩ := entry
      simp only at hkey
      subst hkey
      simp [hrest, eq_comm]
    · have hne : (key, value) ≠ entry := fun h => hkey (by rw [← h])
      simp [hkey, hne, ih hnodup.2]

theorem get?_eq_none_iff {table : Table κ α} {key : κ} :
    table.get? key = none ↔ key ∉ table.keys := by
  simp only [get?, keys, Option.map_eq_none_iff, List.find?_eq_none, List.mem_map, decide_eq_true_eq]
  exact ⟨fun h ⟨entry, hentry, hkey⟩ => h entry hentry hkey, fun h entry hentry hkey => h ⟨entry, hentry, hkey⟩⟩

/-! ### Tables from lists -/

/-- A new key is written at the end. -/
theorem entries_insert_of_not_mem {table : Table κ α} {key : κ} (hkey : key ∉ table.keys) (value : α) :
    (table.insert key value).entries = table.entries ++ [(key, value)] := by
  obtain ⟨entries, hnodup⟩ := table
  simp only [keys] at hkey
  simp only [insert]
  clear hnodup
  induction entries with
  | nil => rfl
  | cons entry rest ih =>
    rw [List.map_cons, List.mem_cons, not_or] at hkey
    rw [write, if_neg (Ne.symm hkey.1), ih hkey.2, List.cons_append]

/-- Writing entries with new and distinct keys adds them at the end. -/
theorem entries_insertAll_of_nodup {table : Table κ α} {entries : List (κ × α)}
    (hnodup : (table.keys ++ entries.map Prod.fst).Nodup) :
    (table.insertAll entries).entries = table.entries ++ entries := by
  induction entries generalizing table with
  | nil => simp [insertAll]
  | cons entry rest ih =>
    rw [List.map_cons] at hnodup
    have hkey : entry.1 ∉ table.keys := fun hmem =>
      (List.nodup_append.1 hnodup).2.2 _ hmem _ List.mem_cons_self rfl
    have hinsert := entries_insert_of_not_mem hkey entry.2
    have hkeys : (table.insert entry.1 entry.2).keys = table.keys ++ [entry.1] := by
      rw [keys_insert, if_neg hkey]
    have hrest : ((table.insert entry.1 entry.2).keys ++ rest.map Prod.fst).Nodup := by
      rw [hkeys, List.append_assoc]
      exact hnodup
    have hall := ih hrest
    rw [hinsert] at hall
    rw [insertAll, List.foldl_cons, ← insertAll, hall, List.append_assoc]
    rfl

/-- Writing the entries of a table in order gives that table. -/
theorem ofList_entries (table : Table κ α) : ofList table.entries = table := by
  refine ext_entries ?_
  rw [ofList, entries_insertAll_of_nodup]
  · rfl
  · simpa [keys, empty] using table.nodup_keys

theorem mem_of_mem_insert {table : Table κ α} {key : κ} {value : α} {entry : κ × α}
    (hmem : entry ∈ (table.insert key value).entries) : entry = (key, value) ∨ entry ∈ table.entries := by
  obtain ⟨entries, hnodup⟩ := table
  simp only [insert] at hmem ⊢
  clear hnodup
  induction entries with
  | nil => exact Or.inl (by simpa [write] using hmem)
  | cons first rest ih =>
    rw [write] at hmem
    split at hmem
    · exact (List.mem_cons.1 hmem).imp_right (List.mem_cons_of_mem _)
    · rcases List.mem_cons.1 hmem with rfl | hrest
      · exact Or.inr List.mem_cons_self
      · exact (ih hrest).imp_right (List.mem_cons_of_mem _)

/-- A table holds only entries that were written into it. -/
theorem mem_of_mem_ofList {entries : List (κ × α)} {entry : κ × α} (hmem : entry ∈ (ofList entries).entries) :
    entry ∈ entries := by
  have hall : ∀ (written : List (κ × α)) (table : Table κ α), entry ∈ (table.insertAll written).entries →
      entry ∈ written ∨ entry ∈ table.entries := by
    intro written
    induction written with
    | nil => exact fun _ h => Or.inr h
    | cons first rest ih =>
      intro table h
      rcases ih (table.insert first.1 first.2) h with hrest | hinsert
      · exact Or.inl (List.mem_cons_of_mem _ hrest)
      · rcases mem_of_mem_insert hinsert with rfl | htable
        · exact Or.inl List.mem_cons_self
        · exact Or.inr htable
  exact (hall entries empty hmem).resolve_right List.not_mem_nil

theorem insertAll_append (table : Table κ α) (left right : List (κ × α)) :
    table.insertAll (left ++ right) = (table.insertAll left).insertAll right :=
  List.foldl_append

/-! ### Equality as mappings -/

/-- Whether two tables hold the same values under the same keys, in whatever order. -/
def sameMapping [DecidableEq α] (table other : Table κ α) : Bool :=
  table.entries.length = other.entries.length &&
    table.entries.all fun entry => other.get? entry.1 = some entry.2

end Table

end AccessScopes
