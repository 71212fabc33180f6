import AccessScopes.Table
import Mathlib.Data.List.Induction
import Mathlib.Data.List.Nodup
import Mathlib.Data.List.Perm.Subperm

/-!
# The entries of a table

What a table says about a list of entries written into it, and when two tables are the same mapping:
the last entry with a key gives the value, writing what is there already changes nothing, and two tables
agree as mappings exactly when the entries of the one are those of the other in some order.
-/

namespace AccessScopes.Table

variable {κ α : Type} [DecidableEq κ]

/-! ### Entries written one after another -/

theorem ofList_append_singleton (entries : List (κ × α)) (entry : κ × α) :
    ofList (entries ++ [entry]) = (ofList entries).insert entry.1 entry.2 := by
  rw [ofList, insertAll_append]
  rfl

/-- Of several entries with one key the last gives the value. -/
theorem get?_ofList_eq_some_iff {entries : List (κ × α)} {key : κ} {value : α} :
    (ofList entries).get? key = some value ↔
      ∃ earlier later, entries = earlier ++ (key, value) :: later ∧ ∀ entry ∈ later, entry.1 ≠ key := by
  constructor
  · intro hget
    induction entries using List.reverseRecOn with
    | nil => cases hget
    | append_singleton entries entry ih =>
      rw [ofList_append_singleton, get?_insert] at hget
      split at hget
      · rename_i hkey
        refine ⟨entries, [], ?_, by simp⟩
        rw [hkey, ← Option.some.inj hget]
      · rename_i hkey
        obtain ⟨earlier, later, rfl, hlater⟩ := ih hget
        refine ⟨earlier, later ++ [entry], by simp, ?_⟩
        intro other hother
        rcases List.mem_append.1 hother with hother | hother
        · exact hlater other hother
        · rw [List.mem_singleton.1 hother]
          exact Ne.symm hkey
  · intro h
    obtain ⟨earlier, later, rfl, hlater⟩ := h
    -- The entries after the last one with the key are written one by one and leave its value alone.
    induction later using List.reverseRecOn with
    | nil => rw [ofList_append_singleton, get?_insert, if_pos rfl]
    | append_singleton later entry ih =>
      have hentry : key ≠ entry.1 := Ne.symm (hlater entry (by simp))
      have hrest := ih fun other hother => hlater other (List.mem_append_left _ hother)
      rw [← List.cons_append, ← List.append_assoc, ofList_append_singleton, get?_insert, if_neg hentry]
      exact hrest

theorem get?_insertAll_of_not_mem {table : Table κ α} {entries : List (κ × α)} {key : κ}
    (hkey : ∀ entry ∈ entries, entry.1 ≠ key) : (table.insertAll entries).get? key = table.get? key := by
  induction entries generalizing table with
  | nil => rfl
  | cons entry entries ih =>
    have hrest : ((table.insert entry.1 entry.2).insertAll entries).get? key =
        (table.insert entry.1 entry.2).get? key :=
      ih fun other hother => hkey other (List.mem_cons_of_mem _ hother)
    rw [get?_insert, if_neg (Ne.symm (hkey entry List.mem_cons_self))] at hrest
    exact hrest

theorem get?_insertAll_of_mem {table : Table κ α} {entries : List (κ × α)} {key : κ} {value : α}
    (hnodup : (entries.map Prod.fst).Nodup) (hmem : (key, value) ∈ entries) :
    (table.insertAll entries).get? key = some value := by
  induction entries generalizing table with
  | nil => cases hmem
  | cons entry entries ih =>
    rw [List.map_cons, List.nodup_cons] at hnodup
    rcases List.mem_cons.1 hmem with rfl | hrest
    · -- The key is not written again.
      have hlater : ∀ other ∈ entries, other.1 ≠ key := by
        intro other hother heq
        have hkey : other.1 ∈ entries.map Prod.fst := List.mem_map_of_mem hother
        rw [heq] at hkey
        exact hnodup.1 hkey
      have hget : ((table.insert key value).insertAll entries).get? key = (table.insert key value).get? key :=
        get?_insertAll_of_not_mem hlater
      rw [get?_insert, if_pos rfl] at hget
      exact hget
    · exact ih hnodup.2 hrest

/-- Writing a value that is there already changes nothing. -/
theorem insert_of_get? {table : Table κ α} {key : κ} {value : α} (hget : table.get? key = some value) :
    table.insert key value = table := by
  have hmem := get?_eq_some_iff.1 hget
  obtain ⟨entries, hnodup⟩ := table
  refine ext_entries ?_
  simp only [insert] at hmem ⊢
  clear hget
  induction entries with
  | nil => cases hmem
  | cons entry entries ih =>
    rw [List.map_cons, List.nodup_cons] at hnodup
    rcases List.mem_cons.1 hmem with rfl | hrest
    · rw [write, if_pos rfl]
    · have hne : entry.1 ≠ key := by
        intro heq
        exact hnodup.1 (heq ▸ List.mem_map_of_mem (f := Prod.fst) hrest)
      rw [write, if_neg hne, ih hnodup.2 hrest]

theorem insertAll_of_get? {table : Table κ α} {entries : List (κ × α)}
    (hget : ∀ entry ∈ entries, table.get? entry.1 = some entry.2) : table.insertAll entries = table := by
  induction entries with
  | nil => rfl
  | cons entry entries ih =>
    have hfirst := insert_of_get? (hget entry List.mem_cons_self)
    rw [insertAll, List.foldl_cons, hfirst]
    exact ih fun other hother => hget other (List.mem_cons_of_mem _ hother)

/-! ### Keys in the order of their first entries -/

theorem mem_keys_ofList_iff {entries : List (κ × α)} {key : κ} :
    key ∈ (ofList entries).keys ↔ ∃ value, (key, value) ∈ entries := by
  induction entries using List.reverseRecOn with
  | nil => simp [ofList, insertAll, keys, empty]
  | append_singleton entries entry ih =>
    obtain ⟨first, value⟩ := entry
    have hkeys : key ∈ ((ofList entries).insert first value).keys ↔ key ∈ (ofList entries).keys ∨ key = first := by
      rw [keys_insert]
      split
      · rename_i hfirst
        constructor
        · exact Or.inl
        · intro h
          rcases h with hkey | rfl
          · exact hkey
          · exact hfirst
      · rw [List.mem_append, List.mem_singleton]
    rw [ofList_append_singleton, hkeys, ih]
    simp [exists_or]

/-- The keys before a key are those of the entries before its first entry. -/
theorem exists_first_of_keys_ofList {entries : List (κ × α)} {earlier later : List κ} {key : κ}
    (hkeys : (ofList entries).keys = earlier ++ key :: later) :
    ∃ before value after, entries = before ++ (key, value) :: after ∧
      ∀ other, other ∈ earlier ↔ ∃ given, (other, given) ∈ before := by
  induction entries using List.reverseRecOn generalizing later with
  | nil => simp [ofList, insertAll, keys, empty] at hkeys
  | append_singleton entries entry ih =>
    obtain ⟨last, given⟩ := entry
    rw [ofList_append_singleton, keys_insert] at hkeys
    split at hkeys
    · obtain ⟨before, value, after, rfl, hbefore⟩ := ih hkeys
      exact ⟨before, value, after ++ [(last, given)], by simp, hbefore⟩
    · -- The new key is the last one, which is either the key itself or comes after it.
      rcases List.eq_nil_or_concat later with rfl | ⟨others, final, rfl⟩
      · obtain ⟨hearlier, hlast⟩ := List.append_inj' hkeys rfl
        cases hlast
        refine ⟨entries, given, [], rfl, ?_⟩
        intro other
        rw [← hearlier, mem_keys_ofList_iff]
      · have hinit : (ofList entries).keys ++ [last] = (earlier ++ key :: others) ++ [final] := by
          rw [hkeys]
          simp
        obtain ⟨before, value, after, rfl, hbefore⟩ := ih (List.append_inj' hinit rfl).1
        exact ⟨before, value, after ++ [(last, given)], by simp, hbefore⟩

/-! ### Merging -/

theorem get?_insertAll (table : Table κ α) (entries : List (κ × α)) (key : κ) :
    (table.insertAll entries).get? key = ((ofList entries).get? key).or (table.get? key) := by
  induction entries using List.reverseRecOn with
  | nil => rfl
  | append_singleton entries entry ih =>
    have hlast : table.insertAll (entries ++ [entry]) = (table.insertAll entries).insert entry.1 entry.2 :=
      insertAll_append table entries [entry]
    rw [hlast, ofList_append_singleton, get?_insert, get?_insert, ih]
    split <;> rfl

theorem keys_insertAll (table : Table κ α) (entries : List (κ × α)) :
    (table.insertAll entries).keys = table.keys ++ (ofList entries).keys.filter (· ∉ table.keys) := by
  induction entries using List.reverseRecOn with
  | nil => exact (List.append_nil _).symm
  | append_singleton entries entry ih =>
    have hlast : table.insertAll (entries ++ [entry]) = (table.insertAll entries).insert entry.1 entry.2 :=
      insertAll_append table entries [entry]
    have hmem : entry.1 ∈ (table.insertAll entries).keys ↔ entry.1 ∈ table.keys ∨ entry.1 ∈ (ofList entries).keys := by
      rw [ih, List.mem_append, List.mem_filter, decide_eq_true_eq]
      tauto
    rw [hlast, ofList_append_singleton, keys_insert, keys_insert]
    by_cases htable : entry.1 ∈ table.keys
    · rw [if_pos (hmem.2 (Or.inl htable)), ih]
      split
      · rfl
      · simp [htable]
    · by_cases hgiven : entry.1 ∈ (ofList entries).keys
      · rw [if_pos (hmem.2 (Or.inr hgiven)), if_pos hgiven, ih]
      · rw [if_neg (fun h => (hmem.1 h).elim htable hgiven), if_neg hgiven, ih]
        simp [htable]

theorem get?_merge (table other : Table κ α) (key : κ) :
    (table.merge other).get? key = (other.get? key).or (table.get? key) := by
  rw [merge, get?_insertAll, ofList_entries]

theorem keys_merge (table other : Table κ α) :
    (table.merge other).keys = table.keys ++ other.keys.filter (· ∉ table.keys) := by
  rw [merge, keys_insertAll, ofList_entries]

theorem entries_eq_filterMap_keys (table : Table κ α) :
    table.entries = table.keys.filterMap fun key => (table.get? key).map (key, ·) := by
  have hfound : ∀ entry ∈ table.entries, some entry = (table.get? entry.1).map (entry.1, ·) := by
    intro entry hentry
    rw [get?_eq_some_iff.2 hentry]
    rfl
  calc table.entries
    _ = table.entries.filterMap some := List.filterMap_some.symm
    _ = table.entries.filterMap fun entry => (table.get? entry.1).map (entry.1, ·) := List.filterMap_congr hfound
    _ = _ := by rw [keys, List.filterMap_map, Function.comp_def]

/-- Tables with the same keys in the same order and the same values are the same. -/
theorem ext_keys_get? {table other : Table κ α} (hkeys : table.keys = other.keys)
    (hvalues : ∀ key, table.get? key = other.get? key) : table = other := by
  refine ext_entries ?_
  rw [entries_eq_filterMap_keys table, entries_eq_filterMap_keys other, hkeys]
  simp only [hvalues]

/-- Entries written into a table after others are merged into it as a table of their own. -/
theorem merge_ofList (table : Table κ α) (entries : List (κ × α)) :
    table.merge (ofList entries) = table.insertAll entries := by
  refine ext_keys_get? ?_ ?_
  · rw [keys_merge, keys_insertAll]
  · intro key
    rw [get?_merge, get?_insertAll]

theorem ofList_append (left right : List (κ × α)) : ofList (left ++ right) = (ofList left).merge (ofList right) := by
  rw [merge_ofList, ofList, insertAll_append]
  rfl

/-! ### Equality as mappings -/

theorem sameMapping_iff_perm [DecidableEq α] {table other : Table κ α} :
    table.sameMapping other = true ↔ table.entries.Perm other.entries := by
  simp only [sameMapping, Bool.and_eq_true, decide_eq_true_eq, List.all_eq_true, get?_eq_some_iff]
  constructor
  · intro h
    obtain ⟨hlength, hmem⟩ := h
    have hnodup : table.entries.Nodup := List.Nodup.of_map Prod.fst table.nodup_keys
    have hsubperm := List.subperm_of_subset hnodup hmem
    exact hsubperm.perm_of_length_le (Nat.le_of_eq hlength.symm)
  · intro hperm
    exact ⟨hperm.length_eq, fun entry hentry => hperm.mem_iff.1 hentry⟩

/-- The tables have the same value under each key, or both have none. -/
def SameValues (table other : Table κ α) : Prop :=
  ∀ key, table.get? key = other.get? key

theorem sameValues_iff_perm {table other : Table κ α} :
    table.SameValues other ↔ table.entries.Perm other.entries := by
  have hnodup : table.entries.Nodup := List.Nodup.of_map Prod.fst table.nodup_keys
  have hnodup' : other.entries.Nodup := List.Nodup.of_map Prod.fst other.nodup_keys
  rw [List.perm_ext_iff_of_nodup hnodup hnodup']
  constructor
  · intro hvalues entry
    rw [← get?_eq_some_iff, ← get?_eq_some_iff, hvalues entry.1]
  · intro hmem key
    ext value
    rw [get?_eq_some_iff, get?_eq_some_iff, hmem]

/-- Writing entries that leave every value as it is leaves the table as it is. -/
theorem insertAll_of_sameValues {table : Table κ α} {entries : List (κ × α)} (hnodup : (entries.map Prod.fst).Nodup)
    (hsame : (table.insertAll entries).SameValues table) : table.insertAll entries = table := by
  apply insertAll_of_get?
  intro entry hentry
  rw [← hsame entry.1, get?_insertAll_of_mem hnodup hentry]

theorem sameMapping_iff_sameValues [DecidableEq α] {table other : Table κ α} :
    table.sameMapping other = true ↔ table.SameValues other :=
  sameMapping_iff_perm.trans sameValues_iff_perm.symm

end AccessScopes.Table
