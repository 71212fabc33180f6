import AccessScopes.Proofs.EnvFile.Resolution
import AccessScopes.Proofs.Table.Entries

/-!
# What loading a file does to an environment

Values are stored one at a time, and the first that the environment refuses ends the loading. So either
the environment accepts every value that the file leaves and has them all afterwards, or it has those of
the variables that are first bound before the refused one. Every other variable is as it was.
-/

namespace AccessScopes.EnvFile

/-- The environment has every value that the bindings leave, and is otherwise as it was. -/
structure Overrides (before : Environment) (bindings : List Binding) (after : Environment) : Prop where
  given : ∀ name value, Leaves before bindings name value → after.get? name = some value
  kept : ∀ name, (∀ value, ¬ Leaves before bindings name value) → after.get? name = before.get? name

/-- A variable is the first, in the order in which the bindings first name them, that is left with a value
that the environment refuses. The environment has the values of those before it, and is otherwise as it
was. -/
structure StopsAt (before : Environment) (bindings : List Binding) (stop : String) (refusal : Environment.Refusal)
    (after : Environment) : Prop where
  refused : ∃ value, Leaves before bindings stop value ∧ Environment.problem? stop value = some refusal
  first : ∀ name value, BoundBefore bindings name stop → Leaves before bindings name value →
    Environment.problem? name value = none
  given : ∀ name value, BoundBefore bindings name stop → Leaves before bindings name value →
    after.get? name = some value
  kept : ∀ name, (∀ value, BoundBefore bindings name stop → ¬ Leaves before bindings name value) →
    after.get? name = before.get? name

/-! ### Storing -/

/-- The variables that have a value. -/
def valued (entries : List (String × Option String)) : List (String × String) :=
  entries.filterMap fun entry => entry.2.map (entry.1, ·)

/-- An environment can hold the value of the entry, if it has one. -/
def Accepted (entry : String × Option String) : Prop :=
  ∀ value ∈ entry.2, Environment.problem? entry.1 value = none

variable {environment : Environment} {entries before after : List (String × Option String)}
  {name value : String} {refusal : Environment.Refusal}

theorem mem_valued_iff : (name, value) ∈ valued entries ↔ (name, some value) ∈ entries := by
  rw [valued, List.mem_filterMap]
  constructor
  · intro h
    obtain ⟨⟨key, text⟩, hentry, hmap⟩ := h
    obtain ⟨_, rfl, hpair⟩ := Option.map_eq_some_iff.1 hmap
    cases hpair
    exact hentry
  · intro hentry
    exact ⟨_, hentry, rfl⟩

theorem keys_valued_sublist (entries : List (String × Option String)) :
    ((valued entries).map Prod.fst).Sublist (entries.map Prod.fst) := by
  induction entries with
  | nil => exact List.Sublist.refl _
  | cons entry entries ih =>
    obtain ⟨name, value⟩ := entry
    cases value with
    | none => exact ih.cons name
    | some value => exact ih.cons_cons name

theorem get?_insertAll_valued_of_mem (hnodup : (entries.map Prod.fst).Nodup) (hmem : (name, some value) ∈ entries) :
    (environment.insertAll (valued entries)).get? name = some value :=
  Table.get?_insertAll_of_mem (hnodup.sublist (keys_valued_sublist entries)) (mem_valued_iff.2 hmem)

theorem get?_insertAll_valued_of_not_mem (hmem : ∀ value, (name, some value) ∉ entries) :
    (environment.insertAll (valued entries)).get? name = environment.get? name := by
  apply Table.get?_insertAll_of_not_mem
  intro entry hentry heq
  subst heq
  exact hmem entry.2 (mem_valued_iff.1 hentry)

/-- Accepted values are stored before the rest. -/
theorem store_append (haccepted : ∀ entry ∈ before, Accepted entry) (rest : List (String × Option String)) :
    store environment (before ++ rest) = store (environment.insertAll (valued before)) rest := by
  induction before generalizing environment with
  | nil => rfl
  | cons entry before ih =>
    obtain ⟨name, value⟩ := entry
    have hrest := fun environment => @ih environment fun other hother => haccepted other (List.mem_cons_of_mem _ hother)
    cases value with
    | none => exact hrest environment
    | some value =>
      have hset : environment.set name value = .ok (environment.insert name value) :=
        Environment.set_eq_ok_iff.2 ⟨haccepted _ List.mem_cons_self value rfl, rfl⟩
      rw [List.cons_append, store, hset]
      exact hrest (environment.insert name value)

theorem store_of_accepted (haccepted : ∀ entry ∈ entries, Accepted entry) :
    store environment entries = (.ok (), environment.insertAll (valued entries)) := by
  have hstore : store environment (entries ++ []) = store (environment.insertAll (valued entries)) [] :=
    store_append haccepted []
  rw [List.append_nil] at hstore
  exact hstore

/-- Storing ends at a refused value. -/
theorem store_of_refused (haccepted : ∀ entry ∈ before, Accepted entry)
    (hrefused : Environment.problem? name value = some refusal) :
    store environment (before ++ (name, some value) :: after) =
      (.error refusal, environment.insertAll (valued before)) := by
  have hset : ∀ environment : Environment, environment.set name value = .error refusal := by
    intro environment
    rw [Environment.set, hrefused]
  rw [store_append haccepted, store, hset]

/-- Either every value is accepted, or there is a first one that is refused. -/
theorem accepted_or_refused (entries : List (String × Option String)) :
    (∀ entry ∈ entries, Accepted entry) ∨
      ∃ before name value after refusal, entries = before ++ (name, some value) :: after ∧
        (∀ entry ∈ before, Accepted entry) ∧ Environment.problem? name value = some refusal := by
  have hnone : ∀ entry ∈ ([] : List (String × Option String)), Accepted entry :=
    fun entry hentry => absurd hentry List.not_mem_nil
  induction entries with
  | nil => exact Or.inl hnone
  | cons entry entries ih =>
    obtain ⟨name, value⟩ := entry
    by_cases haccepted : Accepted (name, value)
    · rcases ih with hall | ⟨before, stop, refused, after, refusal, hentries, hbefore, hrefused⟩
      · exact Or.inl (List.forall_mem_cons.2 ⟨haccepted, hall⟩)
      · refine Or.inr ⟨(name, value) :: before, stop, refused, after, refusal, ?_, ?_, hrefused⟩
        · rw [hentries, List.cons_append]
        · exact List.forall_mem_cons.2 ⟨haccepted, hbefore⟩
    · simp only [Accepted, not_forall] at haccepted
      obtain ⟨refused, hvalue, hproblem⟩ := haccepted
      obtain ⟨refusal, hrefused⟩ := Option.ne_none_iff_exists'.1 hproblem
      cases hvalue
      exact Or.inr ⟨[], name, refused, entries, refusal, rfl, hnone, hrefused⟩

/-! ### Loading -/

variable {bindings : List Binding}

theorem mem_entries_resolve_iff :
    (name, some value) ∈ (resolve environment bindings).entries ↔ Leaves environment bindings name value := by
  rw [← Table.get?_eq_some_iff, get?_resolve_eq_some_iff]

theorem accepted_resolve_iff :
    (∀ entry ∈ (resolve environment bindings).entries, Accepted entry) ↔
      ∀ name value, Leaves environment bindings name value → Environment.problem? name value = none := by
  constructor
  · intro haccepted name value hleaves
    exact haccepted _ (mem_entries_resolve_iff.2 hleaves) value rfl
  · intro haccepted entry hentry value hvalue
    obtain ⟨name, _⟩ := entry
    cases hvalue
    exact haccepted name value (mem_entries_resolve_iff.1 hentry)

theorem overrides_insertAll (environment : Environment) (bindings : List Binding) :
    Overrides environment bindings (environment.insertAll (valued (resolve environment bindings).entries)) := by
  constructor
  · intro name value hleaves
    exact get?_insertAll_valued_of_mem (resolve environment bindings).nodup_keys (mem_entries_resolve_iff.2 hleaves)
  · intro name hnone
    apply get?_insertAll_valued_of_not_mem
    intro value hmem
    exact hnone value (mem_entries_resolve_iff.1 hmem)

/-- The values before one of the variables are those of the variables that are first bound before it. -/
theorem mem_before_iff {stop : String} {last : Option String}
    (hentries : (resolve environment bindings).entries = before ++ (stop, last) :: after) :
    (name, some value) ∈ before ↔ BoundBefore bindings name stop ∧ Leaves environment bindings name value := by
  have hkeys : (resolve environment bindings).keys = before.map Prod.fst ++ stop :: after.map Prod.fst := by
    rw [Table.keys, hentries, List.map_append, List.map_cons]
  have hnodup := (resolve environment bindings).nodup_keys
  rw [hentries, List.map_append] at hnodup
  rw [← mem_before_iff_boundBefore hkeys, ← mem_entries_resolve_iff, hentries, List.mem_append]
  constructor
  · intro hmem
    exact ⟨List.mem_map_of_mem hmem, Or.inl hmem⟩
  · intro h
    obtain ⟨hname, hbefore | hrest⟩ := h
    · exact hbefore
    · exact absurd rfl ((List.nodup_append.1 hnodup).2.2 _ hname _ (List.mem_map_of_mem hrest))

theorem stopsAt_insertAll {stop : String} (hbefore : ∀ entry ∈ before, Accepted entry)
    (hentries : (resolve environment bindings).entries = before ++ (stop, some value) :: after)
    (hrefused : Environment.problem? stop value = some refusal) :
    StopsAt environment bindings stop refusal (environment.insertAll (valued before)) := by
  have hnodup := (resolve environment bindings).nodup_keys
  rw [hentries, List.map_append] at hnodup
  refine ⟨⟨value, mem_entries_resolve_iff.1 ?_, hrefused⟩, ?_, ?_, ?_⟩
  · rw [hentries]
    exact List.mem_append_right _ List.mem_cons_self
  · intro name value hbound hleaves
    exact hbefore _ ((mem_before_iff hentries).2 ⟨hbound, hleaves⟩) value rfl
  · intro name value hbound hleaves
    exact get?_insertAll_valued_of_mem (List.nodup_append.1 hnodup).1 ((mem_before_iff hentries).2 ⟨hbound, hleaves⟩)
  · intro name hnone
    apply get?_insertAll_valued_of_not_mem
    intro value hmem
    obtain ⟨hbound, hleaves⟩ := (mem_before_iff hentries).1 hmem
    exact hnone value hbound hleaves

/-- What loading bindings can come to. -/
inductive Loading (environment : Environment) (bindings : List Binding) :
    Except Environment.Refusal Unit × Environment → Prop
  | all (after : Environment)
      (haccepted : ∀ name value, Leaves environment bindings name value → Environment.problem? name value = none)
      (hoverrides : Overrides environment bindings after) : Loading environment bindings (.ok (), after)
  | upTo (stop : String) (refusal : Environment.Refusal) (after : Environment)
      (hstops : StopsAt environment bindings stop refusal after) : Loading environment bindings (.error refusal, after)

theorem load_loading (environment : Environment) (text : String) :
    Loading environment (EnvFile.bindings text) (load environment text) := by
  rw [load]
  rcases accepted_or_refused (resolve environment (EnvFile.bindings text)).entries with
    hall | ⟨before, stop, value, after, refusal, hentries, hbefore, hrefused⟩
  · rw [store_of_accepted hall]
    exact .all _ (accepted_resolve_iff.1 hall) (overrides_insertAll environment (EnvFile.bindings text))
  · rw [hentries, store_of_refused hbefore hrefused]
    exact .upTo stop refusal _ (stopsAt_insertAll hbefore hentries hrefused)

/-- Loading that leaves every variable as it is leaves the environment as it is. -/
theorem load_of_sameValues {text : String} (hsame : (load environment text).2.SameValues environment) :
    (load environment text).2 = environment := by
  have hnodup := (resolve environment (EnvFile.bindings text)).nodup_keys
  rw [load] at hsame ⊢
  rcases accepted_or_refused (resolve environment (EnvFile.bindings text)).entries with
    hall | ⟨before, stop, value, after, refusal, hentries, hbefore, hrefused⟩
  · rw [store_of_accepted hall] at hsame ⊢
    exact Table.insertAll_of_sameValues (hnodup.sublist (keys_valued_sublist _)) hsame
  · rw [hentries, List.map_append] at hnodup
    rw [hentries, store_of_refused hbefore hrefused] at hsame ⊢
    exact Table.insertAll_of_sameValues ((List.nodup_append.1 hnodup).1.sublist (keys_valued_sublist before)) hsame

end AccessScopes.EnvFile
