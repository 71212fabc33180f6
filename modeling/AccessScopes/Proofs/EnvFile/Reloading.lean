import AccessScopes.Proofs.EnvFile.Loading

/-!
# Loading a file a second time

The first loading writes into the environment that the second one reads. It changes only variables that
the file binds, so a file in which every reference looks up at earlier bindings, or at a variable that the
file never binds, comes to the same values again, and storing them again changes nothing.
-/

namespace AccessScopes.EnvFile

/-- Every reference names a variable that is bound above it, or one that is bound nowhere. -/
def NoForwardReferences (bindings : List Binding) : Prop :=
  ∀ earlier binding later, bindings = earlier ++ binding :: later → ∀ reference ∈ binding.references,
    reference.name ∈ earlier.map Binding.key ∨ reference.name ∉ bindings.map Binding.key

variable {environment other : Environment} {bindings : List Binding}

theorem noForwardReferences_iff :
    NoForwardReferences bindings ↔ ∀ index (hindex : index < bindings.length),
      ∀ reference ∈ bindings[index].references,
        reference.name ∈ (bindings.take index).map Binding.key ∨ reference.name ∉ bindings.map Binding.key := by
  constructor
  · intro hforward index hindex
    apply hforward (bindings.take index) bindings[index] (bindings.drop (index + 1))
    rw [← List.drop_eq_getElem_cons hindex, List.take_append_drop]
  · intro hforward earlier binding later hbindings
    subst hbindings
    have hbinding := hforward earlier.length (by simp)
    rw [List.getElem_append_right (Nat.le_refl _), List.take_left] at hbinding
    simpa using hbinding

instance (bindings : List Binding) : Decidable (NoForwardReferences bindings) :=
  decidable_of_iff _ noForwardReferences_iff.symm

/-! ### Values -/

/-- A template depends on the variables that it refers to. -/
theorem Template.expand_congr {template : Template} {lookup more : String → Option (Option String)}
    (hlookup : ∀ reference ∈ template.references, more reference.name = lookup reference.name) :
    template.expand more = template.expand lookup := by
  have hsegments : ∀ segment ∈ template, expandSegment more segment = expandSegment lookup segment := by
    intro segment hsegment
    cases segment with
    | plain c => rfl
    | reference reference =>
      have hreference : reference ∈ template.references := List.mem_filterMap.2 ⟨_, hsegment, rfl⟩
      rw [expandSegment, expandSegment, Reference.value, Reference.value, hlookup reference hreference]
  rw [expand, expand, List.flatMap_def, List.flatMap_def, List.map_congr_left hsegments]

/-- A reference means the same below the same bindings, if they bind it or the environments agree on it. -/
theorem lookup_congr {above : List Binding} {name : String}
    (hname : name ∈ above.map Binding.key ∨ other.get? name = environment.get? name) :
    lookup other (resolve environment above) name = lookup environment (resolve environment above) name := by
  rw [lookup, lookup]
  cases hget : (resolve environment above).get? name with
  | some value => rfl
  | none =>
    have hfree : name ∉ above.map Binding.key := mt mem_keys_resolve_iff.2 (Table.get?_eq_none_iff.1 hget)
    rw [hname.resolve_left hfree]

theorem assign_congr {above : List Binding} {binding : Binding}
    (hreferences : ∀ reference ∈ binding.references,
      reference.name ∈ above.map Binding.key ∨ other.get? reference.name = environment.get? reference.name) :
    assign other (resolve environment above) binding = assign environment (resolve environment above) binding := by
  obtain ⟨key, value⟩ := binding
  cases value with
  | none => rfl
  | some value =>
    have hexpand : (Template.parse value.toList).expand (lookup other (resolve environment above)) =
        (Template.parse value.toList).expand (lookup environment (resolve environment above)) :=
      Template.expand_congr fun reference hreference => lookup_congr (hreferences reference hreference)
    simp only [assign, Option.map_some, hexpand]

/-- Without forward references the values depend on those variables alone that the file does not bind. -/
theorem resolve_congr (hforward : NoForwardReferences bindings)
    (hget : ∀ name, name ∉ bindings.map Binding.key → other.get? name = environment.get? name) :
    resolve other bindings = resolve environment bindings := by
  have hprefix : ∀ earlier later, bindings = earlier ++ later →
      resolve other earlier = resolve environment earlier := by
    intro earlier
    induction earlier using List.reverseRecOn with
    | nil =>
      intro later _
      rw [resolve_nil, resolve_nil]
    | append_singleton earlier binding ih =>
      intro later hbindings
      rw [List.append_assoc, List.singleton_append] at hbindings
      rw [resolve_concat, resolve_concat, ih _ hbindings]
      apply assign_congr
      intro reference hreference
      exact (hforward earlier binding later hbindings reference hreference).imp_right (hget reference.name)
  exact hprefix bindings [] (List.append_nil bindings).symm

/-! ### Storing again -/

theorem insertAll_insertAll_valued {entries : List (String × Option String)}
    (hnodup : (entries.map Prod.fst).Nodup) (environment : Environment) :
    (environment.insertAll (valued entries)).insertAll (valued entries) = environment.insertAll (valued entries) := by
  apply Table.insertAll_of_get?
  intro entry hentry
  exact get?_insertAll_valued_of_mem hnodup (mem_valued_iff.1 hentry)

/-- Storing the same values again comes to the same end and changes nothing. -/
theorem store_store {entries : List (String × Option String)} (hnodup : (entries.map Prod.fst).Nodup)
    (environment : Environment) : store (store environment entries).2 entries = store environment entries := by
  rcases accepted_or_refused entries with hall | ⟨before, name, value, after, refusal, rfl, hbefore, hrefused⟩
  · rw [store_of_accepted hall, store_of_accepted hall, insertAll_insertAll_valued hnodup]
  · rw [List.map_append] at hnodup
    have hstored := insertAll_insertAll_valued (List.nodup_append.1 hnodup).1 environment
    rw [store_of_refused hbefore hrefused, store_of_refused hbefore hrefused, hstored]

/-- Loading writes no variable that the file does not bind. -/
theorem get?_load_of_unbound {text name : String} (hname : name ∉ (EnvFile.bindings text).map Binding.key) :
    (load environment text).2.get? name = environment.get? name := by
  have hfree : ∀ value, ¬ Leaves environment (EnvFile.bindings text) name value := by
    intro value hleaves
    obtain ⟨earlier, value, later, hbindings, -, -⟩ := hleaves
    rw [hbindings, List.map_append, List.map_cons] at hname
    exact hname (List.mem_append_right _ List.mem_cons_self)
  have hloading := load_loading environment text
  generalize load environment text = loaded at hloading
  cases hloading with
  | all after _ hoverrides => exact hoverrides.kept name hfree
  | upTo stop refusal after hstops => exact hstops.kept name fun value _ => hfree value

theorem load_load {text : String} (hforward : NoForwardReferences (EnvFile.bindings text)) (environment : Environment) :
    load (load environment text).2 text = load environment text := by
  have hload : load environment text = store environment (resolve environment (EnvFile.bindings text)).entries := by
    rw [load]
  have hresolve : resolve (load environment text).2 (EnvFile.bindings text) =
      resolve environment (EnvFile.bindings text) :=
    resolve_congr hforward fun name hname => get?_load_of_unbound hname
  rw [load, hresolve, hload]
  exact store_store (resolve environment (EnvFile.bindings text)).nodup_keys environment

/-- With a forward reference the second loading goes on from what the first one left. -/
example :
    let bindings : List Binding := [⟨"A", some "$\x7bB\x7d"⟩, ⟨"B", some "1"⟩]
    let first := (store ∅ (resolve ∅ bindings).entries).2
    first.get? "A" = some "" ∧ (store first (resolve first bindings).entries).2.get? "A" = some "1" := by
  decide +kernel

end AccessScopes.EnvFile
