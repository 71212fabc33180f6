import AccessScopes.EnvFile.Assignment
import Mathlib.Data.List.Induction
import Mathlib.Data.List.Infix

/-!
# What the bindings of a file come to

The values that bindings give, told by the bindings alone: a reference means what the latest binding
above it gives to its name, and what a file leaves a variable with is what the last binding of the
variable gives. The assignments that are built binding by binding hold exactly these values, in the order
in which the variables are first bound.
-/

namespace AccessScopes.EnvFile

/-- What a name means below bindings, the latest of them first: what the latest binding of the name
gives, and the variable of the environment if there is none. -/
def meaning (environment : Environment) : List Binding → String → Option (Option String)
  | [], name => (environment.get? name).map some
  | binding :: above, name =>
    if binding.key = name then
      some (binding.value.map fun value => (Template.parse value.toList).expand (meaning environment above))
    else meaning environment above name

/-- What a value comes to below earlier bindings. -/
def resolved (environment : Environment) (earlier : List Binding) (value : String) : String :=
  (Template.parse value.toList).expand (meaning environment earlier.reverse)

/-- The last binding of the name carries a value, and it comes to the given one. -/
def Leaves (environment : Environment) (bindings : List Binding) (name value : String) : Prop :=
  ∃ earlier text later, bindings = earlier ++ ⟨name, some text⟩ :: later ∧
    (∀ other ∈ later, other.key ≠ name) ∧ resolved environment earlier text = value

/-- The first name is bound before the second is bound for the first time. -/
def BoundBefore (bindings : List Binding) (name other : String) : Prop :=
  ∃ earlier later, bindings = earlier ++ later ∧ name ∈ earlier.map Binding.key ∧ other ∉ earlier.map Binding.key

variable {environment : Environment} {bindings earlier later : List Binding} {binding : Binding}
  {name other value : String}

/-! ### Values -/

theorem resolve_nil (environment : Environment) : resolve environment [] = ∅ :=
  rfl

theorem resolve_concat (environment : Environment) (bindings : List Binding) (binding : Binding) :
    resolve environment (bindings ++ [binding]) = assign environment (resolve environment bindings) binding := by
  rw [resolve, List.foldl_concat]
  rfl

theorem get?_assign (above : Assignments) (binding : Binding) (name : String) :
    (assign environment above binding).get? name =
      if name = binding.key then
        some (binding.value.map fun value => (Template.parse value.toList).expand (lookup environment above))
      else above.get? name :=
  Table.get?_insert above binding.key name _

/-- A reference is looked up as the bindings above it have it. -/
theorem lookup_resolve (environment : Environment) (bindings : List Binding) :
    lookup environment (resolve environment bindings) = meaning environment bindings.reverse := by
  induction bindings using List.reverseRecOn with
  | nil => rfl
  | append_singleton bindings binding ih =>
    funext name
    rw [List.reverse_append, List.reverse_singleton, List.singleton_append, resolve_concat, lookup, get?_assign,
      meaning, ← ih]
    by_cases hkey : binding.key = name
    · rw [if_pos hkey.symm, if_pos hkey]
    · rw [if_neg (Ne.symm hkey), if_neg hkey]
      rfl

/-- What a file leaves a variable with, by its last line. -/
theorem leaves_concat_iff :
    Leaves environment (bindings ++ [binding]) name value ↔
      if binding.key = name then ∃ text, binding.value = some text ∧ resolved environment bindings text = value
      else Leaves environment bindings name value := by
  constructor
  · intro h
    obtain ⟨earlier, text, later, hbindings, hlater, hvalue⟩ := h
    rcases List.eq_nil_or_concat later with rfl | ⟨rest, last, rfl⟩
    · obtain ⟨rfl, hlast⟩ := List.append_inj' hbindings rfl
      rw [List.singleton_inj] at hlast
      subst hlast
      rw [if_pos rfl]
      exact ⟨text, rfl, hvalue⟩
    · rw [List.concat_eq_append] at hbindings hlater
      rw [← List.cons_append, ← List.append_assoc] at hbindings
      obtain ⟨rfl, hlast⟩ := List.append_inj' hbindings rfl
      rw [List.singleton_inj] at hlast
      subst hlast
      rw [if_neg (hlater binding (by simp))]
      exact ⟨earlier, text, rest, rfl, fun other hother => hlater other (by simp [hother]), hvalue⟩
  · intro h
    split at h
    · rename_i hkey
      obtain ⟨text, htext, hvalue⟩ := h
      refine ⟨bindings, text, [], ?_, by simp, hvalue⟩
      rw [← htext, ← hkey]
    · rename_i hkey
      obtain ⟨earlier, text, later, rfl, hlater, hvalue⟩ := h
      refine ⟨earlier, text, later ++ [binding], by simp, ?_, hvalue⟩
      intro other hother
      rcases List.mem_append.1 hother with hother | hother
      · exact hlater other hother
      · rw [List.mem_singleton.1 hother]
        exact hkey

/-- The assignments of a file hold what it leaves its variables with. -/
theorem get?_resolve_eq_some_iff :
    (resolve environment bindings).get? name = some (some value) ↔ Leaves environment bindings name value := by
  induction bindings using List.reverseRecOn with
  | nil =>
    constructor
    · intro hget
      cases hget
    · intro h
      obtain ⟨earlier, text, later, hbindings, -, -⟩ := h
      simp at hbindings
  | append_singleton bindings binding ih =>
    rw [resolve_concat, get?_assign, leaves_concat_iff, ← ih]
    by_cases hkey : binding.key = name
    · rw [if_pos hkey.symm, if_pos hkey, Option.some_inj, Option.map_eq_some_iff]
      simp only [resolved, lookup_resolve]
    · rw [if_neg (Ne.symm hkey), if_neg hkey]

/-! ### Order -/

theorem keys_assign (above : Assignments) (binding : Binding) :
    (assign environment above binding).keys =
      if binding.key ∈ above.keys then above.keys else above.keys ++ [binding.key] :=
  Table.keys_insert above binding.key _

theorem mem_keys_resolve_iff :
    name ∈ (resolve environment bindings).keys ↔ name ∈ bindings.map Binding.key := by
  induction bindings using List.reverseRecOn with
  | nil => exact Iff.rfl
  | append_singleton bindings binding ih =>
    rw [resolve_concat, keys_assign, List.map_append, List.map_singleton, List.mem_append, List.mem_singleton, ← ih]
    split
    · rename_i hkey
      constructor
      · exact Or.inl
      · intro h
        rcases h with h | rfl
        · exact h
        · exact hkey
    · rw [List.mem_append, List.mem_singleton]

/-- Further bindings add variables behind those that are there. -/
theorem keys_resolve_prefix (environment : Environment) (earlier later : List Binding) :
    (resolve environment earlier).keys <+: (resolve environment (earlier ++ later)).keys := by
  induction later using List.reverseRecOn with
  | nil => rw [List.append_nil]
  | append_singleton later binding ih =>
    rw [← List.append_assoc, resolve_concat, keys_assign]
    split
    · exact ih
    · exact ih.trans (List.prefix_append _ _)

theorem mem_of_prefix_concat {all before marked : List String} (hbefore : before <+: all)
    (hmarked : marked ++ [other] <+: all) (hother : other ∉ before) (hname : name ∈ before) : name ∈ marked := by
  rcases List.prefix_or_prefix_of_prefix hbefore hmarked with hshort | hlong
  · have hmem := hshort.subset hname
    rw [List.mem_append, List.mem_singleton] at hmem
    rcases hmem with hmem | rfl
    · exact hmem
    · exact absurd hname hother
  · exact absurd (hlong.subset (List.mem_append_right _ List.mem_cons_self)) hother

/-- The variables stand in the order of their first bindings. -/
theorem mem_before_iff_boundBefore {before after : List String}
    (hkeys : (resolve environment bindings).keys = before ++ other :: after) :
    name ∈ before ↔ BoundBefore bindings name other := by
  have hnodup := (resolve environment bindings).nodup_keys
  rw [← Table.keys, hkeys] at hnodup
  have hother : other ∉ before := fun hmem => (List.nodup_append.1 hnodup).2.2 _ hmem _ List.mem_cons_self rfl
  have hbefore : before <+: (resolve environment bindings).keys := ⟨other :: after, hkeys.symm⟩
  have hmarked : before ++ [other] <+: (resolve environment bindings).keys := by
    rw [hkeys, List.append_cons before other after]
    exact List.prefix_append _ _
  constructor
  · intro hname
    -- The file is cut at the first binding of the other variable.
    have hbound : other ∈ bindings.map Binding.key := by
      rw [← mem_keys_resolve_iff, hkeys]
      exact List.mem_append_right _ List.mem_cons_self
    obtain ⟨keys, rest, hsplit, hfree⟩ := List.eq_append_cons_of_mem hbound
    obtain ⟨earlier, later, rfl, rfl, hlater⟩ := List.map_eq_append_iff.1 hsplit
    obtain ⟨first, others, rfl, hfirst, -⟩ := List.map_eq_cons_iff.1 hlater
    have hcut : (resolve environment earlier).keys ++ [other] <+:
        (resolve environment (earlier ++ first :: others)).keys := by
      have hprefix := keys_resolve_prefix environment (earlier ++ [first]) others
      rw [resolve_concat, keys_assign, hfirst, if_neg (mt mem_keys_resolve_iff.1 hfree), ← List.append_cons] at hprefix
      exact hprefix
    exact ⟨earlier, first :: others, rfl, mem_keys_resolve_iff.1 (mem_of_prefix_concat hbefore hcut hother hname), hfree⟩
  · intro h
    obtain ⟨earlier, later, rfl, hname, hfree⟩ := h
    have hprefix := keys_resolve_prefix environment earlier later
    exact mem_of_prefix_concat hprefix hmarked (mt mem_keys_resolve_iff.1 hfree) (mem_keys_resolve_iff.2 hname)

end AccessScopes.EnvFile
