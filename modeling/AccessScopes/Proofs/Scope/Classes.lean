import AccessScopes.Proofs.Scope.Equivalence
import Mathlib.Data.Finset.Card

/-!
# Sets of scopes

A set of scopes looks for a member by the hash of its key and then by equality. Since equal scopes have
one key, no choice of the hash can part equal scopes or merge others, and a set has one member for each
class of equal scopes. The number of classes does not depend on the order in which scopes come.
-/

namespace AccessScopes.Scope

/-! ### Classes -/

theorem equivalent?_iff_content {left right : Option Scope} :
    equivalent? left right = true ↔ left.map content = right.map content := by
  cases left with
  | none => cases right <;> simp [equivalent?]
  | some left =>
    cases right with
    | none => simp [equivalent?]
    | some right => simp [equivalent?, equivalent_iff_content]

/-- Equality of scopes that may be missing. -/
instance equalScopes : Setoid (Option Scope) where
  r left right := equivalent? left right = true
  iseqv := by
    simp only [equivalent?_iff_content]
    exact eq_equivalence.comap (Option.map content)

instance (left right : Option Scope) : Decidable (left ≈ right) :=
  inferInstanceAs (Decidable (equivalent? left right = true))

/-- The classes of equal scopes that a list meets; the missing scope is a class of its own. -/
def classes (scopes : List (Option Scope)) : Finset (Quotient equalScopes) :=
  (scopes.map (Quotient.mk equalScopes)).toFinset

variable {scopes others : List (Option Scope)} {scope : Option Scope}

theorem mk_mem_classes_iff :
    Quotient.mk equalScopes scope ∈ classes scopes ↔ ∃ other ∈ scopes, equivalent? other scope = true := by
  rw [classes, List.mem_toFinset, List.mem_map]
  simp only [Quotient.eq]
  rfl

theorem classes_cons (scope : Option Scope) (rest : List (Option Scope)) :
    classes (scope :: rest) = insert (Quotient.mk equalScopes scope) (classes rest) := by
  rw [classes, List.map_cons, List.toFinset_cons, ← classes]

theorem equivalent?_comm (left right : Option Scope) : equivalent? left right = equivalent? right left := by
  rw [Bool.eq_iff_iff, equivalent?_iff_content, equivalent?_iff_content, eq_comm]

theorem countDistinct_eq_card (scopes : List (Option Scope)) : countDistinct scopes = (classes scopes).card := by
  induction scopes with
  | nil => rfl
  | cons scope rest ih =>
    have hmem : Quotient.mk equalScopes scope ∈ classes rest ↔ rest.any (equivalent? scope) = true := by
      simp only [mk_mem_classes_iff, List.any_eq_true, equivalent?_comm]
    rw [countDistinct, classes_cons, ih]
    split
    · rename_i hany
      rw [Finset.insert_eq_of_mem (hmem.2 hany)]
    · rename_i hnone
      rw [Finset.card_insert_of_notMem (mt hmem.1 hnone)]

theorem classes_perm (hperm : scopes.Perm others) : classes scopes = classes others :=
  List.toFinset_eq_of_perm _ _ (hperm.map _)

/-! ### Members found by their hash -/

section Hashing

variable {η : Type} [DecidableEq η]

/-- Adds a scope to the members of a set, unless there is one with the same hash that is equal to it. -/
def addMember (hash : Option (String × String × List Action) → η) (members : List (Option Scope))
    (scope : Option Scope) : List (Option Scope) :=
  if members.any fun member => hash (key? member) = hash (key? scope) && equivalent? member scope then members
  else members ++ [scope]

/-- The members of a set to which scopes are added one after another. -/
def collect (hash : Option (String × String × List Action) → η) (scopes : List (Option Scope)) :
    List (Option Scope) :=
  scopes.foldl (addMember hash) []

theorem key?_congr {left right : Option Scope} (hequivalent : equivalent? left right = true) :
    key? left = key? right := by
  have hcontent := congrArg (Option.map Prod.fst) (equivalent?_iff_content.1 hequivalent)
  rw [Option.map_map, Option.map_map] at hcontent
  exact hcontent

theorem addMember_eq (hash : Option (String × String × List Action) → η) (members : List (Option Scope))
    (scope : Option Scope) :
    addMember hash members scope =
      if Quotient.mk equalScopes scope ∈ classes members then members else members ++ [scope] := by
  have hfound : (members.any fun member => hash (key? member) = hash (key? scope) && equivalent? member scope) = true ↔
      Quotient.mk equalScopes scope ∈ classes members := by
    rw [mk_mem_classes_iff, List.any_eq_true]
    refine exists_congr fun member => and_congr_right fun _ => ?_
    rw [Bool.and_eq_true, decide_eq_true_eq]
    exact and_iff_right_of_imp fun hequivalent => congrArg hash (key?_congr hequivalent)
  rw [addMember]
  simp only [hfound]

/-- Members are of different classes, and a scope that is added brings its class and no other. -/
theorem addMember_classes {members : List (Option Scope)} (hash : Option (String × String × List Action) → η)
    (hnodup : (members.map (Quotient.mk equalScopes)).Nodup) (scope : Option Scope) :
    ((addMember hash members scope).map (Quotient.mk equalScopes)).Nodup ∧
      classes (addMember hash members scope) = insert (Quotient.mk equalScopes scope) (classes members) := by
  rw [addMember_eq]
  split
  · rename_i hmem
    exact ⟨hnodup, (Finset.insert_eq_of_mem hmem).symm⟩
  · rename_i hmem
    refine ⟨?_, ?_⟩
    · rw [List.map_append, List.map_singleton, List.nodup_append_comm]
      exact List.nodup_cons.2 ⟨fun hclass => hmem (List.mem_toFinset.2 hclass), hnodup⟩
    · ext element
      simp [classes]

theorem foldl_addMember_classes {members : List (Option Scope)} (hash : Option (String × String × List Action) → η)
    (hnodup : (members.map (Quotient.mk equalScopes)).Nodup) (scopes : List (Option Scope)) :
    ((scopes.foldl (addMember hash) members).map (Quotient.mk equalScopes)).Nodup ∧
      classes (scopes.foldl (addMember hash) members) = classes members ∪ classes scopes := by
  induction scopes generalizing members with
  | nil => exact ⟨hnodup, (Finset.union_empty _).symm⟩
  | cons scope rest ih =>
    obtain ⟨hadded, hclasses⟩ := addMember_classes hash hnodup scope
    obtain ⟨hrest, hunion⟩ := ih hadded
    refine ⟨hrest, ?_⟩
    rw [List.foldl_cons, hunion, hclasses, classes_cons, Finset.insert_union, Finset.union_insert]

/-- A set has one member for each class, whatever the hash. -/
theorem length_collect (hash : Option (String × String × List Action) → η) (scopes : List (Option Scope)) :
    (collect hash scopes).length = (classes scopes).card := by
  have hstart : (([] : List (Option Scope)).map (Quotient.mk equalScopes)).Nodup := List.nodup_nil
  have hempty : classes [] = ∅ := rfl
  obtain ⟨hnodup, hunion⟩ := foldl_addMember_classes hash hstart scopes
  rw [hempty, Finset.empty_union] at hunion
  rw [collect, ← hunion, classes, List.toFinset_card_of_nodup hnodup, List.length_map]

end Hashing

/-! ### Equality, keys, coverage, written forms and sets -/

/-- Equality of scopes is an equivalence that compares parameters as mappings. Equal scopes have one key,
cover the same, are covered by the same and permit the same actions. Scopes that were read are equal
exactly if their written forms are alike, and a set of scopes that were read has as many members as there
are classes of equal ones, whatever the hash and in whatever order they came. -/
theorem equality_respected_by_keys_coverage_written_forms_and_sets :
    (Equivalence fun left right : Scope => left.equivalent right = true) ∧
      (∀ left right : Scope, left.equivalent right = true ↔
        left.subject = right.subject ∧ left.resource = right.resource ∧ left.actions = right.actions ∧
          Option.Rel Table.SameValues left.params right.params) ∧
      (∀ left right : Scope, left.equivalent right = true → left.key = right.key) ∧
      (∀ grant grant' request request' : Scope, grant.equivalent grant' = true →
        request.equivalent request' = true → grant.covers request = grant'.covers request') ∧
      (∀ left right : Scope, left.equivalent right = true →
        left.allows = right.allows ∧ left.allowsCode = right.allowsCode) ∧
      (∀ (lists lists' : AllowLists) (text text' : String) (left right : Scope),
        lists.parse? text = some left → lists'.parse? text' = some right →
        (left.render = right.render → left.equivalent right = true) ∧
          (left.equivalent right = true ↔ WrittenAlike left.render right.render)) ∧
      ∀ (lists : AllowLists) (texts : List String),
        countDistinct (texts.map lists.parse?) = (classes (texts.map lists.parse?)).card ∧
          (∀ (η : Type) [DecidableEq η] (hash : Option (String × String × List Action) → η),
            (collect hash (texts.map lists.parse?)).length = countDistinct (texts.map lists.parse?)) ∧
          ∀ others : List String, texts.Perm others →
            countDistinct (others.map lists.parse?) = countDistinct (texts.map lists.parse?) := by
  refine ⟨equivalence_equivalent, ?_, ?_, ?_, ?_, ?_, ?_⟩
  · intro left right
    exact equivalent_iff_fields
  · intro left right hequivalent
    exact key_congr hequivalent
  · intro grant grant' request request' hgrant hrequest
    exact covers_congr hgrant hrequest
  · intro left right hequivalent
    exact ⟨allows_congr hequivalent, allowsCode_congr hequivalent⟩
  · intro lists lists' text text' left right hleft hright
    have hwell := AllowLists.wellFormed_of_parse? hleft
    have hwell' := AllowLists.wellFormed_of_parse? hright
    refine ⟨fun hrender => ?_, hwell.equivalent_iff_writtenAlike hwell'⟩
    have hread := hwell.parse?_render
    rw [hrender, hwell'.parse?_render] at hread
    cases hread
    exact equivalent_refl left
  · intro lists texts
    refine ⟨countDistinct_eq_card _, ?_, ?_⟩
    · intro η _ hash
      rw [length_collect, countDistinct_eq_card]
    · intro others hperm
      rw [countDistinct_eq_card, countDistinct_eq_card, classes_perm (hperm.map lists.parse?)]

end AccessScopes.Scope
