import AccessScopes.Checker
import AccessScopes.Proofs.Scope.Containment
import AccessScopes.Proofs.Scope.RoundTrip

/-!
# Comparing checkers

A checker stays within another if the other allows every request that it allows. Under the same
allow-lists this is a finite check: the other checker has to allow the written form of each grant,
since coverage is transitive and each grant is read back from its written form. So a grant matters
only up to what the other grants cover.
-/

namespace AccessScopes.Checker

/-- The other checker allows every request that the checker allows. -/
def Within (checker other : Checker) : Prop :=
  ∀ text, checker.can text = true → other.can text = true

def DecidesLike (checker other : Checker) : Prop :=
  ∀ text, checker.can text = other.can text

theorem decidesLike_iff_within {checker other : Checker} :
    checker.DecidesLike other ↔ checker.Within other ∧ other.Within checker := by
  constructor
  · intro hlike
    exact ⟨fun text hcan => hlike text ▸ hcan, fun text hcan => (hlike text).symm ▸ hcan⟩
  · intro h text
    rw [Bool.eq_iff_iff]
    exact ⟨h.1 text, h.2 text⟩

/-! ### What a checker permits -/

theorem permits_of_mem {checker : Checker} {grant : Scope} (hgrant : grant ∈ checker.grants) :
    checker.permits grant = true :=
  permits_eq_true_iff.2 ⟨grant, hgrant, Scope.covers_refl grant⟩

theorem permits_of_covers {checker : Checker} {wide narrow : Scope} (hwide : checker.permits wide = true)
    (hcovers : wide.covers narrow = true) : checker.permits narrow = true := by
  obtain ⟨grant, hgrant, hgrantCovers⟩ := permits_eq_true_iff.1 hwide
  exact permits_eq_true_iff.2 ⟨grant, hgrant, Scope.covers_trans hgrantCovers hcovers⟩

theorem can_iff_permits {checker : Checker} {text : String} {request : Scope}
    (hparse : checker.lists.parse? text = some request) :
    checker.can text = true ↔ checker.permits request = true := by
  rw [can_eq_true_iff, hparse]
  simp

variable {lists : AllowLists} {left right before after : List String}

theorem can_render_iff_permits {grant : Scope} (hgrant : grant ∈ (ofGrants lists left).grants) :
    (ofGrants lists right).can grant.render = true ↔ (ofGrants lists right).permits grant = true := by
  obtain ⟨text, -, hparse⟩ := mem_grants_ofGrants.1 hgrant
  have hread : (ofGrants lists right).lists.parse? grant.render = some grant := AllowLists.parse?_render hparse
  exact can_iff_permits hread

/-! ### Comparing by grants -/

/-- Permitting each grant of a checker is permitting all that it permits. -/
theorem within_iff_permits : (ofGrants lists left).Within (ofGrants lists right) ↔
    ∀ grant ∈ (ofGrants lists left).grants, (ofGrants lists right).permits grant = true := by
  constructor
  · intro hwithin grant hgrant
    apply (can_render_iff_permits hgrant).1
    apply hwithin
    exact (can_render_iff_permits hgrant).2 (permits_of_mem hgrant)
  · intro hpermits text hcan
    obtain ⟨request, hparse, hrequest⟩ := can_eq_true_iff.1 hcan
    obtain ⟨grant, hgrant, hcovers⟩ := permits_eq_true_iff.1 hrequest
    exact can_eq_true_iff.2 ⟨request, hparse, permits_of_covers (hpermits grant hgrant) hcovers⟩

theorem within_iff_can_render : (ofGrants lists left).Within (ofGrants lists right) ↔
    ∀ grant ∈ (ofGrants lists left).grants, (ofGrants lists right).can grant.render = true := by
  rw [within_iff_permits]
  apply forall₂_congr
  intro grant hgrant
  exact (can_render_iff_permits hgrant).symm

theorem within_of_subset (hsubset : ∀ text ∈ left, text ∈ right) :
    (ofGrants lists left).Within (ofGrants lists right) := by
  apply within_iff_permits.2
  intro grant hgrant
  obtain ⟨text, htext, hparse⟩ := mem_grants_ofGrants.1 hgrant
  apply permits_of_mem
  exact mem_grants_ofGrants.2 ⟨text, hsubset text htext, hparse⟩

theorem decidesLike_of_mem_iff (hmem : ∀ text, text ∈ left ↔ text ∈ right) :
    (ofGrants lists left).DecidesLike (ofGrants lists right) :=
  decidesLike_iff_within.2
    ⟨within_of_subset fun text htext => (hmem text).1 htext, within_of_subset fun text htext => (hmem text).2 htext⟩

/-- Grants that remaining ones cover can be left out, any number of them at once. -/
theorem decidesLike_of_covered (hsubset : ∀ text ∈ right, text ∈ left)
    (hcovered : ∀ grant ∈ (ofGrants lists left).grants,
      ∃ other ∈ (ofGrants lists right).grants, other.covers grant = true) :
    (ofGrants lists left).DecidesLike (ofGrants lists right) := by
  apply decidesLike_iff_within.2
  refine ⟨within_iff_permits.2 ?_, within_of_subset hsubset⟩
  intro grant hgrant
  exact permits_eq_true_iff.2 (hcovered grant hgrant)

/-! ### Adding one grant -/

/-- A grant that can be read adds nothing exactly if it was allowed as a request before. -/
theorem decidesLike_added_iff {text : String} {scope : Scope} (hparse : lists.parse? text = some scope) :
    (ofGrants lists (before ++ text :: after)).DecidesLike (ofGrants lists (before ++ after)) ↔
      (ofGrants lists (before ++ after)).can text = true := by
  have hadded : scope ∈ (ofGrants lists (before ++ text :: after)).grants :=
    mem_grants_ofGrants.2 ⟨text, by simp, hparse⟩
  have hold : (ofGrants lists (before ++ after)).lists.parse? text = some scope := hparse
  rw [can_iff_permits hold]
  constructor
  · intro hlike
    have hwithin := (decidesLike_iff_within.1 hlike).1
    exact within_iff_permits.1 hwithin scope hadded
  · intro hpermits
    refine decidesLike_iff_within.2 ⟨within_iff_permits.2 ?_, within_of_subset ?_⟩
    · intro grant hgrant
      obtain ⟨other, hother, hread⟩ := mem_grants_ofGrants.1 hgrant
      rw [List.mem_append, List.mem_cons] at hother
      rcases hother with hbefore | rfl | hafter
      · exact permits_of_mem (mem_grants_ofGrants.2 ⟨other, List.mem_append_left _ hbefore, hread⟩)
      · rw [hparse] at hread
        cases hread
        exact hpermits
      · exact permits_of_mem (mem_grants_ofGrants.2 ⟨other, List.mem_append_right _ hafter, hread⟩)
    · intro other hother
      rw [List.mem_append, List.mem_cons]
      exact (List.mem_append.1 hother).imp_right Or.inr

/-- Under the same allow-lists a checker stays within another exactly if the other allows the written
form of each of its grants, and they decide alike exactly if this holds both ways. Further grants
revoke nothing, order and repetition of the grants do not matter, nor do grants that others cover,
and a grant that can be read changes no decision exactly if it was allowed as a request. -/
theorem within_iff_rendered_grants_allowed (lists : AllowLists) (left right : List String) :
    ((ofGrants lists left).Within (ofGrants lists right) ↔
        ∀ grant ∈ (ofGrants lists left).grants, (ofGrants lists right).can grant.render = true) ∧
      ((ofGrants lists left).DecidesLike (ofGrants lists right) ↔
        (∀ grant ∈ (ofGrants lists left).grants, (ofGrants lists right).can grant.render = true) ∧
          ∀ grant ∈ (ofGrants lists right).grants, (ofGrants lists left).can grant.render = true) ∧
      ((∀ text ∈ left, text ∈ right) → (ofGrants lists left).Within (ofGrants lists right)) ∧
      ((∀ text, text ∈ left ↔ text ∈ right) → (ofGrants lists left).DecidesLike (ofGrants lists right)) ∧
      ((∀ text ∈ right, text ∈ left) →
        (∀ grant ∈ (ofGrants lists left).grants,
          ∃ other ∈ (ofGrants lists right).grants, other.covers grant = true) →
        (ofGrants lists left).DecidesLike (ofGrants lists right)) ∧
      ∀ before text after, (lists.parse? text).isSome = true →
        ((ofGrants lists (before ++ text :: after)).DecidesLike (ofGrants lists (before ++ after)) ↔
          (ofGrants lists (before ++ after)).can text = true) := by
  refine ⟨within_iff_can_render, ?_, within_of_subset, decidesLike_of_mem_iff, decidesLike_of_covered, ?_⟩
  · rw [decidesLike_iff_within, within_iff_can_render, within_iff_can_render]
  · intro before text after hparse
    obtain ⟨scope, hscope⟩ := Option.isSome_iff_exists.1 hparse
    exact decidesLike_added_iff hscope

end AccessScopes.Checker
