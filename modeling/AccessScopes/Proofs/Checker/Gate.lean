import AccessScopes.Proofs.Checker.Decision
import AccessScopes.Proofs.Scope.RoundTrip

/-!
# Allow-lists as a gate on requests

Allow-lists are applied twice, to every grant when a checker is built and to every request. The first
of the two decides nothing: a grant that covers a request which passes the gate passes it as well, so
no grant that could have helped was dropped. Hence a checker with lists decides as the one without,
behind a gate that only looks at the request.
-/

namespace AccessScopes

/-- The scope may go through a gate of two lists: each is empty or names its part of the scope, and the
wildcard resource needs no name. -/
structure Scope.Passes (scope : Scope) (subjects resources : List String) : Prop where
  subject_listed : subjects = [] ∨ scope.subject ∈ subjects
  resource_listed : resources = [] ∨ scope.resource = "*" ∨ scope.resource ∈ resources

/-- The larger list keeps every name. It constrains something if the smaller one does, since an empty
list would constrain nothing. -/
structure AllowLists.Enlarged (names larger : List String) : Prop where
  kept : ∀ name ∈ names, name ∈ larger
  still_empty : names = [] → larger = []

namespace Scope

variable {grant request : Scope} {subjects resources moreSubjects moreResources : List String}

/-- A grant goes through every gate that a request it covers goes through. -/
theorem Passes.of_covers (hcovers : grant.covers request = true) (hpasses : request.Passes subjects resources) :
    grant.Passes subjects resources := by
  obtain ⟨hsubject, hresource, -, -⟩ := covers_iff.1 hcovers
  constructor
  · rw [hsubject]
    exact hpasses.subject_listed
  · rcases hresource with hwildcard | hequal
    · exact Or.inr (Or.inl hwildcard)
    · rw [hequal]
      exact hpasses.resource_listed

theorem Passes.of_enlarged (hsubjects : AllowLists.Enlarged subjects moreSubjects)
    (hresources : AllowLists.Enlarged resources moreResources) (hpasses : request.Passes subjects resources) :
    request.Passes moreSubjects moreResources := by
  constructor
  · apply hpasses.subject_listed.imp hsubjects.still_empty
    exact hsubjects.kept request.subject
  · apply hpasses.resource_listed.imp hresources.still_empty
    intro hresource
    exact hresource.imp_right (hresources.kept request.resource)

end Scope

namespace AllowLists

variable {subjects resources : List String} {text : String} {scope : Scope}

theorem admits_given_iff :
    (given (some subjects) (some resources)).admits scope = true ↔ scope.Passes subjects resources := by
  simp only [admits, given, Option.getD_some, Bool.and_eq_true, Bool.or_eq_true, List.isEmpty_iff,
    List.contains_iff_mem, Scope.isWildcard_iff, or_assoc]
  constructor
  · intro h
    exact ⟨h.1, h.2⟩
  · intro h
    exact ⟨h.subject_listed, h.resource_listed⟩

theorem parse?_given_iff :
    (given (some subjects) (some resources)).parse? text = some scope ↔
      Scope.parse? text = some scope ∧ scope.Passes subjects resources := by
  rw [parse?_eq_some_iff, admits_given_iff]

end AllowLists

namespace Checker

variable {subjects resources : List String} {grants : List String} {text : String}

theorem can_given_none_iff :
    (ofGrants (.given none none) grants).can text = true ↔
      ∃ request, Scope.parse? text = some request ∧
        ∃ held ∈ grants, ∃ grant, Scope.parse? held = some grant ∧ grant.covers request = true := by
  simp only [can_ofGrants_iff, AllowLists.parse?_given_none]

/-- What the lists drop from the grants is never missed. -/
theorem can_given_iff :
    (ofGrants (.given (some subjects) (some resources)) grants).can text = true ↔
      (ofGrants (.given none none) grants).can text = true ∧
        ∃ request, Scope.parse? text = some request ∧ request.Passes subjects resources := by
  rw [can_given_none_iff, can_ofGrants_iff]
  simp only [AllowLists.parse?_given_iff]
  constructor
  · intro h
    obtain ⟨request, ⟨hrequest, hpasses⟩, held, hheld, grant, ⟨hgrant, -⟩, hcovers⟩ := h
    exact ⟨⟨request, hrequest, held, hheld, grant, hgrant, hcovers⟩, request, hrequest, hpasses⟩
  · intro h
    obtain ⟨⟨request, hrequest, held, hheld, grant, hgrant, hcovers⟩, other, hother, hpasses⟩ := h
    rw [hrequest] at hother
    cases hother
    exact ⟨request, ⟨hrequest, hpasses⟩, held, hheld, grant, ⟨hgrant, hpasses.of_covers hcovers⟩, hcovers⟩

/-- A checker that keeps the grants its lists do not admit. -/
def keepingAll (lists : AllowLists) (grants : List String) : Checker where
  lists := lists
  grants := grants.filterMap Scope.parse?

theorem can_keepingAll (subjects resources grants : List String) (text : String) :
    (keepingAll (.given (some subjects) (some resources)) grants).can text =
      (ofGrants (.given (some subjects) (some resources)) grants).can text := by
  rw [Bool.eq_iff_iff, keepingAll, can_filterMap_iff, can_ofGrants_iff]
  simp only [AllowLists.parse?_given_iff]
  apply exists_congr
  intro request
  apply and_congr_right
  intro hrequest
  constructor
  · intro h
    obtain ⟨held, hheld, grant, hgrant, hcovers⟩ := h
    exact ⟨held, hheld, grant, ⟨hgrant, hrequest.2.of_covers hcovers⟩, hcovers⟩
  · intro h
    obtain ⟨held, hheld, grant, ⟨hgrant, -⟩, hcovers⟩ := h
    exact ⟨held, hheld, grant, hgrant, hcovers⟩

/-- A request is allowed under allow-lists exactly if it is allowed without them and its scope passes
the gate. So it makes no difference that grants are dropped when the checker is built, nothing outside
a list with names is allowed, and a larger list revokes nothing. -/
theorem can_iff_unlisted_and_passes (subjects resources grants : List String) (text : String) :
    ((ofGrants (.given (some subjects) (some resources)) grants).can text = true ↔
        (ofGrants (.given none none) grants).can text = true ∧
          ∃ request, Scope.parse? text = some request ∧ request.Passes subjects resources) ∧
      (keepingAll (.given (some subjects) (some resources)) grants).can text =
        (ofGrants (.given (some subjects) (some resources)) grants).can text ∧
      (∀ request, Scope.parse? text = some request →
        (subjects ≠ [] ∧ request.subject ∉ subjects) ∨
          (resources ≠ [] ∧ request.resource ≠ "*" ∧ request.resource ∉ resources) →
        (ofGrants (.given (some subjects) (some resources)) grants).can text = false) ∧
      ∀ moreSubjects moreResources, AllowLists.Enlarged subjects moreSubjects →
        AllowLists.Enlarged resources moreResources →
        (ofGrants (.given (some subjects) (some resources)) grants).can text = true →
        (ofGrants (.given (some moreSubjects) (some moreResources)) grants).can text = true := by
  refine ⟨can_given_iff, can_keepingAll subjects resources grants text, ?_, ?_⟩
  · intro request hrequest houtside
    rw [← Bool.not_eq_true, can_given_iff]
    intro h
    obtain ⟨-, other, hother, hpasses⟩ := h
    rw [hrequest] at hother
    cases hother
    rcases houtside with ⟨hne, hsubject⟩ | ⟨hne, hwildcard, hresource⟩
    · exact hpasses.subject_listed.elim hne hsubject
    · exact hpasses.resource_listed.elim hne fun hlisted => hlisted.elim hwildcard hresource
  · intro moreSubjects moreResources hsubjects hresources hcan
    obtain ⟨hunlisted, request, hrequest, hpasses⟩ := can_given_iff.1 hcan
    exact can_given_iff.2 ⟨hunlisted, request, hrequest, hpasses.of_enlarged hsubjects hresources⟩

end Checker

end AccessScopes
