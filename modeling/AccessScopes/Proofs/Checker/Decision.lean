import AccessScopes.Checker
import AccessScopes.Proofs.Scope.Acceptance

/-!
# What a checker decides

The decision on a request, said of the texts of the grants and of the request alone. A layout permits
another if their subjects agree, its resource is `*` or agrees, its letters include the other's, and
the parameter texts are both missing or both there with every effective value of the one among those
of the other. The main statement is that a request is allowed exactly when it has an admitted layout
that the admitted layout of a single grant permits.
-/

namespace AccessScopes

open Text

namespace Scope

/-- The layout of a grant permits the layout of a request. -/
structure Layout.Permits (held asked : Layout) : Prop where
  subject_eq : held.subject = asked.subject
  resource_eq : held.resource = ['*'] ∨ held.resource = asked.resource
  letters_subset : ∀ letter ∈ asked.letters, letter ∈ held.letters
  values : ('?' ∉ held.text ∧ '?' ∉ asked.text) ∨
    ∃ granted requested, AfterFirst '?' held.text granted ∧ AfterFirst '?' asked.text requested ∧
      ∀ key value, Params.Effective granted key value → Params.Effective requested key value

variable {held asked : Layout} {grant request : Scope}

theorem Layout.Describes.mem_letters_iff (hgrant : held.Describes grant) {action : Action} :
    action.letter ∈ held.letters ↔ action ∈ grant.actions := by
  rw [hgrant.letters_eq, List.mem_map]
  constructor
  · intro h
    obtain ⟨other, hother, hletter⟩ := h
    rw [← Action.letter_injective hletter]
    exact hother
  · intro haction
    exact ⟨action, haction, rfl⟩

theorem letters_subset_iff (hgrant : held.Describes grant) (hrequest : asked.Describes request) :
    (∀ letter ∈ asked.letters, letter ∈ held.letters) ↔ ∀ action ∈ request.actions, action ∈ grant.actions := by
  constructor
  · intro hletters action haction
    apply hgrant.mem_letters_iff.1
    apply hletters
    exact hrequest.mem_letters_iff.2 haction
  · intro hactions letter hletter
    rw [hrequest.letters_eq, List.mem_map] at hletter
    obtain ⟨action, haction, rfl⟩ := hletter
    exact hgrant.mem_letters_iff.2 (hactions action haction)

theorem coversParams_iff_values (hgrant : held.Describes grant) (hrequest : asked.Describes request) :
    coversParams grant.params request.params = true ↔
      ('?' ∉ held.text ∧ '?' ∉ asked.text) ∨
        ∃ granted requested, AfterFirst '?' held.text granted ∧ AfterFirst '?' asked.text requested ∧
          ∀ key value, Params.Effective granted key value → Params.Effective requested key value := by
  rw [coversParams_iff, hgrant.params_eq_none_iff, hrequest.params_eq_none_iff]
  apply or_congr_right
  constructor
  · intro h
    obtain ⟨granted, requested, hgranted, hrequested, hvalues⟩ := h
    obtain ⟨heldRaw, hheldRaw, hheldValues⟩ := hgrant.exists_raw hgranted
    obtain ⟨askedRaw, haskedRaw, haskedValues⟩ := hrequest.exists_raw hrequested
    refine ⟨heldRaw, askedRaw, hheldRaw, haskedRaw, ?_⟩
    intro key value heffective
    have hget := hvalues (.ofList key) (.ofList value)
    rw [hheldValues, haskedValues, String.toList_ofList, String.toList_ofList] at hget
    exact hget heffective
  · intro h
    obtain ⟨heldRaw, askedRaw, hheldRaw, haskedRaw, hvalues⟩ := h
    obtain ⟨granted, hgranted, hheldValues⟩ := hgrant.params_eq heldRaw hheldRaw
    obtain ⟨requested, hrequested, haskedValues⟩ := hrequest.params_eq askedRaw haskedRaw
    refine ⟨granted, requested, hgranted, hrequested, ?_⟩
    intro key value hget
    rw [haskedValues]
    apply hvalues
    exact (hheldValues key value).1 hget

/-- A scope covers another exactly when the layout of the one permits the layout of the other. -/
theorem covers_iff_permits (hgrant : held.Describes grant) (hrequest : asked.Describes request) :
    grant.covers request = true ↔ held.Permits asked := by
  have hsubject : grant.subject = request.subject ↔ held.subject = asked.subject := by
    rw [← hgrant.subject_eq, ← hrequest.subject_eq, String.toList_inj]
  have hwildcard : grant.resource = "*" ↔ held.resource = ['*'] := by
    rw [← hgrant.resource_eq, ← String.toList_inj]
    rfl
  have hresource : grant.resource = request.resource ↔ held.resource = asked.resource := by
    rw [← hgrant.resource_eq, ← hrequest.resource_eq, String.toList_inj]
  rw [covers_iff, hsubject, hwildcard, hresource, ← letters_subset_iff hgrant hrequest,
    coversParams_iff_values hgrant hrequest]
  constructor
  · intro h
    exact ⟨h.1, h.2.1, h.2.2.1, h.2.2.2⟩
  · intro h
    exact ⟨h.subject_eq, h.resource_eq, h.letters_subset, h.values⟩

end Scope

namespace Checker

theorem can_filterMap_iff {lists : AllowLists} {grants : List String} {text : String} {read : String → Option Scope} :
    (Checker.mk lists (grants.filterMap read)).can text = true ↔
      ∃ request, lists.parse? text = some request ∧
        ∃ held ∈ grants, ∃ grant, read held = some grant ∧ grant.covers request = true := by
  rw [can_eq_true_iff]
  apply exists_congr
  intro request
  apply and_congr_right
  intro _
  rw [permits_eq_true_iff]
  constructor
  · intro h
    obtain ⟨grant, hmem, hcovers⟩ := h
    obtain ⟨held, hheld, hread⟩ := List.mem_filterMap.1 hmem
    exact ⟨held, hheld, grant, hread, hcovers⟩
  · intro h
    obtain ⟨held, hheld, grant, hread, hcovers⟩ := h
    exact ⟨grant, List.mem_filterMap.2 ⟨held, hheld, hread⟩, hcovers⟩

/-- A request is allowed if it is read and a single grant that is read covers it. -/
theorem can_ofGrants_iff {lists : AllowLists} {grants : List String} {text : String} :
    (ofGrants lists grants).can text = true ↔
      ∃ request, lists.parse? text = some request ∧
        ∃ held ∈ grants, ∃ grant, lists.parse? held = some grant ∧ grant.covers request = true :=
  can_filterMap_iff

/-- A request is allowed exactly when the allow-lists admit its layout and, for a single grant, a
layout of the grant that permits it. -/
theorem can_iff_layout_permits (subjects resources : Option (List String)) (grants : List String)
    (text : String) :
    (ofGrants (.given subjects resources) grants).can text = true ↔
      ∃ asked : Scope.Layout, asked.Admitted subjects resources text ∧
        ∃ grant ∈ grants, ∃ held : Scope.Layout, held.Admitted subjects resources grant ∧
          held.Permits asked := by
  rw [can_ofGrants_iff]
  constructor
  · intro h
    obtain ⟨request, hrequest, held, hheld, grant, hgrant, hcovers⟩ := h
    obtain ⟨asked, hasked, rfl⟩ := Scope.parse?_eq_some_iff_admitted.1 hrequest
    obtain ⟨layout, hlayout, rfl⟩ := Scope.parse?_eq_some_iff_admitted.1 hgrant
    have hpermits := (Scope.covers_iff_permits hlayout.valid.describes hasked.valid.describes).1 hcovers
    exact ⟨asked, hasked, held, hheld, layout, hlayout, hpermits⟩
  · intro h
    obtain ⟨asked, hasked, grant, hgrant, held, hheld, hpermits⟩ := h
    have hcovers := (Scope.covers_iff_permits hheld.valid.describes hasked.valid.describes).2 hpermits
    exact ⟨asked.scope, Scope.parse?_eq_some_iff_admitted.2 ⟨asked, hasked, rfl⟩, grant, hgrant,
      held.scope, Scope.parse?_eq_some_iff_admitted.2 ⟨held, hheld, rfl⟩, hcovers⟩

end Checker

end AccessScopes
