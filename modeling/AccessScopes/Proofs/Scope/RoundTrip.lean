import AccessScopes.AllowLists
import AccessScopes.Proofs.Table.Entries
import AccessScopes.Scope.WellFormed

/-!
# Written and read again

The well-formed scopes are exactly those that survive being written and read. One direction is a
property of the reader and was shown with the grammar. For the other, a scope that merely agrees with
what is read back has the same fields up to the order of its parameters, and what is read is
well formed.
-/

namespace AccessScopes

namespace Scope

theorem eq_or_perm_of_sameParams {left right : Option Params} (hsame : sameParams left right = true) :
    (left = none ∧ right = none) ∨
      ∃ params others, left = some params ∧ right = some others ∧ params.entries.Perm others.entries := by
  cases left with
  | none =>
    cases right with
    | none => exact Or.inl ⟨rfl, rfl⟩
    | some others => cases hsame
  | some params =>
    cases right with
    | none => cases hsame
    | some others => exact Or.inr ⟨params, others, rfl, rfl, Table.sameMapping_iff_perm.1 hsame⟩

/-- A scope that is equivalent to a well-formed one is well formed: the conditions on parameters do
not depend on their order. -/
theorem WellFormed.of_equivalent {scope other : Scope} (hwell : scope.WellFormed)
    (hequivalent : scope.equivalent other = true) : other.WellFormed := by
  simp only [equivalent, key, Bool.and_eq_true, decide_eq_true_eq, Prod.mk.injEq] at hequivalent
  obtain ⟨⟨hsubject, hresource, hactions⟩, hparams⟩ := hequivalent
  refine ⟨hsubject ▸ hwell.subject_isName, hresource ▸ hwell.resource_isName, hactions ▸ hwell.actions_ne_nil, ?_⟩
  intro params hsome entry hentry
  rcases eq_or_perm_of_sameParams hparams with hnone | hperm
  · rw [hnone.2] at hsome
    cases hsome
  · obtain ⟨own, others, hown, hothers, hperm⟩ := hperm
    rw [hothers] at hsome
    cases hsome
    apply hwell.params_isPlain own hown
    exact hperm.mem_iff.2 hentry

theorem equivalent_refl (scope : Scope) : scope.equivalent scope = true := by
  have hparams : sameParams scope.params scope.params = true := by
    cases scope.params with
    | none => rfl
    | some params => exact Table.sameMapping_iff_perm.2 (List.Perm.refl _)
  simp [equivalent, hparams]

end Scope

namespace AllowLists

theorem admits_given_none (scope : Scope) : (given none none).admits scope = true := rfl

theorem parse?_given_none (text : String) : (given none none).parse? text = Scope.parse? text := by
  apply Option.ext
  intro scope
  rw [parse?_eq_some_iff]
  simp [admits_given_none]

theorem wellFormed_of_parse? {lists : AllowLists} {text : String} {scope : Scope}
    (hparse : lists.parse? text = some scope) : scope.WellFormed :=
  Scope.wellFormed_of_parse? (parse?_eq_some_iff.1 hparse).1

/-- What was read under allow-lists is read back under them from its written form. -/
theorem parse?_render {lists : AllowLists} {text : String} {scope : Scope}
    (hparse : lists.parse? text = some scope) : lists.parse? scope.render = some scope := by
  have hwell := wellFormed_of_parse? hparse
  have hadmits := (parse?_eq_some_iff.1 hparse).2
  exact parse?_eq_some_iff.2 ⟨hwell.parse?_render, hadmits⟩

end AllowLists

namespace Scope

/-- Reading returns well-formed scopes only; a scope is equivalent to what is read from its written
form exactly if it is well formed, and is then the very scope that is read; what was read under
allow-lists is read back under them and has one written form. -/
theorem render_parse?_inverse_iff_wellFormed :
    (∀ (lists : AllowLists) (text : String) (scope : Scope),
        lists.parse? text = some scope → scope.WellFormed) ∧
      (∀ scope : Scope,
        (equivalent? ((AllowLists.given none none).parse? scope.render) (some scope) = true ↔ scope.WellFormed) ∧
          (scope.WellFormed → (AllowLists.given none none).parse? scope.render = some scope)) ∧
      ∀ (lists : AllowLists) (text : String) (scope : Scope), lists.parse? text = some scope →
        lists.parse? scope.render = some scope ∧
          (lists.parse? scope.render).map render = some scope.render := by
  refine ⟨?_, ?_, ?_⟩
  · intro lists text scope hparse
    exact AllowLists.wellFormed_of_parse? hparse
  · intro scope
    rw [AllowLists.parse?_given_none]
    refine ⟨?_, WellFormed.parse?_render⟩
    constructor
    · intro hequivalent
      cases hread : parse? scope.render with
      | none =>
        rw [hread] at hequivalent
        cases hequivalent
      | some read =>
        rw [hread] at hequivalent
        exact (wellFormed_of_parse? hread).of_equivalent hequivalent
    · intro hwell
      rw [hwell.parse?_render]
      exact equivalent_refl scope
  · intro lists text scope hparse
    have hread := AllowLists.parse?_render hparse
    rw [hread]
    exact ⟨rfl, rfl⟩

end Scope

end AccessScopes
