import AccessScopes.Proofs.Scope.Containment
import AccessScopes.Proofs.Scope.RoundTrip
import Mathlib.Data.List.TakeWhile

/-!
# Equal scopes

Scopes are equal if they have the same fields, where parameters are compared as mappings. Everything
here follows from what is compared, the content of a scope: equality is an equivalence, and neither
coverage nor the actions permitted tell equal scopes apart. The written form shows an order that
equality ignores, so scopes that were read are equal exactly if their written forms differ at most in
the order of the pairs.
-/

namespace AccessScopes

namespace Scope

variable {left right other : Scope}

/-- What is compared when scopes are: the fields, with the parameters as a mapping. -/
def content (scope : Scope) : (String × String × List Action) × Option (String → Option String) :=
  (scope.key, scope.params.map Table.get?)

theorem rel_sameValues_iff {params others : Option Params} :
    Option.Rel Table.SameValues params others ↔ params.map Table.get? = others.map Table.get? := by
  refine ⟨fun hrel => ?_, fun hmap => ?_⟩
  · cases hrel with
    | none => rfl
    | some hvalues => exact congrArg some (funext hvalues)
  · cases params with
    | none =>
      cases others with
      | none => exact .none
      | some others => cases hmap
    | some params =>
      cases others with
      | none => cases hmap
      | some others => exact .some fun key => congrFun (Option.some.inj hmap) key

theorem sameParams_iff_rel {params others : Option Params} :
    sameParams params others = true ↔ Option.Rel Table.SameValues params others := by
  rw [rel_sameValues_iff]
  cases params with
  | none => cases others <;> simp [sameParams]
  | some params =>
    cases others with
    | none => simp [sameParams]
    | some others =>
      show params.sameMapping others = true ↔ some params.get? = some others.get?
      rw [Table.sameMapping_iff_sameValues, Option.some_inj, funext_iff]
      rfl

theorem equivalent_iff_content : left.equivalent right = true ↔ left.content = right.content := by
  simp only [equivalent, content, Bool.and_eq_true, decide_eq_true_eq, Prod.mk.injEq, sameParams_iff_rel,
    rel_sameValues_iff]

theorem equivalent_iff_fields :
    left.equivalent right = true ↔
      left.subject = right.subject ∧ left.resource = right.resource ∧ left.actions = right.actions ∧
        Option.Rel Table.SameValues left.params right.params := by
  simp only [equivalent, key, Bool.and_eq_true, decide_eq_true_eq, Prod.mk.injEq, sameParams_iff_rel, and_assoc]

theorem equivalence_equivalent : Equivalence fun left right : Scope => left.equivalent right = true where
  refl _ := equivalent_iff_content.2 rfl
  symm hleft := equivalent_iff_content.2 (equivalent_iff_content.1 hleft).symm
  trans hleft hright :=
    equivalent_iff_content.2 ((equivalent_iff_content.1 hleft).trans (equivalent_iff_content.1 hright))

/-! ### What does not tell equal scopes apart -/

theorem key_congr (hequivalent : left.equivalent right = true) : left.key = right.key :=
  congrArg Prod.fst (equivalent_iff_content.1 hequivalent)

theorem sameReach_of_equivalent (hequivalent : left.equivalent right = true) : left.SameReach right := by
  obtain ⟨hsubject, hresource, hactions, hparams⟩ := equivalent_iff_fields.1 hequivalent
  exact ⟨hsubject, hresource, fun action => by rw [hactions], hparams⟩

theorem covers_congr {grant request : Scope} (hgrant : left.equivalent grant = true)
    (hrequest : right.equivalent request = true) : left.covers right = grant.covers request := by
  obtain ⟨hdown, hup⟩ := covers_covers_iff.2 (sameReach_of_equivalent hgrant)
  obtain ⟨hdown', hup'⟩ := covers_covers_iff.2 (sameReach_of_equivalent hrequest)
  rw [Bool.eq_iff_iff]
  refine ⟨fun hcovers => ?_, fun hcovers => ?_⟩
  · exact covers_trans hup (covers_trans hcovers hdown')
  · exact covers_trans hdown (covers_trans hcovers hup')

theorem allows_congr (hequivalent : left.equivalent right = true) : left.allows = right.allows := by
  funext action
  rw [allows, allows, (equivalent_iff_fields.1 hequivalent).2.2.1]

theorem allowsCode_congr (hequivalent : left.equivalent right = true) : left.allowsCode = right.allowsCode := by
  funext code
  rw [allowsCode, allowsCode, allows_congr hequivalent]

end Scope

/-! ### Written forms -/

/-- The pieces between `&` of the text after the first `?`. -/
def Params.writtenPairs (text : List Char) : List (List Char) :=
  ((text.dropWhile (· ≠ '?')).drop 1).splitOn '&'

/-- The texts are the same before the first `?`, both or neither have one, and the pieces between `&`
after it are the same but for their order. -/
structure Scope.WrittenAlike (left right : String) : Prop where
  before_eq : left.toList.takeWhile (· ≠ '?') = right.toList.takeWhile (· ≠ '?')
  marked_iff : '?' ∈ left.toList ↔ '?' ∈ right.toList
  pairs_perm : (Params.writtenPairs left.toList).Perm (Params.writtenPairs right.toList)

namespace Params

variable {params others : Params}

theorem splitOn_render (hplain : ∀ entry ∈ params.entries, IsPlain entry.1 ∧ IsPlain entry.2) :
    params.render.toList.splitOn '&' =
      if params.entries = [] then [[]] else params.entries.map renderPair := by
  rw [toList_render]
  split
  · rename_i hnone
    rw [hnone]
    rfl
  · rename_i hsome
    exact List.splitOn_intercalate _ (not_mem_renderPair hplain) (by simpa using hsome)

theorem perm_splitOn_render_iff (hparams : ∀ entry ∈ params.entries, IsPlain entry.1 ∧ IsPlain entry.2)
    (hothers : ∀ entry ∈ others.entries, IsPlain entry.1 ∧ IsPlain entry.2) :
    (params.render.toList.splitOn '&').Perm (others.render.toList.splitOn '&') ↔ params.SameValues others := by
  rw [Table.sameValues_iff_perm]
  refine ⟨fun hpieces => ?_, fun hentries => ?_⟩
  · have hpairs := hpieces.filterMap pair?
    rw [← pairs, ← pairs, toList_render, toList_render, pairs_intercalate hparams, pairs_intercalate hothers] at hpairs
    exact hpairs
  · have hnone : params.entries = [] ↔ others.entries = [] := by
      rw [← List.length_eq_zero_iff, ← List.length_eq_zero_iff, hentries.length_eq]
    rw [splitOn_render hparams, splitOn_render hothers]
    by_cases hempty : params.entries = []
    · rw [if_pos hempty, if_pos (hnone.1 hempty)]
    · rw [if_neg hempty, if_neg (mt hnone.2 hempty)]
      exact hentries.map renderPair

end Params

namespace Scope

variable {left right : Scope}

/-- The written form up to the parameters. -/
def heading (scope : Scope) : List Char :=
  scope.subject.toList ++ '/' :: (scope.resource.toList ++ '.' :: scope.actions.map Action.letter)

theorem toList_render_of_none (hnone : left.params = none) : left.render.toList = left.heading := by
  rw [toList_render]
  simp [layout, Layout.text, heading, hnone]

theorem toList_render_of_some {params : Params} (hsome : left.params = some params) :
    left.render.toList = left.heading ++ '?' :: params.render.toList := by
  rw [toList_render]
  simp [layout, Layout.text, heading, hsome]

theorem WellFormed.heading_eq_iff (hleft : left.WellFormed) (hright : right.WellFormed) :
    left.heading = right.heading ↔ left.key = right.key := by
  have cut : ∀ {scope : Scope}, scope.WellFormed → cut? scope.heading =
      some (scope.subject.toList, scope.resource.toList ++ '.' :: scope.actions.map Action.letter) := by
    intro scope hwell
    exact cut?_append hwell.subject_isName.2 (by decide) _
  have cutAgain : ∀ {scope : Scope}, scope.WellFormed →
      cut? (scope.resource.toList ++ '.' :: scope.actions.map Action.letter) =
        some (scope.resource.toList, scope.actions.map Action.letter) := by
    intro scope hwell
    exact cut?_append hwell.resource_isName.2 (by decide) _
  refine ⟨fun hheading => ?_, fun hkey => ?_⟩
  · have hfirst := cut hleft
    rw [hheading, cut hright] at hfirst
    simp only [Option.some.injEq, Prod.mk.injEq] at hfirst
    have hsecond := cutAgain hleft
    rw [← hfirst.2, cutAgain hright] at hsecond
    simp only [Option.some.injEq, Prod.mk.injEq] at hsecond
    have hactions := congrArg (List.filterMap Action.ofLetter?) hsecond.2
    rw [filterMap_ofLetter?_map_letter, filterMap_ofLetter?_map_letter] at hactions
    rw [key, key, String.toList_inj.1 hfirst.1, String.toList_inj.1 hsecond.1, hactions]
  · simp only [key, Prod.mk.injEq] at hkey
    rw [heading, heading, hkey.1, hkey.2.1, hkey.2.2]

theorem WellFormed.ne_of_mem_heading (hwell : left.WellFormed) : ∀ c ∈ left.heading, decide (c ≠ '?') = true := by
  intro c hc
  have hfree : '?' ∉ left.heading := hwell.not_mem_head
  exact decide_eq_true fun heq : c = '?' => hfree (heq ▸ hc)

theorem WellFormed.takeWhile_render (hwell : left.WellFormed) :
    left.render.toList.takeWhile (· ≠ '?') = left.heading := by
  cases hparams : left.params with
  | none => rw [toList_render_of_none hparams, List.takeWhile_eq_self_iff.2 hwell.ne_of_mem_heading]
  | some params =>
    rw [toList_render_of_some hparams]
    exact takeWhile_letters_append hwell.not_mem_head (Or.inr rfl)

theorem WellFormed.mark_mem_render_iff (hwell : left.WellFormed) :
    '?' ∈ left.render.toList ↔ left.params.isSome = true := by
  have hfree : '?' ∉ left.heading := hwell.not_mem_head
  cases hparams : left.params with
  | none =>
    rw [toList_render_of_none hparams]
    simpa using hfree
  | some params =>
    rw [toList_render_of_some hparams]
    simp

theorem WellFormed.writtenPairs_of_none (hwell : left.WellFormed) (hnone : left.params = none) :
    Params.writtenPairs left.render.toList = [[]] := by
  rw [toList_render_of_none hnone, Params.writtenPairs, List.dropWhile_eq_nil_iff.2 hwell.ne_of_mem_heading]
  rfl

theorem WellFormed.writtenPairs_of_some {params : Params} (hwell : left.WellFormed) (hsome : left.params = some params) :
    Params.writtenPairs left.render.toList = params.render.toList.splitOn '&' := by
  rw [toList_render_of_some hsome, Params.writtenPairs, List.dropWhile_append_of_pos hwell.ne_of_mem_heading]
  rfl

/-- Both or neither have parameters, and these are the same mapping, exactly if it looks so. -/
theorem WellFormed.rel_params_iff (hleft : left.WellFormed) (hright : right.WellFormed) :
    Option.Rel Table.SameValues left.params right.params ↔
      ('?' ∈ left.render.toList ↔ '?' ∈ right.render.toList) ∧
        (Params.writtenPairs left.render.toList).Perm (Params.writtenPairs right.render.toList) := by
  rw [hleft.mark_mem_render_iff, hright.mark_mem_render_iff]
  cases hparams : left.params with
  | none =>
    cases hothers : right.params with
    | none =>
      rw [hleft.writtenPairs_of_none hparams, hright.writtenPairs_of_none hothers]
      exact iff_of_true .none ⟨Iff.rfl, .refl _⟩
    | some others =>
      refine iff_of_false (fun hrel => ?_) (fun h => ?_)
      · cases hrel
      · exact absurd (h.1.2 rfl) (by decide)
  | some params =>
    cases hothers : right.params with
    | none =>
      refine iff_of_false (fun hrel => ?_) (fun h => ?_)
      · cases hrel
      · exact absurd (h.1.1 rfl) (by decide)
    | some others =>
      rw [hleft.writtenPairs_of_some hparams, hright.writtenPairs_of_some hothers,
        Params.perm_splitOn_render_iff (hleft.params_isPlain params hparams) (hright.params_isPlain others hothers)]
      refine ⟨fun hrel => ?_, fun h => .some h.2⟩
      cases hrel with
      | some hvalues => exact ⟨Iff.rfl, hvalues⟩

/-- Well-formed scopes are equal exactly if their written forms are alike. -/
theorem WellFormed.equivalent_iff_writtenAlike (hleft : left.WellFormed) (hright : right.WellFormed) :
    left.equivalent right = true ↔ WrittenAlike left.render right.render := by
  rw [equivalent, Bool.and_eq_true, decide_eq_true_eq, sameParams_iff_rel, hleft.rel_params_iff hright,
    ← hleft.heading_eq_iff hright, ← hleft.takeWhile_render, ← hright.takeWhile_render]
  refine ⟨fun h => ?_, fun halike => ?_⟩
  · exact ⟨h.1, h.2.1, h.2.2⟩
  · exact ⟨halike.before_eq, halike.marked_iff, halike.pairs_perm⟩

end Scope

end AccessScopes
