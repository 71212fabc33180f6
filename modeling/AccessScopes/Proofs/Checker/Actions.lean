import AccessScopes.Proofs.Checker.Decision
import AccessScopes.Proofs.Scope.Containment
import AccessScopes.Proofs.Scope.RoundTrip

/-!
# Asking for actions

There are two ways to ask what a scope permits: for one action, by its letter, and for a word of letters, by a
request that is put to a checker which holds the scope as its grant. Both go back to the letters in the text of
the scope. The request is the scope itself with other actions, so it is read back from its written form, and
nothing but the actions decides.
-/

namespace AccessScopes

namespace Action

theorem ofCode?_eq_some_iff {code : String} {action : Action} :
    ofCode? code = some action ↔ code = .singleton action.letter := by
  rw [← String.toList_inj, String.toList_singleton, ofCode?]
  constructor
  · intro hcode
    split at hcode
    · rename_i c hlist
      rw [hlist, ofLetter?_eq_some_iff.1 hcode]
    · cases hcode
  · intro hlist
    rw [hlist]
    exact ofLetter?_letter action

end Action

namespace Scope

variable {scope : Scope} {layout : Layout} {code : String} {action : Action} {actions : List Action}

theorem allows_iff : scope.allows action = true ↔ action ∈ scope.actions :=
  decide_eq_true_iff

theorem allowsCode_iff : scope.allowsCode code = true ↔ ∃ action ∈ scope.actions, code = .singleton action.letter := by
  rw [allowsCode, Option.any_eq_true]
  constructor
  · intro h
    obtain ⟨action, hcode, hallows⟩ := h
    exact ⟨action, allows_iff.1 hallows, Action.ofCode?_eq_some_iff.1 hcode⟩
  · intro h
    obtain ⟨action, haction, hcode⟩ := h
    exact ⟨action, Action.ofCode?_eq_some_iff.2 hcode, allows_iff.2 haction⟩

/-- An action and its letter get the same answer. -/
theorem allowsCode_letter (scope : Scope) (action : Action) :
    scope.allowsCode (.singleton action.letter) = scope.allows action := by
  rw [allowsCode, Action.ofCode?_eq_some_iff.2 rfl]
  rfl

/-- What is permitted by its letter stands in the text of the scope as a letter. -/
theorem Layout.Describes.allowsCode_iff_letter (hdescribes : layout.Describes scope) :
    scope.allowsCode code = true ↔
      ∃ letter ∈ ['c', 'r', 'u', 'd', 's'], code.toList = [letter] ∧ letter ∈ layout.letters := by
  rw [allowsCode_iff]
  constructor
  · intro h
    obtain ⟨action, haction, rfl⟩ := h
    exact ⟨action.letter, letter_mem action, String.toList_singleton _, hdescribes.mem_letters_iff.2 haction⟩
  · intro h
    obtain ⟨letter, -, hcode, hletter⟩ := h
    rw [hdescribes.letters_eq, List.mem_map] at hletter
    obtain ⟨action, haction, rfl⟩ := hletter
    refine ⟨action, haction, ?_⟩
    rw [← String.toList_inj, hcode, String.toList_singleton]

/-! ### Other actions -/

theorem WellFormed.with_actions (hwell : scope.WellFormed) (hsome : actions ≠ []) :
    { scope with actions }.WellFormed where
  subject_isName := hwell.subject_isName
  resource_isName := hwell.resource_isName
  actions_ne_nil := hsome
  params_isPlain := hwell.params_isPlain

/-- A scope covers itself with other actions exactly if it allows each of them. -/
theorem covers_with_actions_iff :
    scope.covers { scope with actions } = true ↔ ∀ action ∈ actions, scope.allows action = true := by
  have hself := covers_iff.1 (covers_refl scope)
  rw [covers_iff]
  constructor
  · intro h action haction
    exact allows_iff.2 (h.2.2.1 action haction)
  · intro h
    exact ⟨rfl, Or.inr rfl, fun action haction => allows_iff.1 (h action haction), hself.2.2.2⟩

end Scope

namespace AllowLists

/-- With other actions, what was read is read back under the same lists. -/
theorem parse?_render_with_actions {lists : AllowLists} {text : String} {scope : Scope} {actions : List Action}
    (hparse : lists.parse? text = some scope) (hsome : actions ≠ []) :
    lists.parse? { scope with actions }.render = some { scope with actions } := by
  have hwell := (wellFormed_of_parse? hparse).with_actions hsome
  have hadmits : lists.admits { scope with actions } = true := (parse?_eq_some_iff.1 hparse).2
  exact parse?_eq_some_iff.2 ⟨hwell.parse?_render, hadmits⟩

end AllowLists

namespace Checker

theorem can_with_actions_iff {lists : AllowLists} {text : String} {scope : Scope} {actions : List Action}
    (hparse : lists.parse? text = some scope) (hsome : actions ≠ []) :
    (ofGrants lists [text]).can { scope with actions }.render = true ↔
      ∀ action ∈ actions, scope.allows action = true := by
  rw [can_ofGrants_iff, AllowLists.parse?_render_with_actions hparse hsome, ← Scope.covers_with_actions_iff]
  simp [hparse]

/-- A scope that was read permits by its letter what stands as a letter in its text, and an action as it permits
its letter. A checker with the one grant allows the scope with the actions of a word exactly if the scope permits
each letter of the word. -/
theorem letters_agree_with_text_and_checker (subjects resources : Option (List String)) (text : String) (scope : Scope)
    (hparse : (AllowLists.given subjects resources).parse? text = some scope) :
    ∃ layout : Scope.Layout, layout.Admitted subjects resources text ∧
      (∀ code : String, scope.allowsCode code = true ↔
        ∃ letter ∈ ['c', 'r', 'u', 'd', 's'], code.toList = [letter] ∧ letter ∈ layout.letters) ∧
      (∀ action : Action, scope.allows action = scope.allowsCode (.singleton action.letter)) ∧
      ∀ word : String, word ≠ "" → (∀ letter ∈ word.toList, letter ∈ ['c', 'r', 'u', 'd', 's']) →
        ∃ actions, Action.ofLetters word.toList = .ok actions ∧
          ((ofGrants (.given subjects resources) [text]).can { scope with actions }.render = true ↔
            ∀ letter ∈ word.toList, scope.allowsCode (.singleton letter) = true) := by
  obtain ⟨layout, hadmitted, rfl⟩ := Scope.parse?_eq_some_iff_admitted.1 hparse
  refine ⟨layout, hadmitted, fun code => hadmitted.valid.describes.allowsCode_iff_letter, ?_, ?_⟩
  · intro action
    exact (Scope.allowsCode_letter layout.scope action).symm
  · intro word hword hletters
    have hread := Scope.ofLetters_eq_ok_filterMap hletters
    generalize word.toList.filterMap Action.ofLetter? = actions at hread
    have hspelt : word.toList = actions.map Action.letter := Action.eq_map_letter_of_ofLetters hread
    have hsome : actions ≠ [] := by
      rintro rfl
      exact hword (String.toList_inj.1 hspelt)
    refine ⟨actions, hread, ?_⟩
    rw [can_with_actions_iff hparse hsome, hspelt, List.forall_mem_map]
    simp only [Scope.allowsCode_letter]

/-- The scope of a text in which one letter stands twice and the first separator is a question mark. -/
def repeated : Scope :=
  { subject := "user", resource := "orders", actions := [.create, .read, .read], params := some ∅ }

theorem repeated_letters_agree :
    (AllowLists.given (some ["user"]) (some ["orders"])).parse? "user?orders.crr" = some repeated ∧
      repeated.allowsCode "r" = true ∧ repeated.allowsCode "d" = false ∧
      ((ofGrants (.given (some ["user"]) (some ["orders"])) ["user?orders.crr"]).can "user/orders.rd?" = true ↔
        ∀ letter ∈ "rd".toList, repeated.allowsCode (.singleton letter) = true) := by
  have hparse : (AllowLists.given (some ["user"]) (some ["orders"])).parse? "user?orders.crr" = some repeated := by
    decide +kernel
  have hletters : ∀ letter ∈ "rd".toList, letter ∈ ['c', 'r', 'u', 'd', 's'] := by simp
  obtain ⟨_, -, -, -, hword⟩ :=
    letters_agree_with_text_and_checker (some ["user"]) (some ["orders"]) "user?orders.crr" repeated hparse
  obtain ⟨actions, hactions, hagree⟩ := hword "rd" (by decide) hletters
  have hspelt : Action.ofLetters "rd".toList = .ok [.read, .delete] := by decide
  cases hspelt.symm.trans hactions
  exact ⟨hparse, by decide, by decide, hagree⟩

end Checker

end AccessScopes
