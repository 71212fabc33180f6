import AccessScopes.AllowLists
import AccessScopes.Proofs.Params.Effective
import AccessScopes.Scope.Grammar
import Mathlib.Data.List.Forall2

/-!
# What the reader accepts

The texts that are scopes under allow-lists, and what is read from them, without the reader: a
layout is admitted if it is grammatical and the lists name its parts, and it describes a scope if the
fields of the scope are what stands in its parts. The parameters are looked for in the whole text,
because a `?` that serves as a separator opens them as well.
-/

namespace AccessScopes

/-- The letters, each with the action that it stands for. -/
def Action.codes : List (Char × Action) :=
  [('c', .create), ('r', .read), ('u', .update), ('d', .delete), ('s', .subscribe)]

theorem Action.mem_codes_iff {letter : Char} {action : Action} :
    (letter, action) ∈ Action.codes ↔ action.letter = letter := by
  cases action <;> simp [Action.codes, Action.letter, eq_comm]

namespace Scope

open Text

/-- A layout of the text whose subject and resource are named by the lists, as far as there are
lists with names. -/
structure Layout.Admitted (layout : Layout) (subjects resources : Option (List String)) (text : String) : Prop where
  valid : layout.Valid
  text_eq : layout.text = text.toList
  subject_listed : ∀ names ∈ subjects, names = [] ∨ .ofList layout.subject ∈ names
  resource_listed : ∀ names ∈ resources, names = [] ∨ layout.resource = ['*'] ∨ .ofList layout.resource ∈ names

/-- The fields of the scope are what stands in the layout. -/
structure Layout.Describes (layout : Layout) (scope : Scope) : Prop where
  subject_eq : scope.subject.toList = layout.subject
  resource_eq : scope.resource.toList = layout.resource
  actions_eq : List.Forall₂ (fun letter action => (letter, action) ∈ Action.codes) layout.letters scope.actions
  params_eq_none_iff : scope.params = none ↔ '?' ∉ layout.text
  params_eq : ∀ raw, AfterFirst '?' layout.text raw → ∃ params, scope.params = some params ∧
    ∀ key value, params.get? key = some value ↔ Params.Effective raw key.toList value.toList

/-! ### Layouts describe what is read -/

theorem forall₂_codes {letters : List Char} (hknown : ∀ c ∈ letters, c ∈ ['c', 'r', 'u', 'd', 's']) :
    List.Forall₂ (fun letter action => (letter, action) ∈ Action.codes) letters
      (letters.filterMap Action.ofLetter?) := by
  rw [Action.eq_map_letter_of_ofLetters (ofLetters_eq_ok_filterMap hknown),
    filterMap_ofLetter?_map_letter, List.forall₂_map_left_iff, List.forall₂_same]
  intro action _
  exact Action.mem_codes_iff.2 rfl

theorem Layout.Valid.describes {layout : Layout} (hvalid : layout.Valid) : layout.Describes layout.scope where
  subject_eq := String.toList_ofList
  resource_eq := String.toList_ofList
  actions_eq := forall₂_codes hvalid.letters_known
  params_eq_none_iff := by
    rw [Layout.scope, Option.map_eq_none_iff]
    exact not_mem_iff_splitOn.symm
  params_eq := by
    intro raw hraw
    have htext : paramsText? layout.text = some raw := hraw.getElem?_splitOn
    refine ⟨Params.parse raw, ?_, fun key value => Params.get?_parse_eq_some_iff⟩
    rw [Layout.scope, htext]
    rfl

theorem Layout.Describes.letters_eq {layout : Layout} {scope : Scope} (hdescribes : layout.Describes scope) :
    layout.letters = scope.actions.map Action.letter := by
  have hcodes := hdescribes.actions_eq
  rw [← List.forall₂_eq_eq_eq, List.forall₂_map_right_iff]
  exact hcodes.imp fun letter action hcode => (Action.mem_codes_iff.1 hcode).symm

/-- What stands in a text with parameters gives the values that the scope has. -/
theorem Layout.Describes.exists_raw {layout : Layout} {scope : Scope} {params : Params}
    (hdescribes : layout.Describes scope) (hparams : scope.params = some params) :
    ∃ raw, AfterFirst '?' layout.text raw ∧
      ∀ key value, params.get? key = some value ↔ Params.Effective raw key.toList value.toList := by
  have hmark : '?' ∈ layout.text := by
    by_contra hnone
    rw [hdescribes.params_eq_none_iff.2 hnone] at hparams
    cases hparams
  obtain ⟨raw, hraw⟩ := exists_afterFirst_of_mem hmark
  obtain ⟨other, hother, hvalues⟩ := hdescribes.params_eq raw hraw
  rw [hparams] at hother
  cases hother
  exact ⟨raw, hraw, hvalues⟩

/-! ### The allow-lists -/

theorem admits_scope_iff {subjects resources : Option (List String)} {layout : Layout} :
    (AllowLists.given subjects resources).admits layout.scope = true ↔
      (∀ names ∈ subjects, names = [] ∨ .ofList layout.subject ∈ names) ∧
        ∀ names ∈ resources, names = [] ∨ layout.resource = ['*'] ∨ .ofList layout.resource ∈ names := by
  have hwildcard : String.ofList layout.resource = "*" ↔ layout.resource = ['*'] := by
    rw [← String.toList_inj, String.toList_ofList]
    rfl
  have hsubject : layout.scope.subject = .ofList layout.subject := rfl
  have hresource : layout.scope.resource = .ofList layout.resource := rfl
  simp only [AllowLists.admits, AllowLists.given, Bool.and_eq_true, Bool.or_eq_true, List.isEmpty_iff,
    List.contains_iff_mem, isWildcard_iff, hsubject, hresource, hwildcard, or_assoc]
  -- A missing list is read as an empty one, which restricts nothing.
  apply and_congr
  · cases subjects <;> simp
  · cases resources <;> simp

theorem parse?_eq_some_iff_admitted {subjects resources : Option (List String)} {text : String} {scope : Scope} :
    (AllowLists.given subjects resources).parse? text = some scope ↔
      ∃ layout : Layout, layout.Admitted subjects resources text ∧ layout.scope = scope := by
  rw [AllowLists.parse?_eq_some_iff, parse?, parseChars?_eq_some_iff]
  constructor
  · intro h
    obtain ⟨⟨layout, hvalid, htext, rfl⟩, hadmits⟩ := h
    obtain ⟨hsubject, hresource⟩ := admits_scope_iff.1 hadmits
    exact ⟨layout, ⟨hvalid, htext, hsubject, hresource⟩, rfl⟩
  · intro h
    obtain ⟨layout, hadmitted, rfl⟩ := h
    refine ⟨⟨layout, hadmitted.valid, hadmitted.text_eq, rfl⟩, ?_⟩
    exact admits_scope_iff.2 ⟨hadmitted.subject_listed, hadmitted.resource_listed⟩

/-- Reading succeeds exactly on the texts with an admitted layout; a text has at most one layout,
and what is read is what it describes. -/
theorem parse?_accepts_exactly_layouts (subjects resources : Option (List String)) (text : String) :
    (((AllowLists.given subjects resources).parse? text).isSome = true ↔
        ∃ layout : Layout, layout.Admitted subjects resources text) ∧
      (∀ left right : Layout, left.Valid → right.Valid →
        left.text = text.toList → right.text = text.toList → left = right) ∧
      ∀ (layout : Layout) (scope : Scope), layout.Admitted subjects resources text →
        (AllowLists.given subjects resources).parse? text = some scope → layout.Describes scope := by
  refine ⟨?_, ?_, ?_⟩
  · rw [Option.isSome_iff_exists]
    constructor
    · intro h
      obtain ⟨scope, hparse⟩ := h
      obtain ⟨layout, hadmitted, -⟩ := parse?_eq_some_iff_admitted.1 hparse
      exact ⟨layout, hadmitted⟩
    · intro h
      obtain ⟨layout, hadmitted⟩ := h
      exact ⟨layout.scope, parse?_eq_some_iff_admitted.2 ⟨layout, hadmitted, rfl⟩⟩
  · intro left right hleft hright hleftText hrightText
    apply hleft.unique hright
    rw [hleftText, hrightText]
  · intro layout scope hadmitted hparse
    have hscope := parse?_eq_some_iff_admitted.2 ⟨layout, hadmitted, rfl⟩
    rw [hparse] at hscope
    cases hscope
    exact hadmitted.valid.describes

/-- A `?` after the subject opens the parameters and the next one ends them, so no pair is left here. -/
example : (parse? "u?v.r?k=w").map Scope.params = some (some ∅) := by decide

end Scope

end AccessScopes
