import AccessScopes.Proofs.Config.Items

/-!
# Comma-separated lists joined to one

Two lists joined by a comma are read as the items of the one and then those of the other, and the items that
are read are written and read back as they stand. Blanks around a comma do not count. So a checker whose
grants come from two settings joined to one allows what the grants of either setting allow.
-/

namespace AccessScopes

namespace Checker

variable {lists : AllowLists} {left right : List String} {text : String}

/-- Together the grants of two lists allow what those of either allow, under the same allow-lists. -/
theorem can_ofGrants_append :
    (ofGrants lists (left ++ right)).can text = true ↔
      (ofGrants lists left).can text = true ∨ (ofGrants lists right).can text = true := by
  have hpermits : ∀ request, (ofGrants lists (left ++ right)).permits request = true ↔
      (ofGrants lists left).permits request = true ∨ (ofGrants lists right).permits request = true := by
    intro request
    rw [permits, ofGrants, List.filterMap_append, List.any_append, Bool.or_eq_true]
    rfl
  simp only [can_eq_true_iff, hpermits, and_or_left, exists_or]
  rfl

end Checker

namespace Config

/-- The environment has the text as its setting of the grants, beside the given allow-lists. -/
structure SetsGrants (environment : Environment) (text : String) (lists : AllowLists) : Prop where
  setting : environment.get? grantsVariable = some text
  lists_eq : (ofEnvironment environment).lists = lists

variable {environment : Environment} {lists : AllowLists} {text : String}

theorem SetsGrants.checker_eq (hgrants : SetsGrants environment text lists) :
    (ofEnvironment environment).checker = .ofGrants lists (items text) := by
  have hitems : (ofEnvironment environment).grants = items text := by
    rw [ofEnvironment, hgrants.setting]
    rfl
  rw [checker, hgrants.lists_eq, hitems]

/-- Joining texts by a comma joins their items. Items are never empty, hold no comma and have no blank at
either end; texts of this kind are read back from their list, so the items of a text are, too. Blanks around
an item do not count, and a text of blanks has no items. The checker for two settings of the grants that are
joined by a comma allows what the checker for one of them allows. -/
theorem items_join_and_checkers_add_up :
    (∀ left right : String, items (left ++ "," ++ right) = items left ++ items right) ∧
      (∀ text : String, ∀ item ∈ items text, IsItem item) ∧
      (∀ texts : List String, (∀ text ∈ texts, IsItem text) → items (",".intercalate texts) = texts) ∧
      (∀ text : String, items (",".intercalate (items text)) = items text) ∧
      (∀ before item after : String, (∀ c ∈ before.toList, Text.isBlank c = true) →
        (∀ c ∈ after.toList, Text.isBlank c = true) → IsItem item → items (before ++ item ++ after) = [item]) ∧
      (∀ blanks : String, (∀ c ∈ blanks.toList, Text.isBlank c = true) → items blanks = []) ∧
      ∀ (joined first second : Environment) (lists : AllowLists) (left right : String),
        SetsGrants joined (left ++ "," ++ right) lists → SetsGrants first left lists → SetsGrants second right lists →
          ∀ request, (ofEnvironment joined).checker.can request = true ↔
            (ofEnvironment first).checker.can request = true ∨ (ofEnvironment second).checker.can request = true := by
  refine ⟨items_append, fun text item => isItem_of_mem_items, fun texts => items_intercalate, ?_, ?_, ?_, ?_⟩
  · intro text
    exact items_intercalate fun item hitem => isItem_of_mem_items hitem
  · intro before item after hbefore hafter hitem
    exact items_padded hitem hbefore hafter
  · intro blanks hblank
    exact items_of_blank hblank
  · intro joined first second lists left right hjoined hfirst hsecond request
    rw [hjoined.checker_eq, hfirst.checker_eq, hsecond.checker_eq, items_append]
    exact Checker.can_ofGrants_append

example : items " a/b.r,\u3000,c/d.u\t, e f/*.s" = ["a/b.r", "c/d.u", "e f/*.s"] := by decide +kernel

end Config

end AccessScopes
