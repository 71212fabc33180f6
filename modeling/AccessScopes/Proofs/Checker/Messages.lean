import AccessScopes.Checker
import AccessScopes.Proofs.Text.Quotation

/-!
# What refusals say

Whoever is told that a scope cannot be read or that a request is denied is told which one, in a line of its
own. Nothing that stands in the refused text can end this line or be taken for another text, so no request
can pose as another in what is said or logged about it.
-/

namespace AccessScopes

open Text

theorem Unparsable.names_message (error : Unparsable) : Names error.message error.text := by
  have hheading : IsHeading "Unparsable scope: " := by decide
  exact hheading.names error.text

theorem Denied.names_message (error : Denied) : Names error.message error.text := by
  have hheading : IsHeading "Permission denied: " := by decide
  exact hheading.names error.text

theorem AllowLists.text_of_require {lists : AllowLists} {text : String} {error : Unparsable}
    (hrefused : lists.require text = .error error) : error.text = text := by
  unfold require at hrefused
  split at hrefused
  · cases hrefused
    rfl
  · cases hrefused

namespace Checker

variable {checker : Checker} {text : String}

theorem text_of_require {error : Denied} (hrefused : checker.require text = .error error) : error.text = text := by
  unfold require at hrefused
  split at hrefused
  · cases hrefused
  · cases hrefused
    rfl

theorem eq_of_mem_diagnostics {diagnostic : Diagnostic} (hheard : diagnostic ∈ checker.diagnostics text) :
    diagnostic = ⟨.debug, "unparsable request denied: " ++ quote text⟩ := by
  unfold diagnostics at hheard
  split at hheard
  · exact List.mem_singleton.1 hheard
  · cases hheard

theorem names_of_mem_diagnostics {diagnostic : Diagnostic} (hheard : diagnostic ∈ checker.diagnostics text) :
    Names diagnostic.text text ∧ Names diagnostic.line text := by
  have hheading : IsHeading "unparsable request denied: " := by decide
  have hlevel : IsHeading ("DEBUG" ++ " " ++ "unparsable request denied: ") := by decide
  rw [eq_of_mem_diagnostics hheard, Diagnostic.line, ← String.append_assoc]
  exact ⟨hheading.names text, hlevel.names text⟩

/-- Different texts are quoted differently, and a quoted text is read back. It is a single line of printable
characters, without line breaks and control characters. The message about a scope that cannot be read, the one
about a request that is denied and the diagnostic about a request that cannot be read, by itself or behind its
level, are headings with the refused text quoted behind them: each is a single line of printable characters,
from which the text can be read. -/
theorem quotes_differ_and_messages_name_texts :
    (∀ text other : String, quote text = quote other ↔ text = other) ∧
      (∀ text : String, unquote? (quote text) = some text ∧ IsVisibleLine (quote text)) ∧
      (∀ (lists : AllowLists) (text : String) (error : Unparsable), lists.require text = .error error →
        error.message = "Unparsable scope: " ++ quote text ∧ Names error.message text) ∧
      (∀ (checker : Checker) (text : String) (error : Denied), checker.require text = .error error →
        error.message = "Permission denied: " ++ quote text ∧ Names error.message text) ∧
      ∀ (checker : Checker) (text : String), ∀ diagnostic ∈ checker.diagnostics text,
        diagnostic.text = "unparsable request denied: " ++ quote text ∧ Names diagnostic.text text ∧
          Names diagnostic.line text := by
  refine ⟨fun text other => quote_inj, ?_, ?_, ?_, ?_⟩
  · intro text
    exact ⟨unquote?_quote text, isVisibleLine_quote text⟩
  · intro lists text error hrefused
    cases AllowLists.text_of_require hrefused
    exact ⟨rfl, error.names_message⟩
  · intro checker text error hrefused
    cases text_of_require hrefused
    exact ⟨rfl, error.names_message⟩
  · intro checker text diagnostic hheard
    refine ⟨?_, names_of_mem_diagnostics hheard⟩
    rw [eq_of_mem_diagnostics hheard]

/-- A line feed in a request is spelt out, and so is a backslash, so the two requests cannot be confused. -/
example :
    Denied.message ⟨"a/b.r\n"⟩ = "Permission denied: 'a/b.r\\n'" ∧
      Denied.message ⟨"a/b.r\\n"⟩ = "Permission denied: 'a/b.r\\\\n'" := by
  decide +kernel

end Checker

end AccessScopes
