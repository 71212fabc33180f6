/-!
# Blanks

Which characters count as white space, and the two ways in which texts are freed of it.
Configuration lists and `.env` files use the same class. It is wider than the four blanks of ASCII
text: it holds the information separators, the next-line and no-break characters and every space,
line and paragraph separator of Unicode.
-/

namespace AccessScopes.Text

/-- White space: tab to carriage return, the four information separators, the blank, and the Unicode
separators. -/
def isBlank (c : Char) : Bool :=
  let code := c.toNat
  (0x09 ≤ code && code ≤ 0x0D) || (0x1C ≤ code && code ≤ 0x20) || code == 0x85 || code == 0xA0 ||
    code == 0x1680 || (0x2000 ≤ code && code ≤ 0x200A) || code == 0x2028 || code == 0x2029 ||
    code == 0x202F || code == 0x205F || code == 0x3000

/-- White space that does not end a line. -/
def isInlineBlank (c : Char) : Bool :=
  isBlank c && c ≠ '\n'

def stripEnd (text : List Char) : List Char :=
  (text.reverse.dropWhile isBlank).reverse

def strip (text : List Char) : List Char :=
  stripEnd (text.dropWhile isBlank)

/-- Every blank of ASCII text is one here. -/
theorem isBlank_of_isWhitespace {c : Char} (hspace : c.isWhitespace = true) : isBlank c = true := by
  simp only [Char.isWhitespace, Bool.or_eq_true, decide_eq_true_eq] at hspace
  rcases hspace with ((rfl | rfl) | rfl) | rfl <;> decide

example : isBlank '\u3000' ∧ isBlank '\x1c' ∧ ¬ isBlank '\u200b' ∧ ¬ isBlank '\ufeff' := by decide

end AccessScopes.Text
