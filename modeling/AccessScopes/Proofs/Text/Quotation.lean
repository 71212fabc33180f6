import AccessScopes.Text.Quoted

/-!
# What a quoted text shows

Every character of a quoted text is printable, since what is not is spelt out by escapes of plain ASCII. So a
message that ends in a quoted text is one line, and the text can be read from it: the quote that opens is the
first thing after the heading, and the reader needs no more than that.
-/

namespace AccessScopes.Text

/-- The control characters: those below the blank, the delete character and those after it. -/
def IsControl (c : Char) : Prop :=
  c.toNat ≤ 0x1F ∨ 0x7F ≤ c.toNat ∧ c.toNat ≤ 0x9F

/-- The characters at which a text is cut into lines. -/
def IsLineBreak (c : Char) : Prop :=
  c ∈ ['\n', '\x0b', '\x0c', '\r', '\x1c', '\x1d', '\x1e', '\u0085', '\u2028', '\u2029']

/-- The text is one line, and all of it can be seen. -/
structure IsVisibleLine (text : String) : Prop where
  printable : ∀ c ∈ text.toList, isPrintable c = true
  no_control : ∀ c ∈ text.toList, ¬ IsControl c
  no_break : ∀ c ∈ text.toList, ¬ IsLineBreak c

theorem not_isPrintable_of_isLineBreak {c : Char} (hbreak : IsLineBreak c) : isPrintable c = false := by
  have hall : ['\n', '\x0b', '\x0c', '\r', '\x1c', '\x1d', '\x1e', '\u0085', '\u2028', '\u2029'].all
      (fun d => isPrintable d = false) = true := by decide +kernel
  exact of_decide_eq_true (List.all_eq_true.1 hall c hbreak)

theorem isVisibleLine_iff {text : String} : IsVisibleLine text ↔ ∀ c ∈ text.toList, isPrintable c = true := by
  refine ⟨IsVisibleLine.printable, fun hprintable => ⟨hprintable, ?_, ?_⟩⟩
  · intro c hc hcontrol
    have hnot := not_isPrintable_of_control hcontrol
    rw [hprintable c hc] at hnot
    cases hnot
  · intro c hc hbreak
    have hnot := not_isPrintable_of_isLineBreak hbreak
    rw [hprintable c hc] at hnot
    cases hnot

theorem IsVisibleLine.append {text more : String} (htext : IsVisibleLine text) (hmore : IsVisibleLine more) :
    IsVisibleLine (text ++ more) := by
  rw [isVisibleLine_iff, String.toList_append]
  intro c hc
  exact (List.mem_append.1 hc).elim (htext.printable c) (hmore.printable c)

/-! ### Quoted texts -/

theorem isPrintable_of_mem_digits {width n : Nat} {c : Char} (hc : c ∈ Hex.digits width n) : isPrintable c = true := by
  obtain ⟨hlow, hhigh⟩ := Hex.isAscii_of_mem_digits hc
  exact isPrintable_of_ascii hlow hhigh

theorem isPrintable_of_mem_escape {mark c d : Char} (hmark : isPrintable mark = true) (hd : d ∈ escape mark c) :
    isPrintable d = true := by
  have hbackslash : isPrintable '\\' = true := isPrintable_of_ascii (by decide) (by decide)
  have hdigits : ∀ letter width, isPrintable letter = true → d ∈ '\\' :: letter :: Hex.digits width c.toNat →
      isPrintable d = true := by
    intro letter width hletter hmem
    rcases List.mem_cons.1 hmem with rfl | hmem
    · exact hbackslash
    · rcases List.mem_cons.1 hmem with rfl | hmem
      · exact hletter
      · exact isPrintable_of_mem_digits hmem
  have hpair : ∀ letter, isPrintable letter = true → d ∈ ['\\', letter] → isPrintable d = true :=
    fun letter hletter hmem => hdigits letter 0 hletter hmem
  unfold escape at hd
  repeat' split at hd
  · rename_i hspecial
    refine hpair c ?_ hd
    rcases hspecial with rfl | rfl
    · exact hmark
    · exact hbackslash
  · exact hpair 't' (by decide) hd
  · exact hpair 'n' (by decide) hd
  · exact hpair 'r' (by decide) hd
  · rename_i hprintable
    rw [List.mem_singleton.1 hd]
    exact hprintable
  · exact hdigits 'x' 2 (by decide) hd
  · exact hdigits 'u' 4 (by decide) hd
  · exact hdigits 'U' 8 (by decide) hd

theorem isPrintable_quoteMark (text : List Char) : isPrintable (quoteMark text) = true := by
  rcases quoteMark_eq text with hmark | hmark <;> rw [hmark] <;> exact isPrintable_of_ascii (by decide) (by decide)

theorem isVisibleLine_quote (text : String) : IsVisibleLine (quote text) := by
  rw [isVisibleLine_iff, quote, String.toList_ofList, quoteChars]
  have hmark := isPrintable_quoteMark text.toList
  intro c hc
  rcases List.mem_cons.1 hc with rfl | hc
  · exact hmark
  · rcases List.mem_append.1 hc with hc | hc
    · obtain ⟨d, -, hd⟩ := List.mem_flatMap.1 hc
      exact isPrintable_of_mem_escape hmark hd
    · rw [List.mem_singleton.1 hc]
      exact hmark

theorem quote_inj {text other : String} : quote text = quote other ↔ text = other := by
  constructor
  · intro hquote
    have hread := unquote?_quote text
    rw [hquote, unquote?_quote, Option.some.injEq] at hread
    exact hread.symm
  · intro heq
    rw [heq]

/-! ### Messages -/

/-- Reads the text that a message names, which stands in quotes behind the first colon and a blank. -/
def named? (message : String) : Option String :=
  unquote? (.ofList ((message.toList.dropWhile (· ≠ ':')).drop 2))

/-- The message is a heading with the quoted text behind it. It is one line, and the text can be read from it. -/
structure Names (message text : String) : Prop where
  quoted : ∃ heading, message = heading ++ quote text
  visible : IsVisibleLine message
  recovered : named? message = some text

/-- The heading is one line that ends in a colon and a blank, and has no other colon. -/
structure IsHeading (heading : String) : Prop where
  visible : IsVisibleLine heading
  colon : heading.toList.dropWhile (· ≠ ':') = [':', ' ']

theorem isHeading_iff {heading : String} :
    heading.toList.all isPrintable = true ∧ heading.toList.dropWhile (· ≠ ':') = [':', ' '] ↔
      IsHeading heading := by
  rw [List.all_eq_true, ← isVisibleLine_iff]
  exact ⟨fun h => ⟨h.1, h.2⟩, fun h => ⟨h.visible, h.colon⟩⟩

instance (heading : String) : Decidable (IsHeading heading) :=
  decidable_of_iff _ isHeading_iff

theorem IsHeading.named?_append {heading : String} (hheading : IsHeading heading) (text : String) :
    named? (heading ++ quote text) = some text := by
  have hrest : (heading ++ quote text).toList.dropWhile (· ≠ ':') = [':', ' '] ++ (quote text).toList := by
    rw [String.toList_append, List.dropWhile_append, hheading.colon]
    rfl
  rw [named?, hrest]
  show unquote? (.ofList (quote text).toList) = some text
  rw [String.ofList_toList, unquote?_quote]

theorem IsHeading.names {heading : String} (hheading : IsHeading heading) (text : String) :
    Names (heading ++ quote text) text where
  quoted := ⟨heading, rfl⟩
  visible := hheading.visible.append (isVisibleLine_quote text)
  recovered := hheading.named?_append text

end AccessScopes.Text
