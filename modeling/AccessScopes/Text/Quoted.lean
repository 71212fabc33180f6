import AccessScopes.Text.Hex
import AccessScopes.Text.Printable

/-!
# Quoted texts

Messages name a text in quotes, so that its ends and every unusual character in it can be seen. The
quotes are apostrophes, unless the text holds an apostrophe and no double quote. A quoted text is
one line of printable characters, and reading it gives back the text: `unquote?_quote`.
-/

namespace AccessScopes.Text

/-- The quote around a text: the apostrophe, unless the text holds one and no double quote. -/
def quoteMark (text : List Char) : Char :=
  if '\x27' ∈ text ∧ '\x22' ∉ text then '\x22' else '\x27'

def escape (mark c : Char) : List Char :=
  if c = mark ∨ c = '\\' then ['\\', c]
  else if c = '\t' then ['\\', 't']
  else if c = '\n' then ['\\', 'n']
  else if c = '\r' then ['\\', 'r']
  else if isPrintable c then [c]
  else if c.toNat < 0x100 then '\\' :: 'x' :: Hex.digits 2 c.toNat
  else if c.toNat < 0x10000 then '\\' :: 'u' :: Hex.digits 4 c.toNat
  else '\\' :: 'U' :: Hex.digits 8 c.toNat

def quoteChars (text : List Char) : List Char :=
  quoteMark text :: (text.flatMap (escape (quoteMark text)) ++ [quoteMark text])

def quote (text : String) : String :=
  .ofList (quoteChars text.toList)

/-! ### Reading -/

/-- Reads a code point of `width` hexadecimal digits. -/
def codePoint? (width : Nat) (text : List Char) : Option (Char × List Char) :=
  (Hex.read? width text).map fun (code, rest) => (Char.ofNat code, rest)

/-- Reads what stands after a backslash. -/
def escaped? : List Char → Option (Char × List Char)
  | [] => none
  | c :: rest =>
    if c = 't' then some ('\t', rest)
    else if c = 'n' then some ('\n', rest)
    else if c = 'r' then some ('\r', rest)
    else if c = 'x' then codePoint? 2 rest
    else if c = 'u' then codePoint? 4 rest
    else if c = 'U' then codePoint? 8 rest
    else some (c, rest)

theorem length_of_codePoint? {width : Nat} {text rest : List Char} {c : Char}
    (hread : codePoint? width text = some (c, rest)) : rest.length ≤ text.length := by
  simp only [codePoint?, Option.map_eq_some_iff, Prod.mk.injEq] at hread
  obtain ⟨⟨code, after⟩, hdigits, -, hrest⟩ := hread
  have hlength := Hex.length_of_read? hdigits
  dsimp only at hrest
  subst hrest
  omega

theorem length_of_escaped? {text rest : List Char} {c : Char} (hread : escaped? text = some (c, rest)) :
    rest.length < text.length := by
  cases text with
  | nil => simp [escaped?] at hread
  | cons first tail =>
    have hcode : ∀ width, codePoint? width tail = some (c, rest) → rest.length < tail.length + 1 :=
      fun _ h => Nat.lt_succ_of_le (length_of_codePoint? h)
    have hone : ∀ d, some (d, tail) = some (c, rest) → rest.length < tail.length + 1 := by
      intro d h
      rw [← (Prod.mk.inj (Option.some.inj h)).2]
      exact Nat.lt_succ_self _
    rw [escaped?] at hread
    rw [List.length_cons]
    repeat' split at hread
    all_goals first | exact hone _ hread | exact hcode _ hread

/-- Reads a text up to the closing quote, which must be the last character. -/
def quotedBody? (mark : Char) (text : List Char) : Option (List Char) :=
  match text with
  | [] => none
  | c :: rest =>
    if c = mark then if rest = [] then some [] else none
    else if c = '\\' then
      match hescaped : escaped? rest with
      | none => none
      | some (d, after) =>
        have := length_of_escaped? hescaped
        (quotedBody? mark after).map (d :: ·)
    else (quotedBody? mark rest).map (c :: ·)
termination_by text.length
decreasing_by all_goals simp only [List.length_cons]; omega

def unquoteChars? : List Char → Option (List Char)
  | [] => none
  | mark :: rest => if mark = '\x27' ∨ mark = '\x22' then quotedBody? mark rest else none

def unquote? (text : String) : Option String :=
  (unquoteChars? text.toList).map String.ofList

/-! ### Reading what was written -/

theorem quoteMark_eq (text : List Char) : quoteMark text = '\x27' ∨ quoteMark text = '\x22' := by
  unfold quoteMark
  split
  · exact Or.inr rfl
  · exact Or.inl rfl

theorem quotedBody?_close (mark : Char) : quotedBody? mark [mark] = some [] := by
  simp [quotedBody?]

theorem quotedBody?_plain {mark c : Char} {rest : List Char} (hmark : c ≠ mark) (hbackslash : c ≠ '\\') :
    quotedBody? mark (c :: rest) = (quotedBody? mark rest).map (c :: ·) := by
  rw [quotedBody?, if_neg hmark, if_neg hbackslash]

theorem quotedBody?_escaped {mark d : Char} {rest after : List Char} (hmark : mark ≠ '\\')
    (hescaped : escaped? rest = some (d, after)) :
    quotedBody? mark ('\\' :: rest) = (quotedBody? mark after).map (d :: ·) := by
  rw [quotedBody?, if_neg hmark.symm, if_pos rfl]
  split
  · simp_all
  · rename_i hread
    rw [hescaped, Option.some.injEq, Prod.mk.injEq] at hread
    rw [hread.1, hread.2]

theorem codePoint?_digits_append {width : Nat} {c : Char} (hlt : c.toNat < Hex.capacity width) (rest : List Char) :
    codePoint? width (Hex.digits width c.toNat ++ rest) = some (c, rest) := by
  simp [codePoint?, Hex.read?_digits_append hlt]

private theorem toNat_lt_capacity (c : Char) : c.toNat < Hex.capacity 8 := by
  have hvalid : c.toNat < 0xD800 ∨ 0xDFFF < c.toNat ∧ c.toNat < 0x110000 := c.valid
  have hcapacity : Hex.capacity 8 = 0x100000000 := rfl
  omega

/-- The escape of a character is read as that character. -/
theorem quotedBody?_escape_append {mark : Char} (hmark : mark = '\x27' ∨ mark = '\x22') (c : Char)
    (rest : List Char) :
    quotedBody? mark (escape mark c ++ rest) = (quotedBody? mark rest).map (c :: ·) := by
  have hne : mark ≠ '\\' := by rcases hmark with rfl | rfl <;> decide
  unfold escape
  split
  · rename_i hspecial
    refine quotedBody?_escaped hne ?_
    rcases hspecial with rfl | rfl
    · rcases hmark with rfl | rfl <;> rfl
    · rfl
  · rename_i hplain
    rw [not_or] at hplain
    repeat' split
    · rename_i htab
      exact quotedBody?_escaped hne (by simp [escaped?, htab])
    · rename_i hfeed
      exact quotedBody?_escaped hne (by simp [escaped?, hfeed])
    · rename_i hreturn
      exact quotedBody?_escaped hne (by simp [escaped?, hreturn])
    · exact quotedBody?_plain hplain.1 hplain.2
    · rename_i hlt
      exact quotedBody?_escaped hne (codePoint?_digits_append hlt rest)
    · rename_i hlt
      exact quotedBody?_escaped hne (codePoint?_digits_append hlt rest)
    · exact quotedBody?_escaped hne (codePoint?_digits_append (toNat_lt_capacity c) rest)

theorem quotedBody?_flatMap_escape {mark : Char} (hmark : mark = '\x27' ∨ mark = '\x22') (text : List Char) :
    quotedBody? mark (text.flatMap (escape mark) ++ [mark]) = some text := by
  induction text with
  | nil => exact quotedBody?_close mark
  | cons c rest ih => rw [List.flatMap_cons, List.append_assoc, quotedBody?_escape_append hmark, ih, Option.map_some]

theorem unquoteChars?_quoteChars (text : List Char) : unquoteChars? (quoteChars text) = some text := by
  rw [quoteChars, unquoteChars?, if_pos (quoteMark_eq text), quotedBody?_flatMap_escape (quoteMark_eq text)]

/-- Reading a text in quotes gives back the text. -/
theorem unquote?_quote (text : String) : unquote? (quote text) = some text := by
  simp [unquote?, quote, unquoteChars?_quoteChars]

end AccessScopes.Text
