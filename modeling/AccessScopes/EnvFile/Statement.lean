import AccessScopes.Text.Blank

/-!
# Statements of environment files

A statement names a variable and mostly binds it: `NAME=value`. It may start with `export`. Values
stand as they are up to the end of the line or a comment, or in single or double quotes, where they
may go on over several lines. A text that is no statement costs the rest of its line, from where
reading got stuck, and no more.
-/

namespace AccessScopes.EnvFile

open Text

/-- A variable and the value that a statement gives it, if any. -/
structure Binding where
  key : String
  value : Option String
  deriving DecidableEq

/-! ### Parts

A part is read from the start of a text. The result is what was read and the text that follows, or
the place where reading got stuck. -/

/-- A result with the text that follows it, or the text at which reading got stuck. -/
abbrev Reading (α : Type) := Except (List Char) (α × List Char)

/-- Leaves out a leading `export` that blanks follow. -/
def skipExport (text : List Char) : List Char :=
  if "export".toList.isPrefixOf text && (text.drop 6).head?.any isInlineBlank then
    (text.drop 6).dropWhile isInlineBlank
  else text

/-- Whether a character may stand in a name without quotes. -/
def isKeyChar (c : Char) : Bool :=
  c ≠ '=' && c ≠ '#' && !isBlank c

/-- Reads the name of a variable, or else a comment, which names none. -/
def readKey (text : List Char) : Reading (Option String) :=
  match text with
  | [] => .error []
  | c :: rest =>
    if c = '#' then .ok (none, rest.dropWhile (· ≠ '\n'))
    else if c = '\x27' then
      match rest.takeWhile (· ≠ '\x27'), rest.dropWhile (· ≠ '\x27') with
      | d :: name, _ :: after => .ok (some (.ofList (d :: name)), after)
      | _, _ => .error text
    else if isKeyChar c then .ok (some (.ofList (text.takeWhile isKeyChar)), text.dropWhile isKeyChar)
    else .error text

/-- The characters up to the closing quote and the text after it. A quote after a backslash does not
close, except that the last such quote closes if no other does. -/
def quoted? (quote : Char) : List Char → Option (List Char × List Char)
  | [] => none
  | [c] => if c = quote then some ([], []) else none
  | c :: d :: rest =>
    if c = quote then some ([], d :: rest)
    else if c = '\\' ∧ d = quote then
      match quoted? quote rest with
      | some (body, after) => some (c :: d :: body, after)
      | none => some ([c], rest)
    else (quoted? quote (d :: rest)).map fun (body, after) => (c :: body, after)

/-- Replaces each backslash and the character after it, where that pair stands for a character. -/
def unescape (meaning : Char → Option Char) : List Char → List Char
  | [] => []
  | [c] => [c]
  | c :: d :: rest =>
    if c = '\\' then
      match meaning d with
      | some e => e :: unescape meaning rest
      | none => c :: unescape meaning (d :: rest)
    else c :: unescape meaning (d :: rest)

def singleQuoteEscape (c : Char) : Option Char :=
  if c = '\\' ∨ c = '\x27' then some c else none

def doubleQuoteEscape (c : Char) : Option Char :=
  if c = '\\' ∨ c = '\x27' ∨ c = '\x22' then some c
  else if c = 'a' then some '\x07'
  else if c = 'b' then some '\x08'
  else if c = 'f' then some '\x0c'
  else if c = 'n' then some '\n'
  else if c = 'r' then some '\r'
  else if c = 't' then some '\t'
  else if c = 'v' then some '\x0b'
  else none

/-- The characters before the first `#` that follows a blank. -/
def beforeComment (afterBlank : Bool) : List Char → List Char
  | [] => []
  | c :: rest => if afterBlank ∧ c = '#' then [] else c :: beforeComment (isBlank c) rest

/-- Reads a value in quotes after the opening one. -/
def readQuoted (quote : Char) (meaning : Char → Option Char) (rest : List Char) : Reading String :=
  match quoted? quote rest with
  | none => .error (quote :: rest)
  | some (body, after) => .ok (.ofList (unescape meaning body), after)

/-- Reads a value without quotes, which is empty at the end of a line. -/
def readPlain (text : List Char) : Reading String :=
  .ok (.ofList (stripEnd (beforeComment false (text.takeWhile (· ≠ '\n')))), text.dropWhile (· ≠ '\n'))

def readValue (text : List Char) : Reading String :=
  match text with
  | [] => readPlain text
  | c :: rest =>
    if c = '\x27' then readQuoted c singleQuoteEscape rest
    else if c = '\x22' then readQuoted c doubleQuoteEscape rest
    else readPlain text

/-- Reads the value that a statement gives, if an equals sign follows. -/
def readBinding (text : List Char) : Reading (Option String) :=
  match text with
  | [] => .ok (none, text)
  | c :: rest =>
    if c = '=' then (readValue (rest.dropWhile isInlineBlank)).map fun (value, after) => (some value, after)
    else .ok (none, text)

/-- Reads the end of a line, with a comment before it or none. -/
def readLineEnd (text : List Char) : Except (List Char) (List Char) :=
  match text.dropWhile isInlineBlank with
  | [] => .ok []
  | c :: rest =>
    if c = '\n' then .ok rest
    else if c = '#' then .ok ((rest.dropWhile (· ≠ '\n')).drop 1)
    else .error (c :: rest)

/-- Reads a statement that starts at once. -/
def readStatement (text : List Char) : Reading (Option Binding) :=
  match readKey (skipExport text) with
  | .error stuck => .error stuck
  | .ok (name, afterName) =>
    match readBinding (afterName.dropWhile isInlineBlank) with
    | .error stuck => .error stuck
    | .ok (value, afterValue) =>
      match readLineEnd afterValue with
      | .error stuck => .error stuck
      | .ok rest => .ok (name.map fun key => ⟨key, value⟩, rest)

def nextLine (text : List Char) : List Char :=
  (text.dropWhile (· ≠ '\n')).drop 1

/-- Reads the statement at the start of a text, if it is one, and returns the text after it. -/
def nextStatement (text : List Char) : Option Binding × List Char :=
  match readStatement text with
  | .ok (binding?, rest) => (binding?, rest)
  | .error stuck => (none, nextLine stuck)

/-! ### Progress

Every part leaves at most the text it was given and a name leaves less, so a statement always leaves
less. -/

/-- The text after a part, or at which reading it got stuck. -/
def remainder {α : Type} : Reading α → List Char
  | .ok (_, rest) => rest
  | .error stuck => stuck

theorem length_dropWhile_le (p : Char → Bool) (text : List Char) :
    (text.dropWhile p).length ≤ text.length :=
  (List.dropWhile_suffix p).length_le

theorem length_skipExport_le (text : List Char) : (skipExport text).length ≤ text.length := by
  unfold skipExport
  split
  · have hle := length_dropWhile_le isInlineBlank (text.drop 6)
    have hdrop : (text.drop 6).length ≤ text.length := by simp
    omega
  · exact Nat.le_refl _

theorem length_of_readKey {text rest : List Char} {name : Option String} (hread : readKey text = .ok (name, rest)) :
    rest.length < text.length := by
  unfold readKey at hread
  split at hread
  · simp at hread
  · rename_i c tail
    have hline := length_dropWhile_le (· ≠ '\n') tail
    have hquote := length_dropWhile_le (· ≠ '\x27') tail
    have hname := length_dropWhile_le isKeyChar tail
    rw [List.length_cons]
    split at hread
    · cases hread
      omega
    · split at hread
      · split at hread
        · rename_i hdrop
          cases hread
          rw [hdrop, List.length_cons] at hquote
          omega
        · simp at hread
      · split at hread
        · rename_i hkey
          cases hread
          rw [List.dropWhile_cons, if_pos hkey]
          omega
        · simp at hread

theorem length_remainder_readKey_le (text : List Char) : (remainder (readKey text)).length ≤ text.length := by
  cases hread : readKey text with
  | ok result => exact Nat.le_of_lt (length_of_readKey hread)
  | error stuck =>
    unfold readKey at hread
    repeat' split at hread
    all_goals cases hread
    all_goals simp [remainder]

theorem length_of_quoted? {quote : Char} {text body rest : List Char}
    (hread : quoted? quote text = some (body, rest)) : rest.length < text.length := by
  fun_induction quoted? quote text generalizing body rest <;> grind [Option.map_eq_some_iff]

theorem length_remainder_readValue_le (text : List Char) : (remainder (readValue text)).length ≤ text.length := by
  have hplain : (remainder (readPlain text)).length ≤ text.length := length_dropWhile_le _ text
  have hquoted : ∀ c rest meaning, text = c :: rest →
      (remainder (readQuoted c meaning rest)).length ≤ text.length := by
    rintro c rest meaning rfl
    unfold readQuoted
    split
    · exact Nat.le_refl _
    · rename_i hread
      have hlt := length_of_quoted? hread
      simp only [remainder, List.length_cons]
      omega
  unfold readValue
  repeat' split
  · exact hplain
  · exact hquoted _ _ _ rfl
  · exact hquoted _ _ _ rfl
  · exact hplain

theorem length_remainder_readBinding_le (text : List Char) : (remainder (readBinding text)).length ≤ text.length := by
  unfold readBinding
  split
  · exact Nat.le_refl _
  · rename_i c rest
    split
    · have hvalue := length_remainder_readValue_le (rest.dropWhile isInlineBlank)
      have hblank := length_dropWhile_le isInlineBlank rest
      rw [List.length_cons]
      cases hread : readValue (rest.dropWhile isInlineBlank) <;>
        simp only [hread, remainder, Except.map] at hvalue ⊢ <;> omega
    · exact Nat.le_refl _

theorem length_of_readLineEnd {text rest : List Char} (hread : readLineEnd text = .ok rest) :
    rest.length ≤ text.length := by
  have hblank := length_dropWhile_le isInlineBlank text
  unfold readLineEnd at hread
  split at hread
  · cases hread
    simp
  · rename_i c tail hdrop
    rw [hdrop, List.length_cons] at hblank
    have hline := length_dropWhile_le (· ≠ '\n') tail
    split at hread
    · cases hread
      omega
    · split at hread
      · cases hread
        rw [List.length_drop]
        omega
      · cases hread

theorem length_of_readLineEnd_error {text stuck : List Char} (hread : readLineEnd text = .error stuck) :
    stuck.length ≤ text.length := by
  have hblank := length_dropWhile_le isInlineBlank text
  unfold readLineEnd at hread
  split at hread
  · cases hread
  · rename_i c tail hdrop
    rw [hdrop] at hblank
    split at hread
    · cases hread
    · split at hread
      · cases hread
      · cases hread
        exact hblank

theorem length_of_readStatement {text rest : List Char} {binding? : Option Binding}
    (hread : readStatement text = .ok (binding?, rest)) : rest.length < text.length := by
  have hexport := length_skipExport_le text
  unfold readStatement at hread
  split at hread
  · cases hread
  · rename_i name afterName hkey
    have hname := length_of_readKey hkey
    have hblank := length_dropWhile_le isInlineBlank afterName
    have hbinding := length_remainder_readBinding_le (afterName.dropWhile isInlineBlank)
    split at hread
    · cases hread
    · rename_i value afterValue hvalue
      rw [hvalue] at hbinding
      split at hread
      · cases hread
      · rename_i hend
        have hlast := length_of_readLineEnd hend
        cases hread
        simp only [remainder] at hbinding
        omega

theorem length_of_readStatement_error {text stuck : List Char} (hread : readStatement text = .error stuck) :
    stuck.length ≤ text.length := by
  have hexport := length_skipExport_le text
  unfold readStatement at hread
  split at hread
  · rename_i hkey
    have hname := length_remainder_readKey_le (skipExport text)
    cases hread
    rw [hkey] at hname
    exact Nat.le_trans hname hexport
  · rename_i name afterName hkey
    have hname := length_of_readKey hkey
    have hblank := length_dropWhile_le isInlineBlank afterName
    have hbinding := length_remainder_readBinding_le (afterName.dropWhile isInlineBlank)
    split at hread
    · rename_i hvalue
      cases hread
      rw [hvalue] at hbinding
      simp only [remainder] at hbinding
      omega
    · rename_i value afterValue hvalue
      rw [hvalue] at hbinding
      split at hread
      · rename_i hend
        have hlast := length_of_readLineEnd_error hend
        cases hread
        simp only [remainder] at hbinding
        omega
      · cases hread

theorem length_nextLine_lt {text : List Char} (hne : text ≠ []) : (nextLine text).length < text.length := by
  have hpos := List.length_pos_iff.2 hne
  have hle := length_dropWhile_le (· ≠ '\n') text
  rw [nextLine, List.length_drop]
  omega

theorem length_nextStatement_lt {text : List Char} (hne : text ≠ []) : (nextStatement text).2.length < text.length := by
  unfold nextStatement
  split
  · rename_i hread
    exact length_of_readStatement hread
  · rename_i stuck hread
    have hle := length_of_readStatement_error hread
    by_cases hstuck : stuck = []
    · subst hstuck
      exact List.length_pos_iff.2 hne
    · exact Nat.lt_of_lt_of_le (length_nextLine_lt hstuck) hle

end AccessScopes.EnvFile
