import AccessScopes.Table

/-!
# Templates

A value may refer to variables as `${NAME}` or, with a text to fall back on, as `${NAME:-text}`. A
template is such a value taken apart into plain characters and references. A name ends at the first
`}` or `:`, a fallback at the first `}`, and a dollar sign that starts no complete reference is a
plain character.
-/

namespace AccessScopes.EnvFile

/-- A reference to a variable, with the text that stands in when the variable is not set. -/
structure Reference where
  name : String
  fallback : String
  deriving DecidableEq

/-- What a reference stands for: the value of its variable, nothing if the variable is there without
a value, and the fallback if it is not there. -/
def Reference.value (reference : Reference) (lookup : String → Option (Option String)) : String :=
  match lookup reference.name with
  | none => reference.fallback
  | some value => value.getD ""

inductive Segment
  | plain (c : Char)
  | reference (reference : Reference)
  deriving DecidableEq

abbrev Template := List Segment

namespace Template

def isNameChar (c : Char) : Bool :=
  c ≠ '\x7d' && c ≠ ':'

/-- Reads a fallback after its `:-`, and returns what follows the closing brace. -/
def fallback? (text : List Char) : Option (String × List Char) :=
  match text.dropWhile (· ≠ '\x7d') with
  | [] => none
  | _ :: rest => some (.ofList (text.takeWhile (· ≠ '\x7d')), rest)

/-- Reads a reference after its opening brace, and returns what follows the closing one. -/
def reference? (text : List Char) : Option (Reference × List Char) :=
  let name := String.ofList (text.takeWhile isNameChar)
  match text.dropWhile isNameChar with
  | [] => none
  | [c] => if c = '\x7d' then some (⟨name, ""⟩, []) else none
  | c :: d :: rest =>
    if c = '\x7d' then some (⟨name, ""⟩, d :: rest)
    else if d = '-' then (fallback? rest).map fun (fallback, after) => (⟨name, fallback⟩, after)
    else none

theorem length_of_fallback? {text rest : List Char} {fallback : String}
    (hread : fallback? text = some (fallback, rest)) : rest.length < text.length := by
  have hle := (List.dropWhile_suffix (l := text) (· ≠ '\x7d')).length_le
  unfold fallback? at hread
  split at hread
  · simp at hread
  · rename_i head tail hdrop
    rw [hdrop, List.length_cons] at hle
    simp only [Option.some.injEq, Prod.mk.injEq] at hread
    rw [← hread.2]
    exact hle

theorem length_of_reference? {text rest : List Char} {reference : Reference}
    (hread : reference? text = some (reference, rest)) : rest.length < text.length := by
  have hle := (List.dropWhile_suffix (l := text) isNameChar).length_le
  unfold reference? at hread
  split at hread
  · simp at hread
  · rename_i c hdrop
    rw [hdrop] at hle
    simp only [Option.ite_none_right_eq_some, Option.some.injEq, Prod.mk.injEq] at hread
    rw [← hread.2.2]
    exact hle
  · rename_i c d tail hdrop
    rw [hdrop] at hle
    simp only [List.length_cons] at hle
    split at hread
    · simp only [Option.some.injEq, Prod.mk.injEq] at hread
      rw [← hread.2]
      exact hle
    · split at hread
      · simp only [Option.map_eq_some_iff, Prod.mk.injEq] at hread
        obtain ⟨⟨fallback, after⟩, hfallback, -, hafter⟩ := hread
        dsimp only at hafter
        subst hafter
        have hlt := length_of_fallback? hfallback
        omega
      · simp at hread

def parse (text : List Char) : Template :=
  match text with
  | [] => []
  | [c] => [.plain c]
  | c :: d :: rest =>
    if c = '$' ∧ d = '\x7b' then
      match hreference : reference? rest with
      | some (reference, after) =>
        have := length_of_reference? hreference
        .reference reference :: parse after
      | none => .plain c :: parse (d :: rest)
    else .plain c :: parse (d :: rest)
termination_by text.length
decreasing_by all_goals simp only [List.length_cons]; omega

def references (template : Template) : List Reference :=
  template.filterMap fun
    | .plain _ => none
    | .reference reference => some reference

/-- The characters that a segment stands for. -/
def expandSegment (lookup : String → Option (Option String)) : Segment → List Char
  | .plain c => [c]
  | .reference reference => (reference.value lookup).toList

/-- Puts a template together, where `lookup` tells variables that are not there from those without a
value. -/
def expand (lookup : String → Option (Option String)) (template : Template) : String :=
  .ofList (template.flatMap (expandSegment lookup))

end Template

end AccessScopes.EnvFile
