import AccessScopes.Scope.Basic

/-!
# Reading scopes

A scope is written as its subject, a separator, its resource, a separator and the letters of its
actions. Each of the separators may be any of `/`, `.` and `?`. The letters end at the next `?` or
at the end, and the parameters stand between the first two `?` of the whole text, wherever they are.
So a `?` that serves as a separator opens the parameters as well. Nothing is escaped.
-/

namespace AccessScopes.Scope

/-- The characters that end a subject or a resource. -/
def isSeparator (c : Char) : Bool :=
  c = '/' || c = '.' || c = '?'

/-- The text before the first separator and the text after it. -/
def cut? (text : List Char) : Option (List Char × List Char) :=
  match text.dropWhile (!isSeparator ·) with
  | [] => none
  | _ :: rest => some (text.takeWhile (!isSeparator ·), rest)

/-- The text between the first two `?`, or after the only one. -/
def paramsText? (text : List Char) : Option (List Char) :=
  (text.splitOn '?')[1]?

def parseChars? (text : List Char) : Option Scope :=
  match cut? text with
  | none => none
  | some (subject, afterSubject) =>
    match cut? afterSubject with
    | none => none
    | some (resource, afterResource) =>
      let letters := afterResource.takeWhile (· ≠ '?')
      if subject = [] ∨ resource = [] ∨ letters = [] then none
      else
        match Action.ofLetters letters with
        | .error _ => none
        | .ok actions => some {
            subject := .ofList subject
            resource := .ofList resource
            actions
            params := (paramsText? text).map Params.parse }

def parse? (text : String) : Option Scope :=
  parseChars? text.toList

end AccessScopes.Scope
