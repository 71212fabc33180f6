import AccessScopes.Text.Null

/-!
# Refusals

Why the system refuses to do something at a path. Names and paths are limited in length, counted in
bytes of UTF-8. A path that is empty, too long or holds the null character is refused whatever the
files are.
-/

namespace AccessScopes.Files

inductive Refusal
  | missing
  | notDirectory
  | isDirectory
  | alreadyThere
  | nameTooLong
  | null
  deriving DecidableEq

/-- What is said of a refusal, unless the system alone reports it. -/
def Refusal.message? : Refusal → Option String
  | null => some Text.nullMessage
  | _ => none

/-- The length of the longest names. -/
def nameLimit : Nat := 255

/-- The length of the longest paths. -/
def pathLimit : Nat := 4095

/-- Whether a name is short enough to stand in a directory. -/
def fits (name : String) : Bool :=
  name.utf8ByteSize ≤ nameLimit

/-- Why a path is refused whatever the files are, if it is. -/
def pathProblem? (path : String) : Option Refusal :=
  if Text.hasNull path then some .null
  else if path = "" then some .missing
  else if pathLimit < path.utf8ByteSize then some .nameTooLong
  else none

end AccessScopes.Files
