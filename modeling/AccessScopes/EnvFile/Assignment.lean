import AccessScopes.EnvFile.Parser
import AccessScopes.EnvFile.Template
import AccessScopes.Environment

/-!
# Loading environment files

The bindings of a file are resolved one at a time in the order of the file. A reference means the
variable as the bindings above it leave it, and else the variable of the environment. A later
binding of a name replaces an earlier one, also when it gives no value. What then has a value goes
into the environment, over what is there, up to the first variable that the environment refuses.
-/

namespace AccessScopes.EnvFile

/-- The variables that a file names, each with its value if it is left with one. -/
abbrev Assignments := Table String (Option String)

/-- What a reference means below some bindings of a file. -/
def lookup (environment : Environment) (above : Assignments) (name : String) : Option (Option String) :=
  match above.get? name with
  | some value => some value
  | none => (environment.get? name).map some

def assign (environment : Environment) (above : Assignments) (binding : Binding) : Assignments :=
  above.insert binding.key
    (binding.value.map fun value => (Template.parse value.toList).expand (lookup environment above))

def Binding.references (binding : Binding) : List Reference :=
  match binding.value with
  | none => []
  | some value => (Template.parse value.toList).references

/-- Resolves the bindings of a file in order. -/
def resolve (environment : Environment) (bindings : List Binding) : Assignments :=
  bindings.foldl (assign environment) ∅

/-- Puts the variables that have a value into an environment, up to the first that is refused. -/
def store (environment : Environment) :
    List (String × Option String) → Except Environment.Refusal Unit × Environment
  | [] => (.ok (), environment)
  | (_, none) :: rest => store environment rest
  | (name, some value) :: rest =>
    match environment.set name value with
    | .error refusal => (.error refusal, environment)
    | .ok after => store after rest

/-- Loads a file into an environment. What stands before a refused variable is loaded all the same. -/
def load (environment : Environment) (text : String) : Except Environment.Refusal Unit × Environment :=
  store environment (resolve environment (bindings text)).entries

end AccessScopes.EnvFile
