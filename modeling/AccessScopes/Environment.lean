import AccessScopes.Table
import AccessScopes.Text.Null

/-!
# Environments

The variables of a running program with their values. Names and values that an environment cannot
hold are refused: the null character in either of them, an equals sign in a name, and the empty name.
-/

namespace AccessScopes

abbrev Environment := Table String String

namespace Environment

/-- Why a variable cannot be given a value. -/
inductive Refusal
  | null
  | equalsSign
  | noName
  deriving DecidableEq

/-- What is said of a refusal, unless the system alone reports it. -/
def Refusal.message? : Refusal → Option String
  | null => some Text.nullMessage
  | equalsSign => some "illegal environment variable name"
  | noName => none

/-- Why a name and a value are refused, if they are. -/
def problem? (name value : String) : Option Refusal :=
  if Text.hasNull name || Text.hasNull value then some .null
  else if name.toList.contains '=' then some .equalsSign
  else if name = "" then some .noName
  else none

/-- Gives a variable a value, over the one it has. -/
def set (environment : Environment) (name value : String) : Except Refusal Environment :=
  match problem? name value with
  | some refusal => .error refusal
  | none => .ok (environment.insert name value)

theorem set_eq_ok_iff {environment after : Environment} {name value : String} :
    environment.set name value = .ok after ↔
      problem? name value = none ∧ after = environment.insert name value := by
  unfold set
  cases problem? name value <;> simp [eq_comm]

end Environment

end AccessScopes
