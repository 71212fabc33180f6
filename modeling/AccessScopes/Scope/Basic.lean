import AccessScopes.Action
import AccessScopes.Scope.Params

/-!
# Scopes

A scope permits a subject some actions on one kind of resource, or on every kind, and may be
narrowed by parameters. Two scopes are equivalent if they differ at most in the order of their
parameters. Scopes without parameters are not equivalent to scopes with an empty set of them.
-/

namespace AccessScopes

/-- Permission for a subject to act on a kind of resource. -/
structure Scope where
  subject : String
  resource : String
  actions : List Action
  params : Option Params
  deriving DecidableEq

namespace Scope

/-- The resource that stands for every kind. -/
def wildcard : String := "*"

def isWildcard (scope : Scope) : Bool :=
  scope.resource = wildcard

theorem isWildcard_iff {scope : Scope} : scope.isWildcard = true ↔ scope.resource = "*" :=
  decide_eq_true_iff

def allows (scope : Scope) (action : Action) : Bool :=
  action ∈ scope.actions

/-- Whether a text is the letter of an action that the scope permits. -/
def allowsCode (scope : Scope) (code : String) : Bool :=
  (Action.ofCode? code).any scope.allows

/-- The scope with the given fields, its actions given by their letters. -/
def ofFields (subject resource letters : String) (params : Option (List (String × String))) :
    Except Action.UnknownLetter Scope :=
  (Action.ofLetters letters.toList).map fun actions =>
    { subject, resource, actions, params := params.map .ofList }

/-! ### Equivalence -/

/-- The part of a scope that equivalent scopes share: all but the parameters. -/
def key (scope : Scope) : String × String × List Action :=
  (scope.subject, scope.resource, scope.actions)

/-- Whether parameters agree: both absent, or the same mapping. -/
def sameParams : Option Params → Option Params → Bool
  | none, none => true
  | some left, some right => left.sameMapping right
  | _, _ => false

/-- Whether two scopes are equal up to the order of their parameters. -/
def equivalent (left right : Scope) : Bool :=
  left.key = right.key && sameParams left.params right.params

/-- Equivalence for scopes that may be missing: a missing scope is equivalent to a missing scope
only. -/
def equivalent? : Option Scope → Option Scope → Bool
  | none, none => true
  | some left, some right => left.equivalent right
  | _, _ => false

def key? (scope : Option Scope) : Option (String × String × List Action) :=
  scope.map key

/-- How many scopes of a list differ from each other, where a missing scope counts as one. -/
def countDistinct : List (Option Scope) → Nat
  | [] => 0
  | scope :: rest => if rest.any (equivalent? scope) then countDistinct rest else countDistinct rest + 1

end Scope

end AccessScopes
