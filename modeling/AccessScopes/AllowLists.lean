import AccessScopes.Scope.Parser

/-!
# Allow-lists

The subjects and the resources that may be named at all. An empty list does not restrict, and the
wildcard resource passes every list of resources. Reading a scope under allow-lists is reading it
and then refusing what the lists do not admit.
-/

namespace AccessScopes

/-- The subjects and resources that scopes may name; an empty list admits all. -/
structure AllowLists where
  subjects : List String := []
  resources : List String := []
  deriving DecidableEq

/-- The lists of subjects and of resources as they may be given; a missing list is an empty one. -/
def AllowLists.given (subjects resources : Option (List String)) : AllowLists where
  subjects := subjects.getD []
  resources := resources.getD []

/-- The reason why a text is no scope under the lists in force. -/
structure Unparsable where
  text : String
  deriving DecidableEq

def Unparsable.message (error : Unparsable) : String :=
  "Unparsable scope: " ++ Text.quote error.text

namespace AllowLists

def admits (lists : AllowLists) (scope : Scope) : Bool :=
  (lists.subjects.isEmpty || lists.subjects.contains scope.subject) &&
    (lists.resources.isEmpty || scope.isWildcard || lists.resources.contains scope.resource)

/-- Reads a scope that the lists admit. -/
def parse? (lists : AllowLists) (text : String) : Option Scope :=
  (Scope.parse? text).filter lists.admits

/-- Reads a scope that the lists admit, or says why there is none. -/
def require (lists : AllowLists) (text : String) : Except Unparsable Scope :=
  match lists.parse? text with
  | none => .error ⟨text⟩
  | some scope => .ok scope

theorem parse?_eq_some_iff {lists : AllowLists} {text : String} {scope : Scope} :
    lists.parse? text = some scope ↔ Scope.parse? text = some scope ∧ lists.admits scope = true :=
  Option.filter_eq_some_iff

end AllowLists

end AccessScopes
