import AccessScopes.Scope.Basic

/-!
# Writing scopes

The written form uses `/` after the subject, `.` after the resource and, if the scope has parameters
at all, `?` before them. An empty set of parameters leaves a trailing `?`, which tells it from no
parameters.
-/

namespace AccessScopes.Scope

def letters (scope : Scope) : String :=
  .ofList (scope.actions.map Action.letter)

def render (scope : Scope) : String :=
  scope.subject ++ "/" ++ scope.resource ++ "." ++ scope.letters ++
    match scope.params with
    | none => ""
    | some params => "?" ++ params.render

end AccessScopes.Scope
