import AccessScopes.Scope.Basic

/-!
# Coverage

When one scope, held as a grant, permits all that another asks for. The subjects must be equal, the
resource equal or the grant's a wildcard, the actions asked for among those granted, and the
parameters as narrow: a grant without parameters covers only requests without them, and a grant with
parameters covers the requests that have each of its values. A request may carry further parameters
only where the grant has some, possibly an empty set.
-/

namespace AccessScopes.Scope

def coversParams : Option Params → Option Params → Bool
  | none, requested => requested.isNone
  | some _, none => false
  | some granted, some requested =>
    granted.entries.all fun entry => requested.get? entry.1 = some entry.2

def covers (grant request : Scope) : Bool :=
  grant.subject = request.subject &&
    (grant.isWildcard || grant.resource = request.resource) &&
    request.actions.all grant.allows &&
    coversParams grant.params request.params

theorem coversParams_iff {granted requested : Option Params} :
    coversParams granted requested = true ↔
      (granted = none ∧ requested = none) ∨
        ∃ held asked, granted = some held ∧ requested = some asked ∧
          ∀ key value, held.get? key = some value → asked.get? key = some value := by
  cases granted with
  | none => cases requested <;> simp [coversParams]
  | some held =>
    cases requested with
    | none => simp [coversParams]
    | some asked =>
      simp [coversParams, Table.get?_eq_some_iff]

theorem covers_iff {grant request : Scope} :
    grant.covers request = true ↔
      grant.subject = request.subject ∧
        (grant.resource = "*" ∨ grant.resource = request.resource) ∧
        (∀ action ∈ request.actions, action ∈ grant.actions) ∧
        coversParams grant.params request.params = true := by
  simp only [covers, isWildcard_iff, allows, Bool.and_eq_true, Bool.or_eq_true, List.all_eq_true,
    decide_eq_true_eq, and_assoc]

end AccessScopes.Scope
