import AccessScopes.Proofs.Checker.Delegation

/-!
# Narrower requests

Coverage as an order on scopes, and what it means for a checker: whoever may make a request may make
every request that it covers. What a request covers was told by the ways to narrow it, so nothing is
lost by asking for fewer actions, for more parameters where there are some, or for a named resource.
-/

namespace AccessScopes.Checker

/-- A request that an allowed one covers is allowed, if it can be read at all. -/
theorem can_of_covers {checker : Checker} {text other : String} {request narrower : Scope}
    (hrequest : checker.lists.parse? text = some request) (hnarrower : checker.lists.parse? other = some narrower)
    (hcovers : request.covers narrower = true) (hcan : checker.can text = true) : checker.can other = true := by
  have hpermits : checker.permits request = true := (can_iff_permits hrequest).1 hcan
  exact (can_iff_permits hnarrower).2 (permits_of_covers hpermits hcovers)

/-- Coverage is a preorder, and means that all is covered that the other scope covers. Scopes cover each
other exactly if they have the same reach, and a scope covers what it can be narrowed to. So an allowed
request stays allowed when it is narrowed. -/
theorem covers_is_containment_and_allowed_narrows :
    (∀ scope : Scope, scope.covers scope = true) ∧
      (∀ wide middle narrow : Scope, wide.covers middle = true → middle.covers narrow = true →
        wide.covers narrow = true) ∧
      (∀ wide narrow : Scope, wide.covers narrow = true ↔
        ∀ scope : Scope, narrow.covers scope = true → wide.covers scope = true) ∧
      (∀ left right : Scope, left.covers right = true ∧ right.covers left = true ↔ left.SameReach right) ∧
      (∀ wide narrow : Scope, wide.covers narrow = true ↔ Relation.ReflTransGen Scope.Narrowing wide narrow) ∧
      ∀ (checker : Checker) (text other : String) (request narrower : Scope),
        checker.lists.parse? text = some request → checker.lists.parse? other = some narrower →
        request.covers narrower = true → checker.can text = true → checker.can other = true := by
  refine ⟨Scope.covers_refl, ?_, ?_, ?_, ?_, ?_⟩
  · intro wide middle narrow hwide hnarrow
    exact Scope.covers_trans hwide hnarrow
  · intro wide narrow
    exact Scope.covers_iff_forall_covers
  · intro left right
    exact Scope.covers_covers_iff
  · intro wide narrow
    exact Scope.covers_iff_narrowings
  · intro checker text other request narrower hrequest hnarrower hcovers hcan
    exact can_of_covers hrequest hnarrower hcovers hcan

end AccessScopes.Checker
