import AccessScopes.Proofs.Table.Entries
import AccessScopes.Scope.Coverage
import Mathlib.Logic.Relation

/-!
# Coverage is containment

Coverage is reflexive and transitive on all scopes, whether or not they can be written. The wildcard
is a top only on the side of the grant, and parameters are compared by looking up the values of the
one in the other, so each test is shown to compose before the tests are put together. What a scope
covers is then what is left of it after naming a resource for the wildcard, dropping actions and adding
parameters, and two scopes cover each other only if they differ in the way they are written down.
-/

namespace AccessScopes.Scope

theorem coversParams_refl (params : Option Params) : coversParams params params = true := by
  rw [coversParams_iff]
  cases params with
  | none => exact Or.inl ⟨rfl, rfl⟩
  | some held => exact Or.inr ⟨held, held, rfl, rfl, fun _ _ hget => hget⟩

theorem coversParams_trans {wide middle narrow : Option Params} (hwide : coversParams wide middle = true)
    (hnarrow : coversParams middle narrow = true) : coversParams wide narrow = true := by
  rw [coversParams_iff] at hwide hnarrow ⊢
  rcases hwide with ⟨hwideNone, hmiddleNone⟩ | ⟨held, between, rfl, rfl, hheld⟩
  · rcases hnarrow with ⟨-, hnarrowNone⟩ | ⟨between, asked, hmiddle, -⟩
    · exact Or.inl ⟨hwideNone, hnarrowNone⟩
    · rw [hmiddleNone] at hmiddle
      cases hmiddle
  · rcases hnarrow with ⟨hmiddle, -⟩ | ⟨other, asked, hmiddle, rfl, hasked⟩
    · cases hmiddle
    · cases hmiddle
      refine Or.inr ⟨held, asked, rfl, rfl, ?_⟩
      intro key value hget
      apply hasked
      exact hheld key value hget

theorem covers_refl (scope : Scope) : scope.covers scope = true := by
  rw [covers_iff]
  exact ⟨rfl, Or.inr rfl, fun _ haction => haction, coversParams_refl scope.params⟩

theorem covers_trans {wide middle narrow : Scope} (hwide : wide.covers middle = true)
    (hnarrow : middle.covers narrow = true) : wide.covers narrow = true := by
  rw [covers_iff] at hwide hnarrow ⊢
  obtain ⟨hsubject, hresource, hactions, hparams⟩ := hwide
  obtain ⟨hsubject', hresource', hactions', hparams'⟩ := hnarrow
  refine ⟨hsubject.trans hsubject', ?_, ?_, coversParams_trans hparams hparams'⟩
  · -- A wildcard in the middle is covered by a wildcard only.
    rcases hresource with hwildcard | hequal
    · exact Or.inl hwildcard
    · rw [hequal]
      exact hresource'
  · intro action haction
    apply hactions
    exact hactions' action haction

/-- A scope covers another exactly if it covers all that the other covers. -/
theorem covers_iff_forall_covers {wide narrow : Scope} :
    wide.covers narrow = true ↔ ∀ scope : Scope, narrow.covers scope = true → wide.covers scope = true := by
  constructor
  · intro hcovers scope hscope
    exact covers_trans hcovers hscope
  · intro hall
    exact hall narrow (covers_refl narrow)

/-! ### Covering each other -/

/-- The scopes permit the same subject the same actions on the same resource, with the same values of
parameters or none at all. -/
structure SameReach (left right : Scope) : Prop where
  subject_eq : left.subject = right.subject
  resource_eq : left.resource = right.resource
  actions_iff : ∀ action, action ∈ left.actions ↔ action ∈ right.actions
  params_rel : Option.Rel Table.SameValues left.params right.params

/-- Parameters cover each other exactly if both are missing or they are the same mapping. -/
theorem coversParams_coversParams_iff {left right : Option Params} :
    coversParams left right = true ∧ coversParams right left = true ↔ Option.Rel Table.SameValues left right := by
  constructor
  · intro h
    rcases coversParams_iff.1 h.1 with ⟨rfl, rfl⟩ | ⟨held, asked, rfl, rfl, hheld⟩
    · exact .none
    · rcases coversParams_iff.1 h.2 with ⟨hnone, -⟩ | ⟨_, _, hasked, hheld', hback⟩
      · cases hnone
      · cases hasked
        cases hheld'
        refine .some fun key => ?_
        ext value
        exact ⟨hheld key value, hback key value⟩
  · intro hrel
    cases hrel with
    | none => exact ⟨rfl, rfl⟩
    | some hvalues =>
      refine ⟨coversParams_iff.2 (Or.inr ⟨_, _, rfl, rfl, ?_⟩), coversParams_iff.2 (Or.inr ⟨_, _, rfl, rfl, ?_⟩)⟩
      · intro key value hget
        rw [← hvalues key]
        exact hget
      · intro key value hget
        rw [hvalues key]
        exact hget

theorem covers_covers_iff {left right : Scope} :
    left.covers right = true ∧ right.covers left = true ↔ left.SameReach right := by
  constructor
  · intro h
    obtain ⟨hsubject, hresource, hactions, hparams⟩ := covers_iff.1 h.1
    obtain ⟨-, hresource', hactions', hparams'⟩ := covers_iff.1 h.2
    refine ⟨hsubject, ?_, fun action => ⟨hactions' action, hactions action⟩,
      coversParams_coversParams_iff.1 ⟨hparams, hparams'⟩⟩
    -- A wildcard is covered by a wildcard only.
    rcases hresource with hleft | hequal
    · rcases hresource' with hright | hequal
      · rw [hleft, hright]
      · exact hequal.symm
    · exact hequal
  · intro hsame
    obtain ⟨hparams, hparams'⟩ := coversParams_coversParams_iff.2 hsame.params_rel
    constructor
    · exact covers_iff.2
        ⟨hsame.subject_eq, Or.inr hsame.resource_eq, fun action => (hsame.actions_iff action).2, hparams⟩
    · exact covers_iff.2 ⟨hsame.subject_eq.symm, Or.inr hsame.resource_eq.symm,
        fun action => (hsame.actions_iff action).1, hparams'⟩

/-! ### Narrowing -/

/-- The ways to ask for less: to name a resource in place of the wildcard, to leave out actions, and to
add parameters where there are some. -/
inductive Narrowing : Scope → Scope → Prop
  | resource (scope : Scope) (name : String) (hwildcard : scope.resource = "*") :
      Narrowing scope { scope with resource := name }
  | actions (scope : Scope) (fewer : List Action) (hfewer : ∀ action ∈ fewer, action ∈ scope.actions) :
      Narrowing scope { scope with actions := fewer }
  | params (scope : Scope) (held more : Params) (hheld : scope.params = some held)
      (hmore : ∀ key value, held.get? key = some value → more.get? key = some value) :
      Narrowing scope { scope with params := some more }

theorem Narrowing.covers {wide narrow : Scope} (hnarrowing : Narrowing wide narrow) : wide.covers narrow = true := by
  cases hnarrowing with
  | resource name hwildcard =>
    exact covers_iff.2 ⟨rfl, Or.inl hwildcard, fun _ haction => haction, coversParams_refl wide.params⟩
  | actions fewer hfewer => exact covers_iff.2 ⟨rfl, Or.inr rfl, hfewer, coversParams_refl wide.params⟩
  | params held more hheld hmore =>
    have hparams : coversParams wide.params (some more) = true :=
      coversParams_iff.2 (Or.inr ⟨held, more, hheld, rfl, hmore⟩)
    exact covers_iff.2 ⟨rfl, Or.inr rfl, fun _ haction => haction, hparams⟩

theorem reflTransGen_resource {scope : Scope} {name : String} (hname : scope.resource = "*" ∨ scope.resource = name) :
    Relation.ReflTransGen Narrowing scope { scope with resource := name } := by
  rcases hname with hwildcard | rfl
  · exact .single (.resource scope name hwildcard)
  · exact .refl

theorem reflTransGen_params {scope : Scope} {params : Option Params} (hparams : coversParams scope.params params = true) :
    Relation.ReflTransGen Narrowing scope { scope with params } := by
  rcases coversParams_iff.1 hparams with ⟨hnone, rfl⟩ | ⟨held, more, hheld, rfl, hmore⟩
  · rw [← hnone]
  · exact .single (.params scope held more hheld hmore)

/-- A scope covers exactly the scopes that it can be narrowed to. -/
theorem covers_iff_narrowings {wide narrow : Scope} :
    wide.covers narrow = true ↔ Relation.ReflTransGen Narrowing wide narrow := by
  constructor
  · intro hcovers
    obtain ⟨hsubject, hresource, hactions, hparams⟩ := covers_iff.1 hcovers
    obtain ⟨subject, resource, actions, params⟩ := narrow
    cases hsubject
    have hfewer : Narrowing { wide with resource } { wide with resource, actions } :=
      .actions { wide with resource } actions hactions
    exact ((reflTransGen_resource hresource).tail hfewer).trans (reflTransGen_params hparams)
  · intro hnarrowings
    induction hnarrowings with
    | refl => exact covers_refl wide
    | tail _ hlast ih => exact covers_trans ih hlast.covers

end AccessScopes.Scope
