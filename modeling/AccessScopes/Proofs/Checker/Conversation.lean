import AccessScopes.Proofs.Checker.Decision

/-!
# What a checker says over a conversation

There are three ways in which a checker takes a text: it cannot read it, it reads it and no grant covers
it, or a grant does. `Finding` lists them with what each entry point says then, so the strict form, the
lenient form, the reader and the diagnostics cannot disagree about a text. Diagnostics come from the first
way alone, one for each time it is met, and a conversation is heard as the sum of its replies.
-/

namespace AccessScopes

/-- What is heard of a request that cannot be read. -/
def Unparsable.diagnostic (error : Unparsable) : Diagnostic :=
  ⟨.debug, "unparsable request denied: " ++ Text.quote error.text⟩

namespace AllowLists

/-- Reading fails exactly on the texts without an admitted layout, and names the text. -/
theorem require_eq_error_iff {subjects resources : Option (List String)} {text : String} {error : Unparsable} :
    (given subjects resources).require text = .error error ↔
      error = ⟨text⟩ ∧ ¬ ∃ layout : Scope.Layout, layout.Admitted subjects resources text := by
  have hread : (given subjects resources).parse? text = none ↔
      ¬ ∃ layout : Scope.Layout, layout.Admitted subjects resources text := by
    rw [Option.eq_none_iff_forall_not_mem]
    constructor
    · intro hnone hsome
      obtain ⟨layout, hadmitted⟩ := hsome
      exact hnone layout.scope (Scope.parse?_eq_some_iff_admitted.2 ⟨layout, hadmitted, rfl⟩)
    · intro hnone scope hscope
      obtain ⟨layout, hadmitted, -⟩ := Scope.parse?_eq_some_iff_admitted.1 hscope
      exact hnone ⟨layout, hadmitted⟩
  rw [← hread, require]
  cases (given subjects resources).parse? text with
  | none => simp [eq_comm]
  | some scope => simp

end AllowLists

namespace Checker

/-- The ways in which a checker can take a text. Each comes with the result of reading the text under the
allow-lists, the answers of the lenient and of the strict form, and what is heard. -/
inductive Finding (checker : Checker) (text : String) :
    Except Unparsable Scope → Bool → Except Denied Scope → List Diagnostic → Prop
  | unparsable : Finding checker text (.error ⟨text⟩) false (.error ⟨text⟩) [Unparsable.diagnostic ⟨text⟩]
  | denied (request : Scope) (huncovered : ∀ grant ∈ checker.grants, grant.covers request = false) :
      Finding checker text (.ok request) false (.error ⟨text⟩) []
  | allowed (request grant : Scope) (hgrant : grant ∈ checker.grants) (hcovers : grant.covers request = true) :
      Finding checker text (.ok request) true (.ok request) []

theorem finding (checker : Checker) (text : String) :
    checker.Finding text (checker.lists.require text) (checker.can text) (checker.require text)
      (checker.diagnostics text) := by
  unfold can require diagnostics judge AllowLists.require
  cases checker.lists.parse? text with
  | none => exact .unparsable
  | some request =>
    by_cases hpermits : checker.permits request = true
    · obtain ⟨grant, hgrant, hcovers⟩ := permits_eq_true_iff.1 hpermits
      simp only [hpermits, if_true]
      exact .allowed request grant hgrant hcovers
    · simp only [hpermits]
      refine .denied request ?_
      intro grant hgrant
      rw [← Bool.not_eq_true]
      intro hcovers
      exact hpermits (permits_eq_true_iff.2 ⟨grant, hgrant, hcovers⟩)

/-- The diagnostic about a text, if it cannot be read. -/
def diagnostic? (lists : AllowLists) (text : String) : Option Diagnostic :=
  match lists.require text with
  | .error error => some error.diagnostic
  | .ok _ => none

namespace Finding

variable {checker : Checker} {text : String} {read : Except Unparsable Scope} {allowed : Bool}
  {result : Except Denied Scope} {heard : List Diagnostic}

/-- The strict form succeeds exactly where the lenient form says yes. -/
theorem exists_scope_iff (hfinding : checker.Finding text read allowed result heard) :
    (∃ scope, result = .ok scope) ↔ allowed = true := by
  cases hfinding with
  | unparsable => simp
  | denied request huncovered => simp
  | allowed request grant hgrant hcovers => simp

/-- What the strict form returns is what the reader returns. -/
theorem read_eq {scope : Scope} (hfinding : checker.Finding text read allowed result heard)
    (hresult : result = .ok scope) : read = .ok scope := by
  cases hfinding with
  | unparsable => cases hresult
  | denied request huncovered => cases hresult
  | allowed request grant hgrant hcovers =>
    cases hresult
    rfl

theorem result_eq (hfinding : checker.Finding text read allowed result heard) (hallowed : allowed = false) :
    result = .error ⟨text⟩ := by
  cases hfinding with
  | unparsable => rfl
  | denied request huncovered => rfl
  | allowed request grant hgrant hcovers => cases hallowed

theorem heard_eq (hfinding : checker.Finding text (checker.lists.require text) allowed result heard) :
    heard = (diagnostic? checker.lists text).toList := by
  rw [diagnostic?]
  generalize checker.lists.require text = read at hfinding ⊢
  cases hfinding with
  | unparsable => rfl
  | denied request huncovered => rfl
  | allowed request grant hgrant hcovers => rfl

end Finding

/-! ### Conversations -/

variable {Context : Type}

/-- A reply that answers the query as a finding about its text has it, and is heard so. -/
def Answered (checker : Checker) (query : Query Context) (reply : Reply) : Prop :=
  ∃ read allowed result, checker.Finding query.text read allowed result reply.diagnostics ∧
    checker.lists.require query.text = read ∧
    (query.question = .can → reply.answer = .verdict allowed) ∧
    (query.question = .require → reply.answer = .scope result)

theorem answered_reply (checker : Checker) (query : Query Context) : checker.Answered query (checker.reply query) := by
  refine ⟨_, _, _, checker.finding query.text, rfl, ?_, ?_⟩
  · intro hcan
    rw [reply, hcan]
  · intro hrequire
    rw [reply, hrequire]

/-- The replies to queries are heard as the diagnostics about the texts that cannot be read, in order. -/
theorem flatMap_diagnostics (checker : Checker) (queries : List (Query Context)) :
    (queries.map checker.reply).flatMap Reply.diagnostics =
      queries.filterMap fun query => diagnostic? checker.lists query.text := by
  induction queries with
  | nil => rfl
  | cons query queries ih =>
    have hfirst : (checker.reply query).diagnostics = (diagnostic? checker.lists query.text).toList :=
      (checker.finding query.text).heard_eq
    rw [List.map_cons, List.flatMap_cons, ih, hfirst, List.filterMap_cons]
    cases diagnostic? checker.lists query.text <;> rfl

/-- The strict form returns a scope exactly where the lenient form says yes, namely the one that is read
from the request, and otherwise refuses the request as it came. Building the checker is silent. Over a
conversation one diagnostic is heard for each request without an admitted layout, in order and with the
request quoted in it, and nothing else. -/
theorem forms_agree_and_diagnostics_exact (subjects resources : Option (List String)) (grants : List String)
    (queries : List (Query Context)) :
    (∀ text,
      ((∃ scope, (ofGrants (.given subjects resources) grants).require text = .ok scope) ↔
          (ofGrants (.given subjects resources) grants).can text = true) ∧
        (∀ scope, (ofGrants (.given subjects resources) grants).require text = .ok scope →
          (AllowLists.given subjects resources).require text = .ok scope) ∧
        ((ofGrants (.given subjects resources) grants).can text = false →
          (ofGrants (.given subjects resources) grants).require text = .error ⟨text⟩) ∧
        ((∃ error, (AllowLists.given subjects resources).require text = .error error) ↔
          ¬ ∃ layout : Scope.Layout, layout.Admitted subjects resources text)) ∧
      (consult (.given subjects resources) grants queries).checker = ofGrants (.given subjects resources) grants ∧
      (consult (.given subjects resources) grants queries).construction = [] ∧
      List.Forall₂ (ofGrants (.given subjects resources) grants).Answered queries
        (consult (.given subjects resources) grants queries).replies ∧
      (consult (.given subjects resources) grants queries).replies.flatMap Reply.diagnostics =
        queries.filterMap fun query =>
          match (AllowLists.given subjects resources).require query.text with
          | .error error => some ⟨.debug, "unparsable request denied: " ++ Text.quote error.text⟩
          | .ok _ => none := by
  rw [consult_eq]
  refine ⟨?_, rfl, rfl, ?_, ?_⟩
  · intro text
    have hfinding := (ofGrants (.given subjects resources) grants).finding text
    refine ⟨hfinding.exists_scope_iff, fun scope => hfinding.read_eq, hfinding.result_eq, ?_⟩
    constructor
    · intro h
      obtain ⟨error, herror⟩ := h
      exact (AllowLists.require_eq_error_iff.1 herror).2
    · intro hnone
      exact ⟨⟨text⟩, AllowLists.require_eq_error_iff.2 ⟨rfl, hnone⟩⟩
  · refine List.forall₂_map_right_iff.2 (List.forall₂_same.2 ?_)
    intro query _
    exact answered_reply _ query
  · exact flatMap_diagnostics _ queries

/-- The request is returned and not the grant, and what cannot be read is refused in the same words as
what is denied. -/
example :
    let checker := ofGrants (.given none none) ["user/*.crud"]
    checker.require "user/orders.r" =
        .ok { subject := "user", resource := "orders", actions := [.read], params := none } ∧
      checker.require "user/orders" = .error ⟨"user/orders"⟩ ∧
      checker.require "user/orders.s" = .error ⟨"user/orders.s"⟩ := by
  decide +kernel

end Checker

end AccessScopes
