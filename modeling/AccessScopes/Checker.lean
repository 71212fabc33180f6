import AccessScopes.AllowLists
import AccessScopes.Diagnostic
import AccessScopes.Scope.Coverage

/-!
# Checkers

A checker holds the grants that could be read under its allow-lists and judges requests: a request
is allowed if it can be read and a single grant covers it. Grants that cannot be read are dropped in
silence. A request that cannot be read is denied with a diagnostic. Whoever asks for a yes or no and
whoever demands the scope get their answers from the same verdict.
-/

namespace AccessScopes

/-- A fixed set of grants and the allow-lists under which grants and requests are read. -/
structure Checker where
  lists : AllowLists
  grants : List Scope
  deriving DecidableEq

/-- What a checker finds about a request. -/
inductive Verdict
  | allowed (request : Scope)
  | denied
  | unparsable
  deriving DecidableEq

/-- The refusal of a request, which names it as it came. -/
structure Denied where
  text : String
  deriving DecidableEq

def Denied.message (error : Denied) : String :=
  "Permission denied: " ++ Text.quote error.text

namespace Checker

/-- The checker for grants given as texts. -/
def ofGrants (lists : AllowLists) (grants : List String) : Checker :=
  { lists, grants := grants.filterMap lists.parse? }

def describe (checker : Checker) : String :=
  "<PermissionChecker granted=" ++ toString checker.grants.length ++ ">"

def permits (checker : Checker) (request : Scope) : Bool :=
  checker.grants.any (·.covers request)

def judge (checker : Checker) (text : String) : Verdict :=
  match checker.lists.parse? text with
  | none => .unparsable
  | some request => if checker.permits request then .allowed request else .denied

def can (checker : Checker) (text : String) : Bool :=
  match checker.judge text with
  | .allowed _ => true
  | _ => false

def require (checker : Checker) (text : String) : Except Denied Scope :=
  match checker.judge text with
  | .allowed request => .ok request
  | _ => .error ⟨text⟩

def diagnostics (checker : Checker) (text : String) : List Diagnostic :=
  match checker.judge text with
  | .unparsable => [⟨.debug, "unparsable request denied: " ++ Text.quote text⟩]
  | _ => []

theorem permits_eq_true_iff {checker : Checker} {request : Scope} :
    checker.permits request = true ↔ ∃ grant ∈ checker.grants, grant.covers request = true :=
  List.any_eq_true

theorem can_eq_true_iff {checker : Checker} {text : String} :
    checker.can text = true ↔
      ∃ request, checker.lists.parse? text = some request ∧ checker.permits request = true := by
  unfold can judge
  cases checker.lists.parse? text with
  | none => simp
  | some request => cases hpermits : checker.permits request <;> simp [hpermits]

theorem mem_grants_ofGrants {lists : AllowLists} {grants : List String} {scope : Scope} :
    scope ∈ (ofGrants lists grants).grants ↔ ∃ text ∈ grants, lists.parse? text = some scope :=
  List.mem_filterMap

/-! ### Conversations

A checker is asked many things in a row. A question may come with a context of any type, which is
kept for rules to come and has no influence on answers today. -/

inductive Question
  | can
  | require
  deriving DecidableEq

/-- A question about a request, with the context in which it is asked. -/
structure Query (Context : Type) where
  question : Question
  text : String
  context : Option Context

inductive Answer
  | verdict (allowed : Bool)
  | scope (result : Except Denied Scope)

structure Reply where
  answer : Answer
  diagnostics : List Diagnostic

def reply {Context : Type} (checker : Checker) (query : Query Context) : Reply where
  answer :=
    match query.question with
    | .can => .verdict (checker.can query.text)
    | .require => .scope (checker.require query.text)
  diagnostics := checker.diagnostics query.text

/-- All that a checker said, from its construction on. -/
structure Transcript where
  checker : Checker
  construction : List Diagnostic
  replies : List Reply

/-- Reads a grant, with what is said of it. -/
def readGrant (lists : AllowLists) (text : String) : Option Scope × List Diagnostic :=
  match lists.parse? text with
  | none => (none, [])
  | some scope => (some scope, [])

/-- Builds a checker and asks it one query after another. -/
def consult {Context : Type} (lists : AllowLists) (grants : List String) (queries : List (Query Context)) :
    Transcript :=
  let readings := grants.map (readGrant lists)
  let checker : Checker := { lists, grants := readings.filterMap Prod.fst }
  { checker, construction := readings.flatMap Prod.snd, replies := queries.map checker.reply }

/-- Nothing is said of a grant, whether it can be read or not. -/
theorem readGrant_eq (lists : AllowLists) (text : String) : readGrant lists text = (lists.parse? text, []) := by
  unfold readGrant
  cases lists.parse? text <;> rfl

theorem consult_eq {Context : Type} (lists : AllowLists) (grants : List String) (queries : List (Query Context)) :
    consult lists grants queries =
      { checker := ofGrants lists grants
        construction := []
        replies := queries.map (ofGrants lists grants).reply } := by
  have hread : readGrant lists = fun text => (lists.parse? text, []) := funext (readGrant_eq lists)
  have hgrants : (grants.map (readGrant lists)).filterMap Prod.fst = grants.filterMap lists.parse? := by
    rw [hread, List.filterMap_map]
    rfl
  have hsaid : (grants.map (readGrant lists)).flatMap Prod.snd = [] := by
    rw [hread, List.flatMap_map]
    exact List.flatMap_eq_nil_iff.2 fun _ _ => rfl
  rw [consult, hgrants, hsaid]
  rfl

end Checker

end AccessScopes
