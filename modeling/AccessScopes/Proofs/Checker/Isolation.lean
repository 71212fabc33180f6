import AccessScopes.Proofs.Checker.Conversation

/-!
# Isolation of subjects

The subject of a scope is what stands before the first separator of its text, and a grant covers requests of
its own subject only. So of all grants, those that start like a request decide about it, and of these the ones
that can be read. Whatever the other grants are, and however the grants are ordered or repeated, a checker says
the same about the subject, over a whole conversation.
-/

namespace AccessScopes

namespace Scope

/-- The text before the first separator, or the whole text if there is none. -/
def leading (text : String) : String :=
  .ofList (text.toList.takeWhile (· ∉ ['/', '.', '?']))

theorem leading_eq_of_layout {layout : Layout} {text : String} (hvalid : layout.Valid)
    (htext : layout.text = text.toList) : leading text = .ofList layout.subject := by
  have hfree : ∀ c ∈ layout.subject, decide (c ∉ ['/', '.', '?']) = true := by
    intro c hc
    exact decide_eq_true (hvalid.subject_free c hc)
  rw [leading, ← htext, Layout.text, List.append_assoc, List.append_assoc, List.takeWhile_append_of_pos hfree,
    List.cons_append, List.takeWhile_cons_of_neg, List.append_nil]
  simpa only [decide_eq_true_eq, not_not] using hvalid.first_separator

/-- The subject that is read from a text stands before its first separator. -/
theorem subject_eq_leading {text : String} {scope : Scope} (hparse : parse? text = some scope) :
    scope.subject = leading text := by
  obtain ⟨layout, hvalid, htext, rfl⟩ := exists_layout_of_parseChars? hparse
  exact (leading_eq_of_layout hvalid htext).symm

end Scope

namespace Checker

/-- The grants that start with the subject. -/
def about (subject : String) (grants : List String) : List String :=
  grants.filter fun grant => Scope.leading grant = subject

theorem mem_about_iff {subject grant : String} {grants : List String} :
    grant ∈ about subject grants ↔ grant ∈ grants ∧ Scope.leading grant = subject := by
  rw [about, List.mem_filter, decide_eq_true_iff]

/-- The grants that start with the subject and can be read. -/
def legible (lists : AllowLists) (subject : String) (grants : List String) : List String :=
  (about subject grants).filter fun grant => (lists.parse? grant).isSome

theorem mem_legible_iff {lists : AllowLists} {subject grant : String} {grants : List String} :
    grant ∈ legible lists subject grants ↔
      grant ∈ about subject grants ∧ ∃ scope, lists.parse? grant = some scope := by
  rw [legible, List.mem_filter, Option.isSome_iff_exists]

variable {lists : AllowLists} {left right : List String} {subject text : String}

/-! ### What decides about a subject -/

/-- A grant that covers a request starts with the subject of the request. -/
theorem mem_legible_of_covers {held : String} {grants : List String} {grant request : Scope} (hheld : held ∈ grants)
    (hgrant : lists.parse? held = some grant) (hcovers : grant.covers request = true) :
    held ∈ legible lists request.subject grants := by
  have hsubject : Scope.leading held = request.subject := by
    rw [← Scope.subject_eq_leading (AllowLists.parse?_eq_some_iff.1 hgrant).1]
    exact (Scope.covers_iff.1 hcovers).1
  exact mem_legible_iff.2 ⟨mem_about_iff.2 ⟨hheld, hsubject⟩, grant, hgrant⟩

theorem permits_of_legible {request : Scope}
    (hsubset : ∀ grant ∈ legible lists request.subject left, grant ∈ right)
    (hpermits : (ofGrants lists left).permits request = true) : (ofGrants lists right).permits request = true := by
  obtain ⟨grant, hmem, hcovers⟩ := permits_eq_true_iff.1 hpermits
  obtain ⟨held, hheld, hgrant⟩ := mem_grants_ofGrants.1 hmem
  have hright : held ∈ right := hsubset held (mem_legible_of_covers hheld hgrant hcovers)
  exact permits_eq_true_iff.2 ⟨grant, mem_grants_ofGrants.2 ⟨held, hright, hgrant⟩, hcovers⟩

/-- A verdict depends on the allow-lists and on whether the request that is read is permitted. -/
theorem judge_congr {checker other : Checker} (hlists : other.lists = checker.lists)
    (hpermits : ∀ request, checker.lists.parse? text = some request →
      other.permits request = checker.permits request) : other.judge text = checker.judge text := by
  rw [judge, judge, hlists]
  cases hrequest : checker.lists.parse? text with
  | none => rfl
  | some request =>
    dsimp only
    rw [hpermits request hrequest]

/-- Two checkers that have the legible grants of a subject in common find the same about its requests. -/
theorem judge_eq_of_legible (hleft : ∀ grant ∈ legible lists subject left, grant ∈ right)
    (hright : ∀ grant ∈ legible lists subject right, grant ∈ left) (htext : Scope.leading text = subject) :
    (ofGrants lists left).judge text = (ofGrants lists right).judge text := by
  refine judge_congr rfl ?_
  intro request hrequest
  have hsubject : request.subject = subject := by
    rw [Scope.subject_eq_leading (AllowLists.parse?_eq_some_iff.1 hrequest).1, htext]
  subst hsubject
  rw [Bool.eq_iff_iff]
  exact ⟨permits_of_legible hleft, permits_of_legible hright⟩

/-! ### What is said about a subject -/

/-- All that a checker says about a text it says from its verdict. -/
theorem answers_congr {checker other : Checker} (hjudge : checker.judge text = other.judge text) :
    checker.can text = other.can text ∧ checker.require text = other.require text ∧
      checker.diagnostics text = other.diagnostics text := by
  rw [can, can, require, require, diagnostics, diagnostics, hjudge]
  exact ⟨rfl, rfl, rfl⟩

theorem reply_congr {Context : Type} {checker other : Checker} {query : Query Context}
    (hjudge : checker.judge query.text = other.judge query.text) : checker.reply query = other.reply query := by
  obtain ⟨hcan, hrequire, hdiagnostics⟩ := answers_congr hjudge
  rw [reply, reply, hcan, hrequire, hdiagnostics]

theorem replies_consult_congr {Context : Type} {queries : List (Query Context)}
    (hjudge : ∀ query ∈ queries, (ofGrants lists left).judge query.text = (ofGrants lists right).judge query.text) :
    (consult lists left queries).replies = (consult lists right queries).replies := by
  rw [consult_eq, consult_eq]
  exact List.map_congr_left fun query hquery => reply_congr (hjudge query hquery)

/-- Checkers with the same allow-lists whose grants that start with a subject are the same, up to order and
repetition, say the same about every request that starts with it. This holds over whole conversations about
the subject, and the grants for other subjects and those that cannot be read may as well be missing. -/
theorem answers_depend_on_grants_of_subject {Context : Type} (lists : AllowLists) (left right : List String)
    (subject : String) (hsame : ∀ grant, grant ∈ about subject left ↔ grant ∈ about subject right) :
    (∀ text, Scope.leading text = subject →
      (ofGrants lists left).can text = (ofGrants lists right).can text ∧
        (ofGrants lists left).require text = (ofGrants lists right).require text ∧
        (ofGrants lists left).diagnostics text = (ofGrants lists right).diagnostics text) ∧
      ∀ queries : List (Query Context), (∀ query ∈ queries, Scope.leading query.text = subject) →
        (consult lists left queries).replies = (consult lists right queries).replies ∧
          (consult lists left queries).replies = (consult lists (legible lists subject left) queries).replies := by
  have hjudge : ∀ text, Scope.leading text = subject →
      (ofGrants lists left).judge text = (ofGrants lists right).judge text := by
    intro text htext
    refine judge_eq_of_legible ?_ ?_ htext
    · intro grant hgrant
      exact (mem_about_iff.1 ((hsame grant).1 (mem_legible_iff.1 hgrant).1)).1
    · intro grant hgrant
      exact (mem_about_iff.1 ((hsame grant).2 (mem_legible_iff.1 hgrant).1)).1
  -- The legible grants are grants about the subject themselves, so they may stand for the whole list.
  have hlegible : ∀ text, Scope.leading text = subject →
      (ofGrants lists left).judge text = (ofGrants lists (legible lists subject left)).judge text := by
    intro text htext
    refine judge_eq_of_legible (fun grant hgrant => hgrant) ?_ htext
    intro grant hgrant
    have hmem := (mem_about_iff.1 (mem_legible_iff.1 hgrant).1).1
    exact (mem_about_iff.1 (mem_legible_iff.1 hmem).1).1
  refine ⟨fun text htext => answers_congr (hjudge text htext), ?_⟩
  intro queries hqueries
  refine ⟨replies_consult_congr fun query hquery => hjudge query.text (hqueries query hquery), ?_⟩
  exact replies_consult_congr fun query hquery => hlegible query.text (hqueries query hquery)

/-- Grants of which those for the user are the same, up to order and repetition: one that is read through
unusual separators and one that cannot be read. -/
theorem answers_for_user :
    (∀ grant, grant ∈ about "user" ["user.orders?r", "admin/*.crud", "user"] ↔
        grant ∈ about "user" ["user", "guest/orders.x", "user.orders?r", "user"]) ∧
      (ofGrants {} ["user.orders?r", "admin/*.crud", "user"]).can "user/orders.r?" = true ∧
      (ofGrants {} ["user.orders?r", "admin/*.crud", "user"]).can "user/orders.r?" =
        (ofGrants {} ["user", "guest/orders.x", "user.orders?r", "user"]).can "user/orders.r?" := by
  have hleft : about "user" ["user.orders?r", "admin/*.crud", "user"] = ["user.orders?r", "user"] := by decide +kernel
  have hright : about "user" ["user", "guest/orders.x", "user.orders?r", "user"] =
      ["user", "user.orders?r", "user"] := by decide +kernel
  have hsame : ∀ grant, grant ∈ about "user" ["user.orders?r", "admin/*.crud", "user"] ↔
      grant ∈ about "user" ["user", "guest/orders.x", "user.orders?r", "user"] := by
    intro grant
    rw [hleft, hright]
    simp only [List.mem_cons, List.not_mem_nil, or_false]
    tauto
  refine ⟨hsame, by decide +kernel, ?_⟩
  have hagree := @answers_depend_on_grants_of_subject Unit {} _ _ "user" hsame
  exact (hagree.1 "user/orders.r?" (by decide +kernel)).1

end Checker

end AccessScopes
