import AccessScopes.Session.Step
import AccessScopes.Proofs.Session.Recording

/-!
# Decision logs can be read back

What decisions add to the open log within its day, whoever makes them and whatever their scopes hold: printable ASCII
in lines of one decision each, from which the decisions can be read back. So no scope can end its line,
add or hide a member of its object, or pass for another decision.
-/

namespace AccessScopes

namespace Session

/-- The steps in which a logger records decisions, each at its time. -/
def decisionSteps (logger : String) (decisions : List Decision) : List (String × Step) :=
  decisions.map fun decision => (decision.time, .decision logger decision.scope decision.allowed)

theorem through_of_known {session : Session} {logger : String} (hlogger : (session.loggers.get? logger).isSome = true)
    (after : Session) : session.through logger after = (.done, after) := by
  obtain ⟨path, hpath⟩ := Option.isSome_iff_exists.1 hlogger
  rw [through, hpath]

theorem run_decisionSteps {session : Session} {logger : String}
    (hlogger : (session.loggers.get? logger).isSome = true) (decisions : List Decision) :
    session.run (decisionSteps logger decisions) = (decisions.map Record.decision).foldl Session.record session := by
  induction decisions generalizing session with
  | nil => rfl
  | cons decision decisions ih =>
    have hstep : (session.step decision.time (.decision logger decision.scope decision.allowed)).2 =
        session.record (.decision decision) := congrArg Prod.snd (through_of_known hlogger _)
    have hnext : ((session.record (.decision decision)).loggers.get? logger).isSome = true := by
      rw [loggers_record]
      exact hlogger
    rw [List.map_cons, List.foldl_cons, ← ih hnext, ← hstep]
    rfl

/-- Decisions add their log to the file of the log that is open, as long as the file need not be put aside. -/
theorem text?_run_decisionSteps {session : Session} {opened : OpenLog} {before logger : String}
    (hlog : session.log = some opened) (hlinked : opened.stream = .linked)
    (hkept : opened.rotation? session.tree = none) (hbefore : session.tree.text? opened.location = some before)
    (hlogger : (session.loggers.get? logger).isSome = true) (decisions : List Decision) :
    (session.run (decisionSteps logger decisions)).tree.text? opened.location =
      some (before ++ Decision.log decisions) := by
  rw [run_decisionSteps hlogger, foldl_record hlog]
  obtain ⟨after, hall, htext, -⟩ :=
    OpenLog.addAll_of_kept hlinked hkept ((decisions.map Record.decision).map Record.text)
  rw [hall]
  dsimp only
  rw [htext, if_pos rfl, hbefore]
  rfl

end Session

namespace Decision

theorem mapM_parse?_log (decisions : List Decision) :
    ((log decisions).toList.splitOn '\n').dropLast.mapM Json.Object.parse? = some (decisions.map object) := by
  rw [dropLast_splitOn_log]
  exact mapM_lines (fun decision => Json.Object.parse?_render decision.object) decisions

/-- What decisions add to a log is printable ASCII with one line feed for each, at the end of its line.
The lines are read as the decisions in order and as nothing else, so a log determines its decisions. -/
theorem log_isDecodable (decisions : List Decision) :
    (∀ (session : Session) (opened : OpenLog) (before logger : String),
        session.log = some opened → opened.stream = .linked → opened.rotation? session.tree = none →
        session.tree.text? opened.location = some before → (session.loggers.get? logger).isSome = true →
        (session.run (Session.decisionSteps logger decisions)).tree.text? opened.location =
          some (before ++ log decisions)) ∧
      (∀ c ∈ (log decisions).toList, c = '\n' ∨ 0x20 ≤ c.toNat ∧ c.toNat ≤ 0x7E) ∧
      (log decisions).toList.count '\n' = decisions.length ∧
      ((log decisions).toList.splitOn '\n').getLast? = some [] ∧
      ((log decisions).toList.splitOn '\n').dropLast.mapM Json.Object.parse? =
        some (decisions.map fun decision =>
          [("event", .text (if decision.allowed then "allow" else "deny")), ("ts", .text decision.time),
            ("scope", .text decision.scope), ("allowed", .flag decision.allowed)]) ∧
      ∀ others, log others = log decisions → others = decisions := by
  refine ⟨?_, fun c => isAscii_of_mem_log, count_newline_log decisions, ?_, mapM_parse?_log decisions, ?_⟩
  · intro session opened before logger hlog hlinked hkept hbefore hlogger
    exact Session.text?_run_decisionSteps hlog hlinked hkept hbefore hlogger decisions
  · rw [splitOn_log, List.getLast?_concat]
  · intro others heq
    exact log_injective heq

end Decision

end AccessScopes
