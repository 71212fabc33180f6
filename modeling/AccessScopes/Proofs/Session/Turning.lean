import AccessScopes.Proofs.Session.Routing

/-!
# How the shared log moves

Every event moves the open log of its session as it turns it, and in no other way. This holds in every
session, also if the file of the log was removed. What is delivered where and how long a log lives both
rest on it.
-/

namespace AccessScopes

open Files

/-- The place of the open log. -/
def Session.shared (session : Session) : Option Location :=
  session.log.map fun opened => opened.location

/-- The place of the shared log once it is turned. -/
def Turn.apply : Option Turn → Option Location → Option Location
  | none, shared => shared
  | some (.opens location), _ => some location
  | some .ends, _ => none

theorem Event.target_cons (event : Event) (past : List Event) :
    target (event :: past) = Turn.apply event.turn? (target past) := by
  rw [target, target, List.findSome?_cons]
  cases event.turn? with
  | none => rfl
  | some turn => cases turn <;> rfl

/-! ### Steps -/

namespace Session

theorem step_configure_eq (session : Session) (time : String) :
    session.step time .configure =
      (match session.loadEnvironment.1 with
        | .error error => .notLoaded error
        | .ok _ => .configured session.loadEnvironment.2.config, session.loadEnvironment.2) := by
  simp only [step]
  split <;> rename_i hload <;> rw [hload]

theorem step_command_eq {session : Session} {time : String} {arguments : List String}
    {run : Except CommandLine.Crash CommandLine.Report × Session}
    (hrun : CommandLine.run time arguments session = run) :
    session.step time (.command arguments) = (.ofRun run.1, run.2) := by
  rw [step, hrun]
  rfl

/-- Opening a log through a logger either closes the log or makes the file of the path the log. -/
theorem step_openLogger (session : Session) (time id path : String) :
    (∃ error, session.step time (.openLogger id path) = (.notOpened error, session.closeLog)) ∨
      ∃ file tree, (Path.parse path).logFile = .ok file ∧
        session.tree.touchAt (file.address session.directory) = .ok tree ∧
        session.step time (.openLogger id path) = (.opened file, { session with
          tree, log := some (session.startLog (file.address session.directory)),
          loggers := session.loggers.insert id file }) := by
  have hopening := session.openLog_opening path
  generalize hopen : session.openLog path = opening at hopening
  cases hopening with
  | refused error => exact Or.inl ⟨error, by simp [step, openLogger, Outcome.ofOpening, hopen]⟩
  | opened file tree hfile htouch =>
    exact Or.inr ⟨file, tree, hfile, htouch, by simp [step, openLogger, Outcome.ofOpening, hopen]⟩

end Session

namespace Event

variable {session post : Session} {time : String} {step : Step} {result : Outcome}

theorem outcome_eq (hstep : session.step time step = (result, post)) : outcome ⟨session, time, step⟩ = result :=
  congrArg Prod.fst hstep

theorem after_eq (hstep : session.step time step = (result, post)) : after ⟨session, time, step⟩ = post :=
  congrArg Prod.snd hstep

/-! ### Changes from outside -/

/-- Writing from outside is refused, or it changes at most the file that it touches. -/
theorem write_cases (session : Session) (time path text : String) :
    (∃ refusal, session.step time (.write path text) = (.refused refusal, session)) ∨
      ∃ tree, session.step time (.write path text) = (.done, { session with tree }) ∧
        ∀ other, touched? ⟨session, time, .write path text⟩ ≠ some other →
          tree.text? other = session.tree.text? other := by
  cases hwrite : session.tree.writeAt session.directory path text with
  | error refusal => exact Or.inl ⟨refusal, by simp [Session.step, Session.write, Outcome.ofChange, hwrite]⟩
  | ok tree =>
    obtain ⟨place, slashed, hentry, htext⟩ := Tree.writeAt_cases hwrite
    have hstep : session.step time (.write path text) = (.done, { session with tree }) := by
      simp [Session.step, Session.write, Outcome.ofChange, hwrite]
    have htouched : touched? ⟨session, time, .write path text⟩ = some place := by
      simp [touched?, outcome_eq hstep, hentry, Except.toOption]
    refine Or.inr ⟨tree, hstep, ?_⟩
    intro other hother
    rw [htouched] at hother
    exact htext other fun heq => hother (congrArg some heq.symm)

/-- Removing from outside is refused, or it changes at most the file that it touches, from which the log is
then cut off. -/
theorem remove_cases (session : Session) (time path : String) :
    (∃ refusal, session.step time (.remove path) = (.refused refusal, session)) ∨
      ∃ place tree, session.step time (.remove path) = (.done, { session with
          tree, log := session.log.map (·.cut place) }) ∧
        touched? ⟨session, time, .remove path⟩ = some place ∧
        ∀ other, touched? ⟨session, time, .remove path⟩ ≠ some other →
          tree.text? other = session.tree.text? other := by
  cases hremove : session.tree.removeAt session.directory path with
  | error refusal => exact Or.inl ⟨refusal, by simp [Session.step, Session.remove, Outcome.ofChange, hremove]⟩
  | ok removed =>
    obtain ⟨place, tree⟩ := removed
    obtain ⟨⟨slashed, hentry⟩, htext⟩ := Tree.removeAt_cases hremove
    have hstep : session.step time (.remove path) = (.done, { session with
        tree, log := session.log.map (·.cut place) }) := by
      simp [Session.step, Session.remove, Outcome.ofChange, hremove]
    have htouched : touched? ⟨session, time, .remove path⟩ = some place := by
      simp [touched?, outcome_eq hstep, hentry, Except.toOption]
    refine Or.inr ⟨place, tree, hstep, htouched, ?_⟩
    intro other hother
    rw [htouched] at hother
    exact htext other fun heq => hother (congrArg some heq.symm)

/-- Making a directory is refused, or it changes no file. -/
theorem makeDirectory_cases (session : Session) (time path : String) :
    (∃ refusal, session.step time (.makeDirectory path) = (.refused refusal, session)) ∨
      ∃ tree, session.step time (.makeDirectory path) = (.done, { session with tree }) ∧
        ∀ other, tree.text? other = session.tree.text? other := by
  cases hmake : session.tree.makeDirectoryAt session.directory path with
  | error refusal => exact Or.inl ⟨refusal, by simp [Session.step, Session.makeDirectory, Outcome.ofChange, hmake]⟩
  | ok tree =>
    have hstep : session.step time (.makeDirectory path) = (.done, { session with tree }) := by
      simp [Session.step, Session.makeDirectory, Outcome.ofChange, hmake]
    exact Or.inr ⟨tree, hstep, Tree.text?_makeDirectoryAt hmake⟩

/-! ### Turns -/

theorem auditConfig?_of_audit {arguments : List String} (hsome : arguments ≠ [])
    (hload : session.loadEnvironment.1 = .ok ()) (haudit : session.loadEnvironment.2.config.audit = true) :
    auditConfig? session arguments = some session.loadEnvironment.2.config := by
  simp [auditConfig?, hsome, hload, haudit, Except.isOk, Except.toBool]

theorem shared_of_log {before after : Session} (hlog : after.log = before.log) : after.shared = before.shared := by
  rw [Session.shared, Session.shared, hlog]

theorem shared_remove (session : Session) (path : String) : (session.remove path).2.shared = session.shared := by
  unfold Session.remove
  split
  · rfl
  · simp [Session.shared, Function.comp_def, OpenLog.toAddress_cut]

theorem shared_age (session : Session) (day : CalendarDay) : (session.age day).shared = session.shared := by
  simp [Session.age, Session.shared, Function.comp_def, OpenLog.age]

theorem shared_openLogger (id path : String) :
    (after ⟨session, time, .openLogger id path⟩).shared =
      Turn.apply (turn? ⟨session, time, .openLogger id path⟩) session.shared := by
  rcases session.step_openLogger time id path with ⟨error, hstep⟩ | ⟨file, tree, -, -, hstep⟩
  · have hturn : turn? ⟨session, time, .openLogger id path⟩ = some .ends := by
      simp [turn?, outcome_eq hstep]
    rw [after_eq hstep, hturn]
    rfl
  · have hturn : turn? ⟨session, time, .openLogger id path⟩ = some (.opens (file.resolve session.directory)) := by
      simp [turn?, outcome_eq hstep]
    rw [after_eq hstep, hturn]
    rfl

theorem shared_close (id : String) :
    (after ⟨session, time, .close id⟩).shared = Turn.apply (turn? ⟨session, time, .close id⟩) session.shared := by
  cases hlogger : session.loggers.get? id with
  | none =>
    have hstep : session.step time (.close id) = (.unknownLogger id, session) := by
      simp [Session.step, Session.through, hlogger]
    have hturn : turn? ⟨session, time, .close id⟩ = none := by
      simp [turn?, outcome_eq hstep]
    rw [after_eq hstep, hturn]
    rfl
  | some path =>
    have hstep : session.step time (.close id) = (.done, session.closeLog) := by
      simp [Session.step, Session.through, hlogger]
    have hturn : turn? ⟨session, time, .close id⟩ = some .ends := by
      simp [turn?, outcome_eq hstep]
    rw [after_eq hstep, hturn]
    rfl

/-- A run of the command that starts a log of its own ends the shared one, and any other leaves it. -/
theorem shared_command (arguments : List String) :
    (after ⟨session, time, .command arguments⟩).shared =
      Turn.apply (turn? ⟨session, time, .command arguments⟩) session.shared := by
  have hafter : after ⟨session, time, .command arguments⟩ = (CommandLine.run time arguments session).2 := rfl
  have hcourse := CommandLine.run_course time arguments session
  rw [hafter]
  generalize CommandLine.run time arguments session = run at hcourse
  cases hcourse with
  | noArguments hnone => simp [turn?, auditConfig?, hnone, Turn.apply]
  | notLoaded error hsome hload =>
    have hturn : turn? ⟨session, time, .command arguments⟩ = none := by
      simp [turn?, auditConfig?, hload, Except.isOk, Except.toBool]
    rw [hturn]
    exact shared_of_log session.loadEnvironment_log
  | unaudited hsome hload hoff =>
    have hturn : turn? ⟨session, time, .command arguments⟩ = none := by
      simp [turn?, auditConfig?, hoff]
    rw [hturn]
    exact shared_of_log session.loadEnvironment_log
  | notOpened error hsome hload hon =>
    have hturn : turn? ⟨session, time, .command arguments⟩ = some .ends := by
      simp [turn?, auditConfig?_of_audit hsome hload hon]
    rw [hturn]
    rfl
  | audited file opened hsome hload hon hfile htouch =>
    have hturn : turn? ⟨session, time, .command arguments⟩ = some .ends := by
      simp [turn?, auditConfig?_of_audit hsome hload hon]
    rw [hturn]
    rfl

/-- Recording never moves the shared log. -/
theorem shared_record (session : Session) (entry : Record) : (session.record entry).shared = session.shared := by
  cases hlog : session.log with
  | none => rw [Session.record_of_closed hlog]
  | some opened =>
    rw [Session.record_of_open hlog, Session.shared, Session.shared, hlog, Option.map_some, Option.map_some,
      OpenLog.toAddress_add]

theorem shared_through {session after : Session} {id : String} (hshared : after.shared = session.shared) :
    (session.through id after).2.shared = session.shared := by
  unfold Session.through
  split
  · rfl
  · exact hshared

/-- The shared log moves as each event turns it, in every session. -/
theorem shared_after (event : Event) : event.after.shared = Turn.apply event.turn? event.before.shared := by
  obtain ⟨session, time, step⟩ := event
  cases step with
  | setVariable name value =>
    apply shared_of_log
    simp only [after, Session.step, Session.setVariable]
    split <;> rfl
  | unsetVariable name => rfl
  | write path text =>
    apply shared_of_log
    simp only [after, Session.step, Session.write]
    split <;> rfl
  | remove path => exact shared_remove session path
  | makeDirectory path =>
    apply shared_of_log
    simp only [after, Session.step, Session.makeDirectory]
    split <;> rfl
  | enter path =>
    apply shared_of_log
    simp only [after, Session.step, Session.enter]
    split <;> rfl
  | configure =>
    rw [after_eq (session.step_configure_eq time)]
    exact shared_of_log session.loadEnvironment_log
  | command arguments => exact shared_command arguments
  | openLogger id path => exact shared_openLogger id path
  | decision id scope allowed => exact shared_through (shared_record session _)
  | message id level text =>
    refine shared_through ?_
    split
    · exact shared_record session _
    · rfl
  | close id => exact shared_close id
  | midnight day => exact shared_age session day

end Event

end AccessScopes
