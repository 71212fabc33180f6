import AccessScopes.Proofs.Session.LifeCycle

/-!
# What logs are written to

The open log of a session is named as a log file wherever it was opened, and records go to the open log alone, which
puts its file aside under the name of a backup. So over any run a file that is not named as a log or as a backup of one
holds what it held, unless it is changed from outside.
-/

namespace AccessScopes

open Files

namespace Session

variable {session after : Session} {place : Location}

/-- The place of the open log, if there is one, is named as that of a log file. -/
def Confined (session : Session) : Prop :=
  ∀ location ∈ session.shared, location.NamesLog

theorem confined_of_closed (hclosed : session.log = none) : session.Confined := by
  intro location hlocation
  rw [shared_eq_none_iff.2 hclosed] at hlocation
  cases hlocation

theorem Confined.text?_record (hconfined : session.Confined) (hplace : ¬ place.NamesLog)
    (hbackup : ¬ place.NamesBackup) (entry : Record) :
    (session.record entry).tree.text? place = session.tree.text? place := by
  cases hlog : session.log with
  | none => rw [record_of_closed hlog]
  | some log =>
    have hnames : log.location.NamesLog := by
      apply hconfined
      rw [shared, hlog]
      exact Option.mem_some_self _
    rw [record_of_open hlog]
    exact (OpenLog.spares_add log session.tree entry.text).text?_of_namesLog hnames hplace hbackup

theorem text?_through (hafter : after.tree.text? place = session.tree.text? place) (id : String) :
    (session.through id after).2.tree.text? place = session.tree.text? place := by
  unfold through
  split
  · rfl
  · exact hafter

end Session

namespace Event

variable {event : Event} {place : Location}

theorem namesLog_of_turn {location : Location} (hturn : event.turn? = some (.opens location)) : location.NamesLog := by
  obtain ⟨id, path, opened, hstep, hopened⟩ := opens_of_turn hturn
  obtain ⟨session, time, step⟩ := event
  cases hstep
  rw [turn?, hopened] at hturn
  cases hturn
  rcases session.step_openLogger time id path with ⟨error, hrefused⟩ | ⟨file, tree, hfile, -, hdone⟩
  · rw [outcome_eq hrefused] at hopened
    cases hopened
  · rw [outcome_eq hdone] at hopened
    cases hopened
    exact Path.namesLog_resolve hfile session.directory

theorem confined_after (hconfined : event.before.Confined) : event.after.Confined := by
  intro location hlocation
  rw [shared_after] at hlocation
  cases hturn : event.turn? with
  | none =>
    rw [hturn] at hlocation
    exact hconfined location hlocation
  | some turn =>
    rw [hturn] at hlocation
    cases turn with
    | opens opened =>
      cases hlocation
      exact namesLog_of_turn hturn
    | ends => cases hlocation

/-- An event changes a file that is not named as a log or as a backup of one at most from outside. -/
theorem text?_after (hconfined : event.before.Confined) (hplace : ¬ place.NamesLog) (hbackup : ¬ place.NamesBackup)
    (huntouched : event.touched? ≠ some place) : event.after.tree.text? place = event.before.tree.text? place := by
  obtain ⟨session, time, step⟩ := event
  cases step with
  | setVariable name value =>
    simp only [after, Session.step, Session.setVariable]
    split <;> rfl
  | unsetVariable name => rfl
  | write path text =>
    rcases write_cases session time path text with ⟨refusal, hstep⟩ | ⟨tree, hstep, htext⟩
    · rw [after_eq hstep]
    · rw [after_eq hstep]
      exact htext place huntouched
  | remove path =>
    rcases remove_cases session time path with ⟨refusal, hstep⟩ | ⟨removed, tree, hstep, -, htext⟩
    · rw [after_eq hstep]
    · rw [after_eq hstep]
      exact htext place huntouched
  | makeDirectory path =>
    rcases makeDirectory_cases session time path with ⟨refusal, hstep⟩ | ⟨tree, hstep, htext⟩
    · rw [after_eq hstep]
    · rw [after_eq hstep]
      exact htext place
  | enter path =>
    simp only [after, Session.step, Session.enter]
    split <;> rfl
  | configure =>
    rw [after_eq (session.step_configure_eq time), session.loadEnvironment_tree]
  | command arguments =>
    have hafter : after ⟨session, time, .command arguments⟩ = (CommandLine.run time arguments session).2 := rfl
    have hloaded : session.loadEnvironment.2.tree.text? place = session.tree.text? place := by
      rw [session.loadEnvironment_tree]
    have hcourse := CommandLine.run_course time arguments session
    rw [hafter]
    generalize CommandLine.run time arguments session = run at hcourse
    cases hcourse with
    | noArguments _ => rfl
    | notLoaded _ _ _ => exact hloaded
    | unaudited _ _ _ => exact hloaded
    | notOpened _ _ _ _ => exact hloaded
    | audited file opened _ _ _ hfile htouch =>
      have hnames : (file.address session.directory).location.NamesLog := Path.namesLog_resolve hfile session.directory
      exact (Session.spares_addAll_startLog htouch _).text?_of_namesLog hnames hplace hbackup
  | openLogger id path =>
    rcases session.step_openLogger time id path with ⟨error, hstep⟩ | ⟨file, tree, hfile, htouch, hstep⟩
    · rw [after_eq hstep]
      rfl
    · rw [after_eq hstep]
      have hnames : (file.address session.directory).location.NamesLog := Path.namesLog_resolve hfile session.directory
      exact (Tree.spares_touchAt htouch).text?_of_namesLog hnames hplace hbackup
  | decision id scope allowed => exact Session.text?_through (hconfined.text?_record hplace hbackup _) id
  | message id level text =>
    refine Session.text?_through ?_ id
    split
    · exact hconfined.text?_record hplace hbackup _
    · rfl
  | close id =>
    have hclosed : session.closeLog.tree.text? place = session.tree.text? place := rfl
    exact Session.text?_through hclosed id
  | midnight day => rfl

end Event

namespace Session

variable {session : Session} {place : Location}

theorem Confined.text?_run (hconfined : session.Confined) (hplace : ¬ place.NamesLog) (hbackup : ¬ place.NamesBackup)
    {steps : List (String × Step)} (huntouched : ∀ event ∈ session.history steps, event.touched? ≠ some place) :
    (session.run steps).tree.text? place = session.tree.text? place := by
  induction steps generalizing session with
  | nil => rfl
  | cons timed steps ih =>
    obtain ⟨time, step⟩ := timed
    have hfirst : (Event.after ⟨session, time, step⟩).tree.text? place = session.tree.text? place :=
      Event.text?_after hconfined hplace hbackup (huntouched _ List.mem_cons_self)
    have hafter : (Event.after ⟨session, time, step⟩).Confined := Event.confined_after hconfined
    have hrest := ih hafter fun event hevent => huntouched event (List.mem_cons_of_mem _ hevent)
    exact hrest.trans hfirst

end Session

end AccessScopes
