import AccessScopes.Proofs.Session.Turning

/-!
# Records arrive where they belong

Every record of a session arrives at the end of the file where it belongs, once and in order, and
nothing else arrives in any file. Each event is accounted for on its own: what the files get is what the
event delivers, and the open log moves as the event turns it. Runs follow by induction. The invariant
is that the file of the open log is there and is named as a log file, so that changes from outside to
other files leave it alone.
-/

namespace AccessScopes

open Files

/-! ### Text at the end of a file -/

/-- The file at a place kept its text and got records at its end, and nothing else. -/
structure Files.Tree.Receives (before after : Tree) (location : Location) (records : List Record) : Prop where
  content_eq : after.content location = before.content location ++ Record.joined records
  isFile : before.isFile location = true ∨ records ≠ [] → after.isFile location = true

namespace Files.Tree.Receives

variable {before middle after : Tree} {location : Location} {records more : List Record}

theorem nothing (htext : after.text? location = before.text? location) : before.Receives after location [] := by
  refine ⟨?_, ?_⟩
  · rw [content_congr htext, Record.joined_nil, String.append_empty]
  · intro hfile
    rw [isFile_congr htext]
    exact hfile.resolve_right fun hne => hne rfl

theorem touched {address : Address} (htouch : before.touchAt address = .ok after) (location : Location) :
    before.Receives after location [] := by
  refine ⟨?_, ?_⟩
  · rw [content_touchAt htouch, Record.joined_nil, String.append_empty]
  · intro hfile
    exact isFile_of_touchAt htouch (hfile.resolve_right fun hne => hne rfl)

theorem of_text? (htext : after.text? location = some (before.content location ++ Record.joined records)) :
    before.Receives after location records := by
  refine ⟨?_, ?_⟩
  · rw [content, htext]
    rfl
  · intro _
    exact isFile_iff.2 ⟨_, htext⟩

theorem trans (hfirst : before.Receives middle location records) (hrest : middle.Receives after location more) :
    before.Receives after location (records ++ more) := by
  refine ⟨?_, ?_⟩
  · rw [hrest.content_eq, hfirst.content_eq, Record.joined_append, String.append_assoc]
  · intro hfile
    apply hrest.isFile
    by_cases hmore : more = []
    · rw [hmore, List.append_nil] at hfile
      exact Or.inl (hfirst.isFile hfile)
    · exact Or.inr hmore

end Files.Tree.Receives

namespace Event

/-! ### Records of one place -/

theorem recordsAt_append (location : Location) (records more : List (Location × Record)) :
    recordsAt location (records ++ more) = recordsAt location records ++ recordsAt location more := by
  rw [recordsAt, recordsAt, recordsAt, List.filter_append, List.map_append]

theorem recordsAt_map_self (location : Location) (records : List Record) :
    recordsAt location (records.map (location, ·)) = records := by
  simp [recordsAt, List.filter_map, Function.comp_def]

theorem recordsAt_map_of_ne {location place : Location} (hne : location ≠ place) (records : List Record) :
    recordsAt location (records.map (place, ·)) = [] := by
  simp [recordsAt, List.filter_map, Function.comp_def, hne.symm]

/-- A place receives its share of the records that all go to one file. -/
theorem receives_of_text? {before after : Tree} {place : Location} {records : List Record}
    (htext : ∀ other, after.text? other =
      if other = place then some (before.content place ++ Record.joined records) else before.text? other)
    (location : Location) : before.Receives after location (recordsAt location (records.map (place, ·))) := by
  by_cases hlocation : location = place
  · rw [hlocation, recordsAt_map_self]
    exact .of_text? ((htext place).trans (if_pos rfl))
  · rw [recordsAt_map_of_ne hlocation]
    exact .nothing ((htext location).trans (if_neg hlocation))

end Event

/-! ### The open log -/

/-- The file of the log is there, and named as a log file. -/
structure OpenLog.Settled (opened : OpenLog) (tree : Tree) : Prop where
  linked : opened.stream = .linked
  isFile : tree.isFile opened.location = true
  namesLog : opened.location.NamesLog

/-- The open log, if there is one, is settled. -/
def Session.Settled (session : Session) : Prop :=
  ∀ opened ∈ session.log, opened.Settled session.tree

namespace Session

variable {session : Session}

theorem settled_of_closed (hlog : session.log = none) : session.Settled := by
  intro opened hopened
  rw [hlog] at hopened
  cases hopened

theorem rotation?_eq_none {opened : OpenLog} (hkept : Event.rotationDue session = false)
    (hlog : session.log = some opened) : opened.rotation? session.tree = none := by
  simpa [Event.rotationDue, hlog] using hkept

/-- A record goes to the file of the open log, which stays open, as long as the file need not be put aside. -/
theorem record_of_settled {opened : OpenLog} (hsettled : session.Settled)
    (hkept : Event.rotationDue session = false) (hlog : session.log = some opened) (entry : Record) :
    session.record entry = { session with tree := session.tree.append opened.location entry.text } :=
  record_of_kept hlog (hsettled opened hlog).linked (rotation?_eq_none hkept hlog) entry

theorem log_record (hsettled : session.Settled) (hkept : Event.rotationDue session = false) (entry : Record) :
    (session.record entry).log = session.log := by
  cases hlog : session.log with
  | none => rw [record_of_closed hlog, hlog]
  | some opened => rw [record_of_settled hsettled hkept hlog, hlog]

theorem receives_record (hsettled : session.Settled) (hkept : Event.rotationDue session = false) (entry : Record)
    (location : Location) :
    session.tree.Receives (session.record entry).tree location
      (Event.recordsAt location (session.shared.toList.map (·, entry))) := by
  cases hlog : session.log with
  | none =>
    rw [record_of_closed hlog, shared, hlog]
    exact .nothing rfl
  | some opened =>
    have hopened := hsettled opened hlog
    have htext : ∀ other, (session.tree.append opened.location entry.text).text? other =
        if other = opened.location then some (session.tree.content opened.location ++ Record.joined [entry])
        else session.tree.text? other := by
      intro other
      rw [Tree.text?_append, Tree.text?_eq_content hopened.isFile]
      simp [Record.joined_cons]
    rw [record_of_settled hsettled hkept hlog, shared, hlog]
    exact Event.receives_of_text? htext location

end Session

namespace Event

/-- What an event does: the files get the records that it delivers, unless it touches them from outside,
and the open log moves as it turns it. -/
structure Accounted (event : Event) : Prop where
  settled : event.after.Settled
  shared_eq : event.after.shared = Turn.apply event.turn? event.before.shared
  receives : ∀ location, event.touched? ≠ some location →
    event.before.tree.Receives event.after.tree location
      (recordsAt location (event.deliveries event.before.shared))

variable {session post : Session} {time : String} {step : Step} {result : Outcome}

/-- The log stays open, or stays closed. -/
theorem accounted_of_kept (hsettled : session.Settled)
    (hspared : ∀ place ∈ touched? ⟨session, time, step⟩, ¬ place.NamesLog)
    (hstep : session.step time step = (result, post)) (hlog : post.log = session.log)
    (hreceives : ∀ location, touched? ⟨session, time, step⟩ ≠ some location →
      session.tree.Receives post.tree location
        (recordsAt location (deliveries ⟨session, time, step⟩ session.shared))) :
    Accounted ⟨session, time, step⟩ := by
  rw [← after_eq hstep] at hlog hreceives
  refine ⟨?_, shared_after _, hreceives⟩
  intro opened hopened
  rw [hlog] at hopened
  have hbefore := hsettled opened hopened
  have huntouched : touched? ⟨session, time, step⟩ ≠ some opened.location := by
    intro htouched
    exact hspared _ htouched hbefore.namesLog
  exact ⟨hbefore.linked, (hreceives _ huntouched).isFile (Or.inl hbefore.isFile), hbefore.namesLog⟩

/-- Nothing is recorded, and what files hold changes at most where the event touches them. -/
theorem accounted_of_silent (hsettled : session.Settled)
    (hspared : ∀ place ∈ touched? ⟨session, time, step⟩, ¬ place.NamesLog)
    (hstep : session.step time step = (result, post))
    (hnone : deliveries ⟨session, time, step⟩ session.shared = []) (hlog : post.log = session.log)
    (htext : ∀ location, touched? ⟨session, time, step⟩ ≠ some location →
      post.tree.text? location = session.tree.text? location) : Accounted ⟨session, time, step⟩ := by
  refine accounted_of_kept hsettled hspared hstep hlog ?_
  intro location huntouched
  rw [hnone]
  exact .nothing (htext location huntouched)

/-- Files and log are left alone. -/
theorem accounted_of_idle (hsettled : session.Settled)
    (hspared : ∀ place ∈ touched? ⟨session, time, step⟩, ¬ place.NamesLog)
    (hstep : session.step time step = (result, post))
    (hnone : deliveries ⟨session, time, step⟩ session.shared = []) (htree : post.tree = session.tree)
    (hlog : post.log = session.log) : Accounted ⟨session, time, step⟩ := by
  refine accounted_of_silent hsettled hspared hstep hnone hlog ?_
  intro location _
  rw [htree]

/-- A record is made, which goes to the log if there is one. -/
theorem accounted_of_recorded {entry : Record} (hsettled : session.Settled) (hkept : rotationDue session = false)
    (hspared : ∀ place ∈ touched? ⟨session, time, step⟩, ¬ place.NamesLog)
    (hstep : session.step time step = (result, session.record entry))
    (hrecord : deliveries ⟨session, time, step⟩ session.shared = session.shared.toList.map (·, entry)) :
    Accounted ⟨session, time, step⟩ := by
  refine accounted_of_kept hsettled hspared hstep (Session.log_record hsettled hkept entry) ?_
  intro location _
  rw [hrecord]
  exact Session.receives_record hsettled hkept entry location

/-- The log is closed. -/
theorem accounted_of_ended (hstep : session.step time step = (result, post)) (hlog : post.log = none)
    (hreceives : ∀ location, session.tree.Receives post.tree location
      (recordsAt location (deliveries ⟨session, time, step⟩ session.shared))) :
    Accounted ⟨session, time, step⟩ := by
  rw [← after_eq hstep] at hlog hreceives
  exact ⟨Session.settled_of_closed hlog, shared_after _, fun location _ => hreceives location⟩

/-- A log is opened. -/
theorem accounted_of_opened {address : Address} (hstep : session.step time step = (result, post))
    (hnone : deliveries ⟨session, time, step⟩ session.shared = [])
    (hlog : post.log = some (session.startLog address)) (hnames : address.location.NamesLog)
    (htouch : session.tree.touchAt address = .ok post.tree) : Accounted ⟨session, time, step⟩ := by
  rw [← after_eq hstep] at hlog htouch
  refine ⟨?_, shared_after _, ?_⟩
  · intro opened hopened
    rw [hlog] at hopened
    cases hopened
    exact ⟨rfl, Tree.isFile_touchAt htouch, hnames⟩
  · intro location _
    rw [hnone]
    exact .touched htouch location

/-! ### Steps -/

theorem accounted_write {path text : String} (hsettled : session.Settled)
    (hspared : ∀ place ∈ touched? ⟨session, time, .write path text⟩, ¬ place.NamesLog) :
    Accounted ⟨session, time, .write path text⟩ := by
  rcases write_cases session time path text with ⟨refusal, hstep⟩ | ⟨tree, hstep, htext⟩
  · exact accounted_of_idle hsettled hspared hstep rfl rfl rfl
  · exact accounted_of_silent hsettled hspared hstep rfl rfl htext

theorem accounted_remove {path : String} (hsettled : session.Settled)
    (hspared : ∀ place ∈ touched? ⟨session, time, .remove path⟩, ¬ place.NamesLog) :
    Accounted ⟨session, time, .remove path⟩ := by
  rcases remove_cases session time path with ⟨refusal, hstep⟩ | ⟨place, tree, hstep, htouched, htext⟩
  · exact accounted_of_idle hsettled hspared hstep rfl rfl rfl
  · refine accounted_of_silent hsettled hspared hstep rfl ?_ htext
    cases hopen : session.log with
    | none => rfl
    | some opened =>
      -- The file of the log is another one, as its name tells.
      have hother : opened.location ≠ place := by
        intro heq
        exact hspared place htouched (heq ▸ (hsettled opened hopen).namesLog)
      simp [OpenLog.cut, hother]

theorem accounted_makeDirectory {path : String} (hsettled : session.Settled)
    (hspared : ∀ place ∈ touched? ⟨session, time, .makeDirectory path⟩, ¬ place.NamesLog) :
    Accounted ⟨session, time, .makeDirectory path⟩ := by
  rcases makeDirectory_cases session time path with ⟨refusal, hstep⟩ | ⟨tree, hstep, htext⟩
  · exact accounted_of_idle hsettled hspared hstep rfl rfl rfl
  · exact accounted_of_silent hsettled hspared hstep rfl rfl fun location _ => htext location

theorem accounted_openLogger {id path : String} : Accounted ⟨session, time, .openLogger id path⟩ := by
  rcases session.step_openLogger time id path with ⟨error, hstep⟩ | ⟨file, tree, hfile, htouch, hstep⟩
  · exact accounted_of_ended hstep rfl fun _ => .nothing rfl
  · exact accounted_of_opened hstep rfl rfl (Path.namesLog_resolve hfile session.directory) htouch

theorem accounted_decision {id scope : String} {allowed : Bool} (hsettled : session.Settled)
    (hspared : ∀ place ∈ touched? ⟨session, time, .decision id scope allowed⟩, ¬ place.NamesLog)
    (hunrotated : rotates ⟨session, time, .decision id scope allowed⟩ = false) :
    Accounted ⟨session, time, .decision id scope allowed⟩ := by
  cases hlogger : session.loggers.get? id with
  | none =>
    have hstep : session.step time (.decision id scope allowed) = (.unknownLogger id, session) := by
      simp [Session.step, Session.through, hlogger]
    have hnone : deliveries ⟨session, time, .decision id scope allowed⟩ session.shared = [] := by
      simp [deliveries, outcome_eq hstep]
    exact accounted_of_idle hsettled hspared hstep hnone rfl rfl
  | some path =>
    have hstep : session.step time (.decision id scope allowed) =
        (.done, session.record (.decision { time, scope, allowed })) := by
      simp [Session.step, Session.through, hlogger]
    have hrecord : deliveries ⟨session, time, .decision id scope allowed⟩ session.shared =
        session.shared.toList.map (·, .decision { time, scope, allowed }) := by
      simp [deliveries, outcome_eq hstep]
    have hkept : rotationDue session = false := by
      simpa [rotates, outcome_eq hstep] using hunrotated
    exact accounted_of_recorded hsettled hkept hspared hstep hrecord

theorem accounted_message {id text : String} {level : Level} (hsettled : session.Settled)
    (hspared : ∀ place ∈ touched? ⟨session, time, .message id level text⟩, ¬ place.NamesLog)
    (hunrotated : rotates ⟨session, time, .message id level text⟩ = false) :
    Accounted ⟨session, time, .message id level text⟩ := by
  cases hlogger : session.loggers.get? id with
  | none =>
    have hstep : session.step time (.message id level text) = (.unknownLogger id, session) := by
      simp [Session.step, Session.through, hlogger]
    have hnone : deliveries ⟨session, time, .message id level text⟩ session.shared = [] := by
      simp [deliveries, outcome_eq hstep]
    exact accounted_of_idle hsettled hspared hstep hnone rfl rfl
  | some path =>
    by_cases hdebug : level = .debug
    · subst hdebug
      have hstep : session.step time (.message id .debug text) = (.done, session) := by
        simp [Session.step, Session.through, hlogger, Level.isRecorded]
      have hnone : deliveries ⟨session, time, .message id .debug text⟩ session.shared = [] := by
        simp [deliveries]
      exact accounted_of_idle hsettled hspared hstep hnone rfl rfl
    · have hlevel : level.isRecorded = true := by
        cases level with
        | debug => exact absurd rfl hdebug
        | info => rfl
        | warning => rfl
        | error => rfl
      have hstep : session.step time (.message id level text) = (.done, session.record (.message text)) := by
        simp [Session.step, Session.through, hlogger, hlevel]
      have hrecord : deliveries ⟨session, time, .message id level text⟩ session.shared =
          session.shared.toList.map (·, .message text) := by
        simp [deliveries, outcome_eq hstep, hdebug]
      have hkept : rotationDue session = false := by
        simpa [rotates, outcome_eq hstep, hdebug] using hunrotated
      exact accounted_of_recorded hsettled hkept hspared hstep hrecord

theorem accounted_close {id : String} (hsettled : session.Settled)
    (hspared : ∀ place ∈ touched? ⟨session, time, .close id⟩, ¬ place.NamesLog) :
    Accounted ⟨session, time, .close id⟩ := by
  cases hlogger : session.loggers.get? id with
  | none =>
    have hstep : session.step time (.close id) = (.unknownLogger id, session) := by
      simp [Session.step, Session.through, hlogger]
    exact accounted_of_idle hsettled hspared hstep rfl rfl rfl
  | some path =>
    have hstep : session.step time (.close id) = (.done, session.closeLog) := by
      simp [Session.step, Session.through, hlogger]
    exact accounted_of_ended hstep rfl fun _ => .nothing rfl

/-- The end of a day changes no file and leaves the log where it is. -/
theorem accounted_midnight {day : CalendarDay} (hsettled : session.Settled) :
    Accounted ⟨session, time, .midnight day⟩ := by
  refine ⟨?_, shared_after _, fun _ _ => .nothing rfl⟩
  intro opened hopened
  obtain ⟨before, hbefore, rfl⟩ := Option.map_eq_some_iff.1 hopened
  obtain ⟨hlinked, hfile, hnames⟩ := hsettled before hbefore
  exact ⟨hlinked, hfile, hnames⟩

/-- A run of the command that starts no log of its own. -/
theorem accounted_of_unaudited {arguments : List String} (hsettled : session.Settled)
    (hspared : ∀ place ∈ touched? ⟨session, time, .command arguments⟩, ¬ place.NamesLog)
    (hstep : session.step time (.command arguments) = (result, post))
    (haudit : auditConfig? session arguments = none) (htree : post.tree = session.tree)
    (hlog : post.log = session.log) : Accounted ⟨session, time, .command arguments⟩ := by
  have hnone : deliveries ⟨session, time, .command arguments⟩ session.shared = [] := by
    simp only [deliveries, audits, haudit]
    split <;> rfl
  exact accounted_of_idle hsettled hspared hstep hnone htree hlog

theorem accounted_command {arguments : List String} (hsettled : session.Settled)
    (hspared : ∀ place ∈ touched? ⟨session, time, .command arguments⟩, ¬ place.NamesLog)
    (hunrotated : rotates ⟨session, time, .command arguments⟩ = false) :
    Accounted ⟨session, time, .command arguments⟩ := by
  have hcourse := CommandLine.run_course time arguments session
  generalize hrun : CommandLine.run time arguments session = run at hcourse
  have hstep := Session.step_command_eq hrun
  cases hcourse with
  | noArguments hnone =>
    have haudit : auditConfig? session arguments = none := by
      simp [auditConfig?, hnone]
    exact accounted_of_unaudited hsettled hspared hstep haudit rfl rfl
  | notLoaded error hsome hload =>
    have haudit : auditConfig? session arguments = none := by
      simp [auditConfig?, hload, Except.isOk, Except.toBool]
    exact accounted_of_unaudited hsettled hspared hstep haudit session.loadEnvironment_tree session.loadEnvironment_log
  | unaudited hsome hload hoff =>
    have haudit : auditConfig? session arguments = none := by
      simp [auditConfig?, hoff]
    exact accounted_of_unaudited hsettled hspared hstep haudit session.loadEnvironment_tree session.loadEnvironment_log
  | notOpened error hsome hload hon =>
    have hnone : deliveries ⟨session, time, .command arguments⟩ session.shared = [] := by
      simp [deliveries, outcome_eq hstep, Outcome.ofRun, CommandLine.Failure.atOnce]
    refine accounted_of_ended hstep rfl ?_
    intro location
    rw [hnone]
    refine .nothing ?_
    exact congrArg (·.text? location) session.loadEnvironment_tree
  | audited file opened hsome hload hon hfile htouch =>
    have hconfig := auditConfig?_of_audit hsome hload hon
    have hrecords : deliveries ⟨session, time, .command arguments⟩ session.shared =
        ((CommandLine.decisions session.loadEnvironment.2.config.checker time arguments).map Record.decision).map
          (file.resolve session.directory, ·) := by
      simp [deliveries, outcome_eq hstep, Outcome.ofRun, audits, hconfig, hfile]
    have hcurrent : session.tree.Current (file.address session.directory) := by
      simpa [rotates, outcome_eq hstep, Outcome.ofRun, hconfig, hfile, Except.toOption] using hunrotated
    obtain ⟨after, hall, htext, -⟩ := Session.addAll_startLog_of_current htouch hcurrent
      (CommandLine.texts (CommandLine.decisions session.loadEnvironment.2.config.checker time arguments))
    refine accounted_of_ended hstep rfl ?_
    intro location
    rw [hrecords, hall]
    exact receives_of_text? htext location

/-! ### Events and runs -/

theorem accounted (event : Event) (hsettled : event.before.Settled)
    (hspared : ∀ place ∈ event.touched?, ¬ place.NamesLog) (hunrotated : event.rotates = false) :
    event.Accounted := by
  obtain ⟨session, time, step⟩ := event
  cases step with
  | setVariable name value =>
    cases hset : session.environment.set name value with
    | error refusal =>
      have hstep : session.step time (.setVariable name value) = (.notSet refusal, session) := by
        simp [Session.step, Session.setVariable, Outcome.ofSetting, hset]
      exact accounted_of_idle hsettled hspared hstep rfl rfl rfl
    | ok environment =>
      have hstep : session.step time (.setVariable name value) = (.done, { session with environment }) := by
        simp [Session.step, Session.setVariable, Outcome.ofSetting, hset]
      exact accounted_of_idle hsettled hspared hstep rfl rfl rfl
  | unsetVariable name => exact accounted_of_idle hsettled hspared rfl rfl rfl rfl
  | write path text => exact accounted_write hsettled hspared
  | remove path => exact accounted_remove hsettled hspared
  | makeDirectory path => exact accounted_makeDirectory hsettled hspared
  | enter path =>
    cases henter : session.tree.enter session.directory path with
    | error refusal =>
      have hstep : session.step time (.enter path) = (.refused refusal, session) := by
        simp [Session.step, Session.enter, Outcome.ofChange, henter]
      exact accounted_of_idle hsettled hspared hstep rfl rfl rfl
    | ok directory =>
      have hstep : session.step time (.enter path) = (.done, { session with directory }) := by
        simp [Session.step, Session.enter, Outcome.ofChange, henter]
      exact accounted_of_idle hsettled hspared hstep rfl rfl rfl
  | configure =>
    have hstep := session.step_configure_eq time
    exact accounted_of_idle hsettled hspared hstep rfl session.loadEnvironment_tree session.loadEnvironment_log
  | command arguments => exact accounted_command hsettled hspared hunrotated
  | openLogger id path => exact accounted_openLogger
  | decision id scope allowed => exact accounted_decision hsettled hspared hunrotated
  | message id level text => exact accounted_message hsettled hspared hunrotated
  | close id => exact accounted_close hsettled hspared
  | midnight day => exact accounted_midnight hsettled

end Event

namespace Session

open Event

/-- The place of the open log is the target of what happened, and so every record of a run goes where it
belongs. The induction is on the steps that are left. -/
theorem receives_run {session : Session} {past : List Event} {location : Location} (steps : List (String × Step))
    (hsettled : session.Settled) (hshared : session.shared = target past)
    (hspared : ∀ event ∈ session.history steps, ∀ place ∈ event.touched?, ¬ place.NamesLog)
    (hunrotated : ∀ event ∈ session.history steps, event.rotates = false)
    (huntouched : ∀ event ∈ session.history steps, event.touched? ≠ some location) :
    session.tree.Receives (session.run steps).tree location
      (recordsAt location (routed past (session.history steps))) := by
  induction steps generalizing session past with
  | nil => exact .nothing rfl
  | cons timed steps ih =>
    obtain ⟨time, step⟩ := timed
    have hmem : ⟨session, time, step⟩ ∈ session.history ((time, step) :: steps) := List.mem_cons_self
    have haccounted := accounted ⟨session, time, step⟩ hsettled (hspared _ hmem) (hunrotated _ hmem)
    have hfirst := haccounted.receives location (huntouched _ hmem)
    have htarget : (after ⟨session, time, step⟩).shared = target (⟨session, time, step⟩ :: past) := by
      rw [haccounted.shared_eq, target_cons, ← hshared]
    have hrest := ih haccounted.settled htarget
      (fun event hevent => hspared event (List.mem_cons_of_mem _ hevent))
      (fun event hevent => hunrotated event (List.mem_cons_of_mem _ hevent))
      (fun event hevent => huntouched event (List.mem_cons_of_mem _ hevent))
    rw [history, routed, recordsAt_append, ← hshared]
    exact hfirst.trans hrest

/-- No record of a session is lost, duplicated, reordered or misfiled: a file that is not changed from
outside ends with what it held, followed by a text that is spelt by the records that belong to it, in order. Log files
are not changed from outside, and none is put aside because its day is over. -/
theorem run_delivers_routed {session : Session} {location : Location} (steps : List (String × Step))
    (hclosed : session.log = none)
    (hspared : ∀ event ∈ session.history steps, ∀ place ∈ event.touched?, ¬ place.NamesLog)
    (hunrotated : ∀ event ∈ session.history steps, event.rotates = false)
    (huntouched : ∀ event ∈ session.history steps, event.touched? ≠ some location) :
    (∃ added, Record.AllSpeltBy (recordsAt location (routed [] (session.history steps))) added ∧
        (session.run steps).tree.content location = session.tree.content location ++ added) ∧
      (session.tree.isFile location = true ∨ recordsAt location (routed [] (session.history steps)) ≠ [] →
        (session.run steps).tree.isFile location = true) := by
  have hshared : session.shared = target [] := by
    rw [shared, hclosed]
    rfl
  have hreceives := receives_run steps (settled_of_closed hclosed) hshared hspared hunrotated huntouched
  exact ⟨⟨_, Record.allSpeltBy_joined _, hreceives.content_eq⟩, hreceives.isFile⟩

/-- Two loggers on one file, spelt in two ways, and a run of the command that audits to the same file. -/
def twoLoggers : List (String × Step) :=
  [("1", .openLogger "first" "audit.log"), ("2", .decision "first" "a.b" true), ("3", .makeDirectory "logs"),
    ("4", .enter "logs"), ("5", .openLogger "second" "../audit"), ("6", .message "first" .info "shared"),
    ("7", .write "notes.txt" "other"), ("8", .setVariable Config.auditVariable "true"),
    ("9", .setVariable Config.logPathVariable "../audit.log"), ("10", .command ["c.d"]),
    ("11", .decision "second" "e.f" false)]

theorem twoLoggers_delivered :
    (∀ event ∈ ({} : Session).history twoLoggers, ∀ place ∈ event.touched?, ¬ place.NamesLog) ∧
      (∀ event ∈ ({} : Session).history twoLoggers, event.rotates = false) ∧
      (∀ event ∈ ({} : Session).history twoLoggers, event.touched? ≠ some ["audit.jsonl"]) ∧
      ∃ added, Record.AllSpeltBy
          [.decision ⟨"2", "a.b", true⟩, .message "shared", .decision ⟨"10", "c.d", false⟩] added ∧
        (({} : Session).run twoLoggers).tree.content ["audit.jsonl"] = "" ++ added := by
  have hspared : ∀ event ∈ ({} : Session).history twoLoggers, ∀ place ∈ event.touched?, ¬ place.NamesLog := by
    decide +kernel
  have hunrotated : ∀ event ∈ ({} : Session).history twoLoggers, event.rotates = false := by
    decide +kernel
  have huntouched : ∀ event ∈ ({} : Session).history twoLoggers, event.touched? ≠ some ["audit.jsonl"] := by
    decide +kernel
  have hrecords : recordsAt ["audit.jsonl"] (routed [] (({} : Session).history twoLoggers)) =
      [.decision ⟨"2", "a.b", true⟩, .message "shared", .decision ⟨"10", "c.d", false⟩] := by
    decide +kernel
  refine ⟨hspared, hunrotated, huntouched, ?_⟩
  rw [← hrecords]
  exact (run_delivers_routed twoLoggers rfl hspared hunrotated huntouched).1

end Session

end AccessScopes
