import AccessScopes.Proofs.CommandLine.Agreement
import AccessScopes.Proofs.Session.LifeCycle
import AccessScopes.Proofs.Session.Reloading

/-!
# Splitting a run of the command

Where loading changes nothing, a run over two lists of arguments may be split into a run over the one and a
run over the other. The second run loads the same settings, because no log is named like an environment
file, and it finds its log where the first one left it, because the command makes and removes no directory.
So it goes the way of the first: it shows the rest of the lines, adds the rest of the records behind those
of the first, or fails as the first did.
-/

namespace AccessScopes

open Files

/-! ### Up to times -/

/-- The decisions differ in their times at most. -/
def Decision.SameButTime (decision other : Decision) : Prop :=
  other.scope = decision.scope ∧ other.allowed = decision.allowed

/-- The texts differ at most in the times of decisions recorded at their ends. -/
def SameButTimes (text other : String) : Prop :=
  ∃ before decisions others, text = before ++ Decision.log decisions ∧ other = before ++ Decision.log others ∧
    List.Forall₂ Decision.SameButTime decisions others

theorem SameButTimes.refl (text : String) : SameButTimes text text :=
  ⟨text, [], [], by simp [Decision.log], by simp [Decision.log], .nil⟩

theorem rel_sameButTimes_refl (text? : Option String) : Option.Rel SameButTimes text? text? := by
  cases text? with
  | none => exact .none
  | some text => exact .some (SameButTimes.refl text)

theorem Decision.log_append (decisions others : List Decision) : log (decisions ++ others) = log decisions ++ log others := by
  rw [log, log, log, List.map_append, Record.joined_append]

namespace CommandLine

/-- If a run from the session is audited, the file of its log need not be put aside. -/
def WithinDay (session : Session) : Prop :=
  (foundConfig session).audit = true → ∀ address,
    Targets (foundConfig session).logPath session.directory address → session.tree.Current address

/-- Two runs, one after the other, come to what one run from the session comes to. Each is given by what it returns
and the session it leaves. -/
structure Divides (session : Session) (whole first second : Except Crash Report × Session) : Prop where
  reported : ∀ report, whole.1 = .ok report → ∃ one two, first.1 = .ok one ∧ second.1 = .ok two ∧
    report.output = one.output ++ two.output ∧ report.errors = one.errors ++ two.errors ∧
    report.exitCode = max one.exitCode two.exitCode
  failed : ∀ crash, whole.1 = .error crash → first = whole ∧ second = whole
  left : second.2 = { whole.2 with tree := second.2.tree }
  texts : WithinDay session →
    ∀ place, Option.Rel SameButTimes (whole.2.tree.text? place) (second.2.tree.text? place)

/-- Runs from the sessions load the same settings and find the same directories. -/
structure SameStart (session other : Session) : Prop where
  environment_eq : other.environment = session.environment
  directory_eq : other.directory = session.directory
  text_eq : ∀ place,
    other.tree.text? (place ++ [Session.envFileName]) = session.tree.text? (place ++ [Session.envFileName])
  isDirectory_eq : ∀ place, other.tree.isDirectory place = session.tree.isDirectory place

theorem SameStart.refl (session : Session) : SameStart session session :=
  ⟨rfl, rfl, fun _ => rfl, fun _ => rfl⟩

variable {session other : Session} {time : String} {arguments more : List String}

/-! ### Reports and decisions -/

theorem output_append (checker : Checker) (arguments more : List String) :
    (report checker (arguments ++ more)).output = (report checker arguments).output ++ (report checker more).output := by
  simp only [report, List.map_append, String.join_append]

theorem exitCode_append (checker : Checker) (arguments more : List String) :
    (report checker (arguments ++ more)).exitCode =
      max (report checker arguments).exitCode (report checker more).exitCode := by
  simp only [report, List.all_append]
  cases arguments.all checker.can <;> cases more.all checker.can <;> decide

theorem decisions_append (checker : Checker) (time : String) (arguments more : List String) :
    decisions checker time (arguments ++ more) = decisions checker time arguments ++ decisions checker time more := by
  rw [decisions, decisions, decisions, List.map_append]

theorem forall₂_decisions (checker : Checker) (time other : String) (arguments : List String) :
    List.Forall₂ Decision.SameButTime (decisions checker time arguments) (decisions checker other arguments) := by
  rw [decisions, decisions, List.forall₂_map_left_iff, List.forall₂_map_right_iff]
  exact List.forall₂_same.2 fun scope _ => ⟨rfl, rfl⟩

/-! ### Ways to go -/

theorem run_of_load_error {error : LoadError} (hsome : arguments ≠ [])
    (hload : session.loadEnvironment.1 = .error error) :
    run time arguments session = (.error (Failure.notLoaded error).atOnce, session.loadEnvironment.2) := by
  have hpair : session.loadEnvironment = (.error error, session.loadEnvironment.2) := Prod.ext hload rfl
  rw [run, List.isEmpty_eq_false_iff.2 hsome, if_neg Bool.false_ne_true, hpair]

theorem run_of_load_ok (hsome : arguments ≠ []) (hload : session.loadEnvironment.1 = .ok ()) :
    run time arguments session = judge time arguments session.loadEnvironment.2 := by
  have hpair : session.loadEnvironment = (.ok (), session.loadEnvironment.2) := Prod.ext hload rfl
  rw [run, List.isEmpty_eq_false_iff.2 hsome, if_neg Bool.false_ne_true, hpair]

theorem run_of_ok (hsome : arguments ≠ []) (hload : session.loadEnvironment = (.ok (), session)) :
    run time arguments session = judge time arguments session := by
  rw [run_of_load_ok hsome (congrArg Prod.fst hload), hload]

theorem run_of_notLoaded {error : LoadError} (hsome : arguments ≠ [])
    (hload : session.loadEnvironment = (.error error, session)) :
    run time arguments session = (.error (Failure.notLoaded error).atOnce, session) := by
  rw [run_of_load_error hsome (congrArg Prod.fst hload), hload]

theorem judge_of_unaudited (haudit : session.config.audit = false) :
    judge time arguments session = (.ok (report session.config.checker arguments), session) := by
  rw [judge, haudit]
  rfl

theorem judge_of_notOpened {error : OpenError} (haudit : session.config.audit = true)
    (hopen : session.openLog session.config.logPath = (.error error, session.closeLog)) :
    judge time arguments session = (.error (Failure.notOpened error).atOnce, session.closeLog) := by
  rw [judge, haudit, hopen]
  rfl

/-! ### Two runs in a row -/

theorem Divides.of_failed (crash : Crash) (after : Session) :
    Divides session (.error crash, after) (.error crash, after) (.error crash, after) where
  reported report hreport := by cases hreport
  failed other hother := by
    cases hother
    exact ⟨rfl, rfl⟩
  left := rfl
  texts _ _ := rel_sameButTimes_refl _

theorem Divides.of_reports {whole one two : Session} (checker : Checker) (arguments more : List String)
    (hleft : two = { whole with tree := two.tree })
    (htexts : WithinDay session → ∀ place, Option.Rel SameButTimes (whole.tree.text? place) (two.tree.text? place)) :
    Divides session (.ok (report checker (arguments ++ more)), whole) (.ok (report checker arguments), one)
      (.ok (report checker more), two) where
  reported other hother := by
    cases hother
    exact ⟨_, _, rfl, rfl, output_append checker arguments more, rfl, exitCode_append checker arguments more⟩
  failed crash hcrash := by cases hcrash
  left := hleft
  texts := htexts

/-- Decisions that are recorded in two goes stand behind each other as if recorded in one. -/
theorem sameButTimes_log_append (before : String) (checker : Checker) (time first second : String)
    (arguments more : List String) :
    SameButTimes (before ++ Decision.log (decisions checker time (arguments ++ more)))
      (before ++ Decision.log (decisions checker first arguments) ++ Decision.log (decisions checker second more)) := by
  refine ⟨before, _, decisions checker first arguments ++ decisions checker second more, rfl, ?_, ?_⟩
  · rw [Decision.log_append, String.append_assoc]
  · rw [decisions_append]
    exact List.rel_append (forall₂_decisions checker time first arguments) (forall₂_decisions checker time second more)

theorem SameStart.loadEnvironment_eq (hstart : SameStart session other) {result : Except LoadError Unit}
    (hload : session.loadEnvironment = (result, session)) : other.loadEnvironment = (result, other) := by
  have hunchanged : session.loadEnvironment.2 = session := congrArg Prod.snd hload
  have hreload := Session.loadEnvironment_of_unchanged hunchanged hstart.environment_eq hstart.directory_eq
    hstart.text_eq
  rw [hload] at hreload
  exact hreload

theorem SameStart.config_eq (hstart : SameStart session other) : other.config = session.config := by
  rw [Session.config, Session.config, hstart.environment_eq]

/-- A log that can be opened can be opened again from the same start, and the run records its decisions
there. Within the day of its file it puts them behind what is there, and the file was then written today. -/
theorem SameStart.run_recorded (hstart : SameStart session other) {file : Path} {tree : Tree}
    (hload : session.loadEnvironment = (.ok (), session)) (haudit : session.config.audit = true)
    (hfile : (Path.parse session.config.logPath).logFile = .ok file)
    (htouch : session.tree.touchAt (file.address session.directory) = .ok tree) (hsome : arguments ≠ [])
    (time : String) :
    ∃ recorded : Tree,
      run time arguments other =
        (.ok (report session.config.checker arguments), { other with tree := recorded, log := none }) ∧
      SameStart session { other with tree := recorded, log := none } ∧
      (other.tree.Current (file.address session.directory) →
        recorded.Current (file.address session.directory) ∧ ∀ place, recorded.text? place =
          if place = file.resolve session.directory then
            some (other.tree.content (file.resolve session.directory) ++
              Decision.log (decisions session.config.checker time arguments))
          else other.tree.text? place) := by
  obtain ⟨htolerated, hheld, hfree, -⟩ := Tree.touchAt_iff.1 htouch
  rw [← hstart.isDirectory_eq] at hheld hfree
  have hagain := Tree.touchAt_iff.2 ⟨htolerated, hheld, hfree, rfl⟩
  rw [← hstart.directory_eq] at hagain ⊢
  rw [← hstart.config_eq] at haudit hfile ⊢
  have hspares := Session.spares_addAll_startLog hagain (texts (decisions other.config.checker time arguments))
  have hnames : (file.address other.directory).location.NamesLog := Path.namesLog_resolve hfile other.directory
  have hrun : run time arguments other = judge time arguments other := run_of_ok hsome (hstart.loadEnvironment_eq hload)
  rw [judge_of_opened haudit hfile hagain] at hrun
  refine ⟨_, hrun, ⟨hstart.environment_eq, hstart.directory_eq, ?_, ?_⟩, ?_⟩
  · intro place
    exact (Session.text?_envFile hspares hnames place).trans (hstart.text_eq place)
  · intro place
    exact (hspares.isDirectory_eq place).trans (hstart.isDirectory_eq place)
  · intro hcurrent
    obtain ⟨recorded, hall, htext, hlast⟩ := Session.addAll_startLog_of_current hagain hcurrent
      (texts (decisions other.config.checker time arguments))
    rw [hall]
    exact ⟨Tree.current_of_lastDay? (hlast (texts_ne_nil hsome _ time)), htext⟩

theorem divides_of_opened {file : Path} {tree : Tree} (hload : session.loadEnvironment = (.ok (), session))
    (haudit : session.config.audit = true) (hfile : (Path.parse session.config.logPath).logFile = .ok file)
    (htouch : session.tree.touchAt (file.address session.directory) = .ok tree) (hsome : arguments ≠ [])
    (hmore : more ≠ []) (time first second : String) :
    Divides session (run time (arguments ++ more) session) (run first arguments session)
      (run second more (run first arguments session).2) := by
  have hstart := SameStart.refl session
  have hall := List.append_ne_nil_of_left_ne_nil hsome more
  obtain ⟨whole, hwhole, -, hwholeText⟩ := hstart.run_recorded hload haudit hfile htouch hall time
  obtain ⟨one, hone, hbetween, honeText⟩ := hstart.run_recorded hload haudit hfile htouch hsome first
  obtain ⟨two, htwo, -, htwoText⟩ := hbetween.run_recorded hload haudit hfile htouch hmore second
  rw [hwhole, hone]
  dsimp only
  rw [htwo]
  apply Divides.of_reports
  · rfl
  · intro hwithin place
    have hcurrent : session.tree.Current (file.address session.directory) := by
      rw [WithinDay, foundConfig, hload] at hwithin
      exact hwithin haudit _ (targets_address hfile session.directory)
    obtain ⟨hstill, hone⟩ := honeText hcurrent
    obtain ⟨-, hwhole⟩ := hwholeText hcurrent
    obtain ⟨-, htwo⟩ := htwoText hstill
    show Option.Rel SameButTimes (whole.text? place) (two.text? place)
    rw [hwhole, htwo]
    by_cases hplace : place = file.resolve session.directory
    · have hcontent : one.content (file.resolve session.directory) =
          session.tree.content (file.resolve session.directory) ++
            Decision.log (decisions session.config.checker first arguments) := by
        rw [Tree.content, hone, if_pos rfl]
        rfl
      rw [if_pos hplace, if_pos hplace, hcontent]
      exact .some (sameButTimes_log_append _ _ _ _ _ _ _)
    · rw [if_neg hplace, if_neg hplace, hone, if_neg hplace]
      exact rel_sameButTimes_refl _

theorem divides_of_notOpened {error : OpenError} (hload : session.loadEnvironment = (.ok (), session))
    (haudit : session.config.audit = true)
    (hopen : session.openLog session.config.logPath = (.error error, session.closeLog)) (hsome : arguments ≠ [])
    (hmore : more ≠ []) (time first second : String) :
    Divides session (run time (arguments ++ more) session) (run first arguments session)
      (run second more (run first arguments session).2) := by
  have hstart : SameStart session session.closeLog := ⟨rfl, rfl, fun _ => rfl, fun _ => rfl⟩
  have hreload := hstart.loadEnvironment_eq hload
  have hall := List.append_ne_nil_of_left_ne_nil hsome more
  have hagain : session.closeLog.openLog session.closeLog.config.logPath = (.error error, session.closeLog.closeLog) :=
    hopen
  have hstill : session.closeLog.config.audit = true := haudit
  rw [run_of_ok hall hload, run_of_ok hsome hload, judge_of_notOpened haudit hopen, judge_of_notOpened haudit hopen]
  dsimp only
  rw [run_of_ok hmore hreload, judge_of_notOpened hstill hagain]
  exact Divides.of_failed (Failure.notOpened error).atOnce session.closeLog

/-- From a session in which loading leaves every variable as it is, two runs of the command in a row come to
what one run over both lists of arguments comes to. Only what files hold may differ, and only if the file of the log is
put aside because its day is over. -/
theorem run_append_divides (session : Session)
    (hunchanged : session.loadEnvironment.2.environment.SameValues session.environment)
    (arguments more : List String) (hsome : arguments ≠ []) (hmore : more ≠ []) (time first second : String) :
    Divides session (run time (arguments ++ more) session) (run first arguments session)
      (run second more (run first arguments session).2) := by
  have hall := List.append_ne_nil_of_left_ne_nil hsome more
  have hleft := Session.loadEnvironment_of_sameValues hunchanged
  cases hresult : session.loadEnvironment.1 with
  | error error =>
    have hload : session.loadEnvironment = (.error error, session) := Prod.ext hresult hleft
    rw [run_of_notLoaded hall hload, run_of_notLoaded hsome hload, run_of_notLoaded hmore hload]
    exact Divides.of_failed (Failure.notLoaded error).atOnce session
  | ok _ =>
    have hload : session.loadEnvironment = (.ok (), session) := Prod.ext hresult hleft
    cases haudit : session.config.audit with
    | false =>
      rw [run_of_ok hall hload, run_of_ok hsome hload, judge_of_unaudited haudit, judge_of_unaudited haudit]
      dsimp only
      rw [run_of_ok hmore hload, judge_of_unaudited haudit]
      exact Divides.of_reports _ arguments more rfl fun _ place => rel_sameButTimes_refl _
    | true =>
      have hopening := session.openLog_opening session.config.logPath
      generalize hopen : session.openLog session.config.logPath = opening at hopening
      cases hopening with
      | refused error => exact divides_of_notOpened hload haudit hopen hsome hmore time first second
      | opened file tree hfile htouch => exact divides_of_opened hload haudit hfile htouch hsome hmore time first second

/-- A session whose environment file says what is set already, with a log from before and another one open. -/
def settled : Session where
  environment := .ofList [(Config.grantsVariable, "user/orders.r"), (Config.auditVariable, "true"),
    (Config.logPathVariable, "logs/audit.log")]
  tree := { nodes := .ofList [(["work"], .directory), (["work", "logs"], .directory),
    (["work", ".env"], .file "GATELOCK_AUDIT_ENABLED=true\n"), (["work", "logs", "audit.jsonl"], .file "before\n")] }
  directory := ["work"]
  log := some { location := ["work", "other.jsonl"] }

theorem withinDay_settled : WithinDay settled := by
  intro _ address htargets
  obtain ⟨file, hfile, rfl⟩ := targets_iff.1 htargets
  have hlog : (Path.parse (foundConfig settled).logPath).logFile = .ok (.parse "logs/audit.jsonl") := by decide +kernel
  cases hlog.symm.trans hfile
  decide +kernel

theorem settled_divides :
    (run "1" ["user/orders.d", "user/orders.r"] settled).1.isOk = true ∧ WithinDay settled ∧
      Divides settled (run "1" (["user/orders.d"] ++ ["user/orders.r"]) settled) (run "2" ["user/orders.d"] settled)
        (run "3" ["user/orders.r"] (run "2" ["user/orders.d"] settled).2) := by
  have hequal : settled.loadEnvironment.2.environment = settled.environment := by decide +kernel
  have hunchanged : settled.loadEnvironment.2.environment.SameValues settled.environment := by
    rw [hequal]
    exact fun _ => rfl
  exact ⟨by decide +kernel, withinDay_settled, run_append_divides settled hunchanged ["user/orders.d"]
    ["user/orders.r"] (by decide) (by decide) "1" "2" "3"⟩

end CommandLine

end AccessScopes
