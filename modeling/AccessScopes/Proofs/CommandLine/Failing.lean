import AccessScopes.Proofs.CommandLine.Splitting
import AccessScopes.Proofs.Files.Obstacles

/-!
# Runs that fail

A run ends without a verdict in two places. The environment cannot be loaded, or auditing is on and the log
cannot be opened. Both come before anything is judged, so such a run shows nothing and changes no file; in the
second place it also takes off the handler that was there. What the arguments, the grants and the allow-lists say
is no reason to fail. A run that does not fail shows its verdicts, and it has recorded them if auditing is on.
-/

namespace AccessScopes

open Files

namespace Session

variable {session : Session}

/-! ### Loading -/

/-- A path can name the working directory, and the environment can hold every value that the nearest environment
file leaves. -/
structure Loadable (session : Session) : Prop where
  named : session.directory.Nameable
  held : ∀ place text, session.Finds place text → ∀ name value,
    EnvFile.Leaves session.environment (EnvFile.bindings text) name value → Environment.problem? name value = none

theorem loadEnvironment_eq_ok_iff : session.loadEnvironment.1 = .ok () ↔ session.Loadable := by
  rw [(loadEnvironment_followsNearest session).ok_iff]
  constructor
  · intro h
    exact ⟨h.1, h.2⟩
  · intro hloadable
    exact ⟨hloadable.named, hloadable.held⟩

/-! ### Opening the log -/

/-- Why no log can be opened by a text: it has no component, or something stands in the way of the file that it asks
for. -/
inductive Unopenable (tree : Tree) (directory : Location) (text : String) : OpenError → Prop
  | unnamed (hempty : ¬ Path.HasComponent text) : Unopenable tree directory text (.emptyName { path := .parse text })
  | blocked (address : Address) (refusal : Refusal) (htargets : Targets text directory address)
      (hobstacle : tree.Obstacle address refusal) : Unopenable tree directory text (.refused refusal)

theorem openLog_of_emptyName {text : String} {error : EmptyName} (hfile : (Path.parse text).logFile = .error error) :
    session.openLog text = (.error (.emptyName error), session.closeLog) := by
  rw [openLog, hfile]

theorem openLog_of_refused {text : String} {file : Path} {refusal : Refusal}
    (hfile : (Path.parse text).logFile = .ok file)
    (htouch : session.tree.touchAt (file.address session.directory) = .error refusal) :
    session.openLog text = (.error (.refused refusal), session.closeLog) := by
  rw [openLog, hfile]
  dsimp only
  rw [htouch]

/-- Opening the log fails exactly if the log is unopenable, and then no log is open. -/
theorem openLog_eq_error_iff {text : String} {error : OpenError} {after : Session} :
    session.openLog text = (.error error, after) ↔
      Unopenable session.tree session.directory text error ∧ after = session.closeLog := by
  constructor
  · intro hopen
    cases hfile : (Path.parse text).logFile with
    | error empty =>
      rw [openLog_of_emptyName hfile] at hopen
      cases hopen
      obtain ⟨hempty, rfl⟩ := Path.logFile_eq_error_iff.1 hfile
      exact ⟨.unnamed fun hcomponent => Path.components_parse_ne_nil_iff.2 hcomponent hempty, rfl⟩
    | ok file =>
      cases htouch : session.tree.touchAt (file.address session.directory) with
      | error refusal =>
        rw [openLog_of_refused hfile htouch] at hopen
        cases hopen
        have htargets := targets_address hfile session.directory
        exact ⟨.blocked _ refusal htargets (Tree.touchAt_eq_error_iff.1 htouch), rfl⟩
      | ok tree =>
        rw [openLog_of_touchAt hfile htouch] at hopen
        cases hopen
  · intro h
    obtain ⟨hunopenable, rfl⟩ := h
    cases hunopenable with
    | unnamed hempty =>
      rw [← Path.components_parse_ne_nil_iff, not_not] at hempty
      exact openLog_of_emptyName (Path.logFile_eq_error_iff.2 ⟨hempty, rfl⟩)
    | blocked address refusal htargets hobstacle =>
      obtain ⟨file, hfile, rfl⟩ := targets_iff.1 htargets
      exact openLog_of_refused hfile hobstacle.touchAt_eq

end Session

namespace CommandLine

/-- The ways a run can fail, with what it has shown by then and the session that it leaves. -/
inductive Fails (session : Session) : Crash → Session → Prop
  | notLoaded (error : LoadError) (hload : session.loadEnvironment.1 = .error error) :
      Fails session { failure := .notLoaded error, output := "", errors := "" }
        { session with environment := session.loadEnvironment.2.environment }
  | notOpened (error : OpenError) (hload : session.loadEnvironment.1 = .ok ())
      (haudit : (foundConfig session).audit = true)
      (hunopenable : Session.Unopenable session.tree session.directory (foundConfig session).logPath error) :
      Fails session { failure := .notOpened error, output := "", errors := "" }
        { session with environment := session.loadEnvironment.2.environment, log := none }

/-- Every verdict on the arguments is shown, and if auditing is on then every one of them is recorded. -/
structure Accounted (time : String) (arguments : List String) (session : Session) (report : Report) (after : Session) :
    Prop where
  output_eq : report.output = .join ((decisions (foundConfig session).checker time arguments).map shown)
  recorded : (foundConfig session).audit = false ∨ ∃ address added,
    Targets (foundConfig session).logPath session.directory address ∧
      Recorded (decisions (foundConfig session).checker time arguments) address added session.tree after.tree

variable {session after : Session} {time : String} {arguments : List String}

/-! ### Failures -/

theorem Fails.run_eq {crash : Crash} (hsome : arguments ≠ []) (hfails : Fails session crash after)
    (time : String) : run time arguments session = (.error crash, after) := by
  cases hfails with
  | notLoaded error hload =>
    rw [run_of_load_error hsome hload, Session.loadEnvironment_eq]
    rfl
  | notOpened error hload haudit hunopenable =>
    rw [← session.loadEnvironment_tree, ← session.loadEnvironment_directory] at hunopenable
    have hopen := Session.openLog_eq_error_iff.2 ⟨hunopenable, rfl⟩
    rw [run_of_load_ok hsome hload, judge_of_notOpened haudit hopen, Session.closeLog, Session.loadEnvironment_eq]
    rfl

theorem fails_or_accounted (hsome : arguments ≠ []) (time : String) (session : Session) :
    (∃ crash after, run time arguments session = (.error crash, after) ∧ Fails session crash after) ∨
      ∃ report after, run time arguments session = (.ok report, after) ∧
        Accounted time arguments session report after := by
  cases hload : session.loadEnvironment.1 with
  | error error =>
    have hfails := Fails.notLoaded error hload
    exact Or.inl ⟨_, _, hfails.run_eq hsome time, hfails⟩
  | ok _ =>
    cases haudit : (foundConfig session).audit with
    | false =>
      rw [run_of_load_ok hsome hload]
      refine Or.inr ⟨_, _, judge_of_unaudited haudit, ?_, Or.inl haudit⟩
      exact output_report _ time arguments
    | true =>
      have hopening := session.loadEnvironment.2.openLog_opening (foundConfig session).logPath
      generalize hopen : session.loadEnvironment.2.openLog (foundConfig session).logPath = opening at hopening
      cases hopening with
      | refused error =>
        obtain ⟨hunopenable, -⟩ := Session.openLog_eq_error_iff.1 hopen
        rw [session.loadEnvironment_tree, session.loadEnvironment_directory] at hunopenable
        have hfails := Fails.notOpened error hload haudit hunopenable
        exact Or.inl ⟨_, _, hfails.run_eq hsome time, hfails⟩
      | opened file tree hfile htouch =>
        have htexts := texts_ne_nil hsome (foundConfig session).checker time
        have hrecorded := recorded_addAll htouch htexts
        rw [session.loadEnvironment_tree, session.loadEnvironment_directory] at hrecorded
        rw [run_of_load_ok hsome hload, judge_of_opened haudit hfile htouch, session.loadEnvironment_directory]
        refine Or.inr ⟨_, _, rfl, output_report _ time arguments, Or.inr ⟨_, _, ?_, hrecorded⟩⟩
        exact targets_address hfile session.directory

/-- A run over some arguments fails exactly if the environment cannot be loaded or the log of an audited run cannot be
opened, and what it leaves is told by the failure. If it does not fail, then all verdicts are shown, and recorded
unless auditing is off. -/
theorem run_fails_exactly_or_accounts (time : String) (session : Session) (arguments : List String)
    (hsome : arguments ≠ []) :
    (∀ crash after, run time arguments session = (.error crash, after) ↔ Fails session crash after) ∧
      (∀ report after, run time arguments session = (.ok report, after) →
        Accounted time arguments session report after) ∧
      (session.loadEnvironment.1 = .ok () ↔ session.Loadable) := by
  refine ⟨?_, ?_, Session.loadEnvironment_eq_ok_iff⟩
  · intro crash after
    constructor
    · intro hrun
      rcases fails_or_accounted hsome time session with ⟨_, _, hfailed, hfails⟩ | ⟨_, _, hreported, -⟩
      · cases hfailed.symm.trans hrun
        exact hfails
      · cases hreported.symm.trans hrun
    · intro hfails
      exact hfails.run_eq hsome time
  · intro report after hrun
    rcases fails_or_accounted hsome time session with ⟨_, _, hfailed, -⟩ | ⟨_, _, hreported, haccounted⟩
    · cases hfailed.symm.trans hrun
    · cases hreported.symm.trans hrun
      exact haccounted

/-- An audited session with an empty log path, a log from before and another one open. -/
def pathless : Session where
  environment := .ofList [(Config.grantsVariable, "user/orders.r"), (Config.auditVariable, "true"),
    (Config.logPathVariable, "")]
  tree := { nodes := .ofList [(["work"], .directory), (["work", "gatelock.jsonl"], .file "before\n")] }
  directory := ["work"]
  log := some { location := ["work", "gatelock.jsonl"] }

theorem pathless_fails :
    (["user/orders.r"] : List String) ≠ [] ∧ (foundConfig pathless).checker.can "user/orders.r" = true ∧
      run "1" ["user/orders.r"] pathless =
        (.error { failure := .notOpened (.emptyName { path := Path.parse "" }), output := "", errors := "" },
          { pathless with log := none }) := by
  have hload : pathless.loadEnvironment.1 = .ok () := by decide +kernel
  have haudit : (foundConfig pathless).audit = true := by decide +kernel
  have hpath : (foundConfig pathless).logPath = "" := by decide +kernel
  have henvironment : pathless.loadEnvironment.2.environment = pathless.environment := by decide +kernel
  have hunopenable : Session.Unopenable pathless.tree pathless.directory (foundConfig pathless).logPath
      (.emptyName { path := Path.parse "" }) := by
    rw [hpath]
    refine .unnamed ?_
    rw [← Path.components_parse_ne_nil_iff, not_not]
    decide +kernel
  have hfails := Fails.notOpened _ hload haudit hunopenable
  rw [henvironment] at hfails
  refine ⟨by decide, by decide +kernel, ?_⟩
  exact ((run_fails_exactly_or_accounts "1" pathless ["user/orders.r"] (by decide)).1 _ _).2 hfails

/-! ### Logs with long names -/

/-- The address of a log in the root whose name has the given length in front of its suffix. -/
def longLog (length : Nat) : Address where
  location := [Session.longName length ++ ".jsonl"]

/-- A session that audits to such a log. -/
def longNamed (length : Nat) (tree : Tree) : Session where
  environment := .ofList [(Config.auditVariable, "true"), (Config.logPathVariable, Session.longName length)]
  tree

variable {length : Nat} {tree : Tree}

theorem loadEnvironment_longNamed (hnone : tree.text? [Session.envFileName] = none) :
    (longNamed length tree).loadEnvironment = (.ok (), longNamed length tree) := by
  have hroot : Location.Nameable [] := by decide
  refine Session.loadEnvironment_of_none hroot (Tree.nearest?_eq_none_iff.2 ?_)
  intro place text hnearest
  have htext := hnearest.text_eq
  rw [List.prefix_nil.1 hnearest.upwards] at htext
  cases htext.symm.trans hnone

theorem config_longNamed : (longNamed length tree).config.audit = true ∧
    (longNamed length tree).config.logPath = Session.longName length := by
  have hother : Config.auditVariable ≠ Config.logPathVariable := by decide
  have haudit : (longNamed length tree).environment.get? Config.auditVariable = some "true" := by
    rw [longNamed, Table.ofList, Table.insertAll, List.foldl_cons, List.foldl_cons, List.foldl_nil, Table.get?_insert,
      if_neg hother, Table.get?_insert, if_pos rfl]
  have hpath : (longNamed length tree).environment.get? Config.logPathVariable = some (Session.longName length) := by
    rw [longNamed, Table.ofList, Table.insertAll, List.foldl_cons, List.foldl_cons, List.foldl_nil, Table.get?_insert,
      if_pos rfl]
  rw [Session.config, Config.ofEnvironment]
  dsimp only
  rw [haudit, hpath]
  exact ⟨by decide +kernel, rfl⟩

theorem foundConfig_longNamed (hnone : tree.text? [Session.envFileName] = none) :
    foundConfig (longNamed length tree) = (longNamed length tree).config := by
  rw [foundConfig, loadEnvironment_longNamed hnone, Session.config]

theorem not_mem_longName {c : Char} (hc : c ≠ 'k') (length : Nat) : c ∉ (Session.longName length).toList := by
  rw [Session.longName, String.toList_ofList]
  exact fun hmem => hc (List.eq_of_mem_replicate hmem)

theorem logFile_longName (hlength : 0 < length) : ∃ file,
    (Path.parse (Session.longName length)).logFile = .ok file ∧ file.address [] = longLog length := by
  obtain ⟨length, rfl⟩ := Nat.exists_eq_add_one_of_ne_zero hlength.ne'
  have hlist : (Session.longName (length + 1)).toList = 'k' :: List.replicate length 'k' := by
    rw [Session.longName, String.toList_ofList, List.replicate_succ]
  have hcomponents : (Path.parse (Session.longName (length + 1))).components = [Session.longName (length + 1)] := by
    apply Path.components_parse_of_name
    · exact not_mem_longName (by decide) (length + 1)
    · simp [hlist]
    · simp [hlist]
  have hanchor : (Path.parse (Session.longName (length + 1))).anchor = .relative := by
    rw [Path.parse, Anchor.ofChars_eq_relative_iff, hlist, List.head?_cons]
    decide
  have hname : Path.logName (Session.longName (length + 1)) = Session.longName (length + 1) ++ ".jsonl" :=
    Path.logName_of_not_mem (not_mem_longName (by decide) (length + 1))
  refine ⟨⟨.relative, [Path.logName (Session.longName (length + 1))]⟩, ?_, ?_⟩
  · rw [Path.logFile_eq_ok_iff, hcomponents, hanchor]
    exact ⟨_, rfl, rfl⟩
  · rw [Path.address, Path.resolve, List.foldl_cons, Path.descend, if_neg (Path.logName_ne_up _), hname]
    rfl

theorem nameable_longName {ending : String} (hnull : Text.hasNull ending = false)
    (hshort : length + ending.utf8ByteSize ≤ 4000) :
    Address.Nameable { location := [Session.longName length ++ ending] } := by
  rw [Address.nameable_mk_iff, Location.nameable_iff]
  constructor
  · rw [List.any_cons, Location.hasNull_append, Session.hasNull_longName, hnull]
    rfl
  · rw [Location.byteLength, Location.byteLength, String.utf8ByteSize_append, Session.utf8ByteSize_longName, pathLimit]
    omega

theorem fits_longName (length : Nat) (ending : String) :
    fits (Session.longName length ++ ending) = decide (length + ending.utf8ByteSize ≤ 255) := by
  rw [fits, String.utf8ByteSize_append, Session.utf8ByteSize_longName, nameLimit]

theorem fits_longLog : (longLog length).location.getLast?.all fits = decide (length ≤ 249) := by
  have hsize : ".jsonl".utf8ByteSize = 6 := rfl
  rw [longLog, List.getLast?_singleton, Option.all_some, fits_longName, hsize]
  exact decide_eq_decide.2 (by omega)

theorem nameable_longLog (hshort : length ≤ 250) : (longLog length).Nameable := by
  have hsize : ".jsonl".utf8ByteSize = 6 := rfl
  exact nameable_longName (by decide) (by omega)

/-! ### Other reasons to fail -/

/-- The name of a log may be too long for a directory. -/
theorem longNamed_fails :
    Fails (longNamed 250 {}) { failure := .notOpened (.refused .nameTooLong), output := "", errors := "" }
      (longNamed 250 {}) := by
  have hload : (longNamed 250 {}).loadEnvironment = (.ok (), longNamed 250 {}) := loadEnvironment_longNamed rfl
  have hconfig : foundConfig (longNamed 250 {}) = (longNamed 250 {}).config := foundConfig_longNamed rfl
  have hlong : (longLog 250).location.getLast?.all fits = false := by
    rw [fits_longLog]
    decide
  have hobstacle : (longNamed 250 {}).tree.Obstacle (longLog 250) .nameTooLong :=
    .longName (nameable_longLog (by decide)) rfl hlong
  have hunopenable : Session.Unopenable (longNamed 250 {}).tree (longNamed 250 {}).directory
      (foundConfig (longNamed 250 {})).logPath (.refused .nameTooLong) := by
    rw [hconfig, config_longNamed.2]
    exact .blocked _ .nameTooLong (targets_iff.2 (logFile_longName (by decide))) hobstacle
  have haudit : (foundConfig (longNamed 250 {})).audit = true := by rw [hconfig, config_longNamed.1]
  have hfails := Fails.notOpened _ (by rw [hload]) haudit hunopenable
  rw [hload] at hfails
  exact hfails

/-- A day that is over. -/
def longAgo : CalendarDay where
  year := 2024
  month := 1
  day := 8

/-- A tree in which the log was last written on that day. -/
def overdue (length : Nat) : Tree :=
  { ({} : Tree).put (longLog length).location (.file "before\n") with
    aged := .ofList [((longLog length).location, longAgo)] }

theorem text?_overdue (place : Location) :
    (overdue length).text? place =
      if place = (longLog length).location then some "before\n" else ({} : Tree).text? place :=
  Tree.text?_put_file (List.cons_ne_nil _ _) "before\n" place

theorem text?_overdue_longLog : (overdue length).text? (longLog length).location = some "before\n" :=
  (text?_overdue _).trans (if_pos rfl)

theorem text?_overdue_envFile : (overdue length).text? [Session.envFileName] = none := by
  refine (text?_overdue _).trans (if_neg ?_)
  intro heq
  have hnames : Location.NamesLog ([] ++ [Session.longName length ++ ".jsonl"]) := by
    rw [Location.namesLog_concat_iff, String.toList_append]
    exact List.suffix_append _ _
  exact Session.not_namesLog_envFile [] (heq ▸ hnames)

theorem touchAt_overdue (hfits : length ≤ 249) : (overdue length).touchAt (longLog length) = .ok (overdue length) := by
  have hfile : (overdue length).isFile (longLog length).location = true := Tree.isFile_iff.2 ⟨_, text?_overdue_longLog⟩
  refine Tree.touchAt_iff.2 ⟨⟨nameable_longLog (by omega), ?_⟩, rfl, ?_, (Tree.withFile_of_isFile hfile).symm⟩
  · rw [fits_longLog, decide_eq_true_iff]
    exact hfits
  · exact Tree.isDirectory_of_text? text?_overdue_longLog

theorem rotation?_overdue (length : Nat) :
    ((longNamed length (overdue length)).startLog (longLog length)).rotation? (overdue length) = some longAgo := by
  have hne : (longLog length).location ≠ [] := List.cons_ne_nil _ _
  refine OpenLog.rotation?_eq_some_iff.2 ⟨?_, Tree.isDirectory_of_text? text?_overdue_longLog, ?_⟩
  · show (overdue length).lastDay? (longLog length).location = some longAgo
    rw [Tree.lastDay?, if_pos (Tree.isFile_iff.2 ⟨_, text?_overdue_longLog⟩), overdue, ← List.nil_append [_],
      Table.ofList_append_singleton, Table.get?_insert, if_pos rfl]
  · have hother := (Address.backs_backup hne longAgo).ne
    have hnone : (overdue length).node? ((longLog length).backup longAgo).location = none :=
      (Tree.node?_put hne _ _).trans (if_neg hother)
    show (overdue length).exists? ((longLog length).backup longAgo) = false
    rw [Tree.exists?, hnone, Option.isSome_none, Bool.and_false]

theorem move_overdue (hlong : 239 ≤ length) (hshort : length ≤ 250) :
    (overdue length).move (longLog length) ((longLog length).backup longAgo) = .error .nameTooLong := by
  have hsize : (".jsonl" ++ "." ++ longAgo.render).utf8ByteSize = 17 := by decide +kernel
  have hbackup : (longLog length).backup longAgo =
      { location := [Session.longName length ++ (".jsonl" ++ "." ++ longAgo.render)] } := by
    rw [← String.append_assoc, ← String.append_assoc]
    rfl
  have hnameable : pathProblem? ((longLog length).backup longAgo).path = none := by
    rw [hbackup]
    exact nameable_longName (by decide +kernel) (by omega)
  have hproblem : (overdue length).problem? ((longLog length).backup longAgo).location = some .nameTooLong := by
    rw [hbackup, Tree.problem?, Tree.parentProblem?_eq_none_iff.2 rfl]
    dsimp only
    have hlarge : decide (length + (".jsonl" ++ "." ++ longAgo.render).utf8ByteSize ≤ 255) = false :=
      decide_eq_false (by omega)
    rw [List.getLast?_singleton, Option.all_some, fits_longName, hlarge]
    rfl
  rw [Tree.move, text?_overdue_longLog]
  dsimp only
  rw [hnameable, hproblem]
  rfl

/-- The name of a log may be too long for a backup. Then verdicts are shown and the file stays as it was. -/
theorem run_overdue (hlong : 239 ≤ length) (hfits : length ≤ 249) (time : String) (hsome : arguments ≠ []) :
    run time arguments (longNamed length (overdue length)) =
      (.ok (report (longNamed length (overdue length)).config.checker arguments),
        longNamed length (overdue length)) := by
  have hload : (longNamed length (overdue length)).loadEnvironment = (.ok (), longNamed length (overdue length)) :=
    loadEnvironment_longNamed text?_overdue_envFile
  have hpos : 0 < length := by omega
  obtain ⟨file, hfile, haddress⟩ := logFile_longName hpos
  have hdirectory : file.address (longNamed length (overdue length)).directory = longLog length := haddress
  obtain ⟨haudit, hlogPath⟩ : (longNamed length (overdue length)).config.audit = true ∧
      (longNamed length (overdue length)).config.logPath = Session.longName length := config_longNamed
  have htouch : (longNamed length (overdue length)).tree.touchAt
      (file.address (longNamed length (overdue length)).directory) = .ok (overdue length) := by
    rw [hdirectory]
    exact touchAt_overdue hfits
  rw [← hlogPath] at hfile
  rw [run_of_ok hsome hload, judge_of_opened haudit hfile htouch, hdirectory,
    OpenLog.addAll_of_refused (rotation?_overdue length) (move_overdue hlong (by omega))]
  rfl

/-- Runs fail for more than a log path without a last component, a missing directory or a directory in the place of the
log. Without auditing a run fails over a working directory that no path can name and over a variable that the
environment refuses, and with auditing the name of the log may be too long. Nor is every verdict that is shown recorded
by an audited run: if the day of the log is over and the system does not let its file be put aside, the line is lost. -/
theorem runs_fail_for_other_reasons_and_lines_get_lost :
    ((foundConfig Session.buried).audit = false ∧
      run "1" ["a/b.r"] Session.buried = (.error (Failure.notLoaded .lost).atOnce, Session.buried)) ∧
    ((foundConfig Session.unsettable).audit = false ∧
      (run "1" ["a/b.r"] Session.unsettable).1 = .error (Failure.notLoaded (.refused .equalsSign)).atOnce) ∧
    ((foundConfig (longNamed 250 {})).audit = true ∧ Targets (foundConfig (longNamed 250 {})).logPath [] (longLog 250) ∧
      (longNamed 250 {}).tree.isDirectory [] = true ∧
      (longNamed 250 {}).tree.isDirectory (longLog 250).location = false ∧
      run "1" ["a/b.r"] (longNamed 250 {}) =
        (.error (Failure.notOpened (.refused .nameTooLong)).atOnce, longNamed 250 {})) ∧
    ((foundConfig (longNamed 249 (overdue 249))).audit = true ∧
      ∃ report, run "1" ["a/b.r"] (longNamed 249 (overdue 249)) = (.ok report, longNamed 249 (overdue 249)) ∧
        report.output = "DENY a/b.r\n") := by
  have hburied := Session.loadEnvironment_of_lost Session.not_nameable_buried
  have hlong : foundConfig (longNamed 250 {}) = (longNamed 250 {}).config := foundConfig_longNamed rfl
  have hoverdue : foundConfig (longNamed 249 (overdue 249)) = (longNamed 249 (overdue 249)).config :=
    foundConfig_longNamed text?_overdue_envFile
  refine ⟨⟨?_, run_of_notLoaded (by decide) hburied⟩, ⟨by decide +kernel, by decide +kernel⟩,
    ⟨?_, ?_, rfl, ?_, longNamed_fails.run_eq (by decide) "1"⟩, ?_, ?_⟩
  · rw [foundConfig, hburied]
    show (Config.ofEnvironment ∅).audit = false
    decide +kernel
  · rw [hlong, config_longNamed.1]
  · rw [hlong, config_longNamed.2]
    exact targets_iff.2 (logFile_longName (by decide))
  · rfl
  · rw [hoverdue, config_longNamed.1]
  · exact ⟨_, run_overdue (by decide) (by decide) "1" (by decide), by decide +kernel⟩

end CommandLine

end AccessScopes
