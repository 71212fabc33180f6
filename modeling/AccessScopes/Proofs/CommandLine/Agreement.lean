import AccessScopes.CommandLine
import AccessScopes.Proofs.Files.Target
import AccessScopes.Proofs.Session.Recording

/-!
# What the command shows and records

The command judges each argument once, and what it prints, the code it exits with and what it records
all come from these decisions. `Course` lists the ways a run can go; what holds of every run is read
off them.
-/

namespace AccessScopes.CommandLine

open Files

/-- The decisions on the arguments, in order. -/
def decisions (checker : Checker) (time : String) (arguments : List String) : List Decision :=
  arguments.map fun scope => { time, scope, allowed := checker.can scope }

/-- The texts that decisions add to a log, one for each. -/
def texts (decisions : List Decision) : List String :=
  (decisions.map Record.decision).map Record.text

theorem texts_ne_nil {arguments : List String} (hsome : arguments ≠ []) (checker : Checker) (time : String) :
    texts (decisions checker time arguments) ≠ [] := by
  simpa [texts, decisions] using hsome

/-- The ways a run of the command can go, with what it returns and the session it leaves. -/
inductive Course (time : String) (arguments : List String) (session : Session) :
    Except Crash Report × Session → Prop
  | noArguments (hnone : arguments = []) : Course time arguments session (.ok usage, session)
  | notLoaded (error : LoadError) (hsome : arguments ≠ []) (hload : session.loadEnvironment.1 = .error error) :
      Course time arguments session (.error (Failure.notLoaded error).atOnce, session.loadEnvironment.2)
  | unaudited (hsome : arguments ≠ []) (hload : session.loadEnvironment.1 = .ok ())
      (haudit : session.loadEnvironment.2.config.audit = false) :
      Course time arguments session
        (.ok (report session.loadEnvironment.2.config.checker arguments), session.loadEnvironment.2)
  | notOpened (error : OpenError) (hsome : arguments ≠ []) (hload : session.loadEnvironment.1 = .ok ())
      (haudit : session.loadEnvironment.2.config.audit = true) :
      Course time arguments session (.error (Failure.notOpened error).atOnce, session.loadEnvironment.2.closeLog)
  | audited (file : Path) (opened : Tree) (hsome : arguments ≠ []) (hload : session.loadEnvironment.1 = .ok ())
      (haudit : session.loadEnvironment.2.config.audit = true)
      (hfile : (Path.parse session.loadEnvironment.2.config.logPath).logFile = .ok file)
      (htouch : session.tree.touchAt (file.address session.directory) = .ok opened) :
      Course time arguments session
        (.ok (report session.loadEnvironment.2.config.checker arguments),
          { session.loadEnvironment.2 with
            tree := ((session.startLog (file.address session.directory)).addAll opened
              (texts (decisions session.loadEnvironment.2.config.checker time arguments))).1
            log := none })

/-- An audited run whose log can be opened adds its decisions to the log and closes it. -/
theorem judge_of_opened {session : Session} {file : Path} {opened : Tree} (haudit : session.config.audit = true)
    (hfile : (Path.parse session.config.logPath).logFile = .ok file)
    (htouch : session.tree.touchAt (file.address session.directory) = .ok opened) (time : String)
    (arguments : List String) :
    judge time arguments session =
      (.ok (report session.config.checker arguments),
        { session with
          tree := ((session.startLog (file.address session.directory)).addAll opened
            (texts (decisions session.config.checker time arguments))).1
          log := none }) := by
  have htexts : (arguments.map (verdictRecord session.config.checker time)).map Record.text =
      texts (decisions session.config.checker time arguments) := by
    simp only [texts, decisions, List.map_map]
    rfl
  rw [judge, if_pos haudit, Session.openLog_of_touchAt hfile htouch]
  dsimp only
  rw [Session.foldl_record rfl, htexts]
  rfl

theorem run_course (time : String) (arguments : List String) (session : Session) :
    Course time arguments session (run time arguments session) := by
  unfold run
  by_cases hnone : arguments = []
  · rw [if_pos (List.isEmpty_iff.2 hnone)]
    exact .noArguments hnone
  · rw [if_neg (fun hempty => hnone (List.isEmpty_iff.1 hempty))]
    cases hpair : session.loadEnvironment with
    | mk result loaded =>
      have hload : session.loadEnvironment.1 = result := congrArg Prod.fst hpair
      have hloaded : session.loadEnvironment.2 = loaded := congrArg Prod.snd hpair
      subst hloaded
      cases result with
      | error error => exact .notLoaded error hnone hload
      | ok _ =>
        dsimp only
        cases haudit : session.loadEnvironment.2.config.audit with
        | false =>
          rw [judge, haudit]
          exact .unaudited hnone hload haudit
        | true =>
          have hopening := session.loadEnvironment.2.openLog_opening session.loadEnvironment.2.config.logPath
          generalize hopen : session.loadEnvironment.2.openLog session.loadEnvironment.2.config.logPath = opening
            at hopening
          cases hopening with
          | refused error =>
            rw [judge, haudit, hopen]
            exact .notOpened error hnone hload haudit
          | opened file tree hfile htouch =>
            have haddress : file.address session.loadEnvironment.2.directory = file.address session.directory := by
              rw [session.loadEnvironment_directory]
            rw [judge_of_opened haudit hfile htouch, session.startLog_loadEnvironment, haddress]
            rw [session.loadEnvironment_tree, haddress] at htouch
            exact .audited file tree hnone hload haudit hfile htouch

/-! ### Agreement -/

/-- The line that shows a decision. -/
def shown (decision : Decision) : String :=
  (if decision.allowed then "ALLOW " else "DENY ") ++ decision.scope ++ "\n"

/-- The configuration that a run finds once the environment is loaded. -/
def foundConfig (session : Session) : Config :=
  .ofEnvironment session.loadEnvironment.2.environment

/-- What a run leaves in the files once it recorded decisions in the log at an address. What it added is spelt by the
decisions. Within the day of the file of the log, the file grows by that and every other file is as it was. When that
day is over, what is added stands behind the text that stays in the file, if any does, and only backups of the log
change apart from it. -/
structure Recorded (decisions : List Decision) (address : Address) (added : String) (before after : Tree) : Prop where
  spelt : Record.AllSpeltBy (decisions.map .decision) added
  grown : before.Current address → after.text? address.location = some (before.content address.location ++ added)
  others : before.Current address → ∀ other, other ≠ address.location → after.text? other = before.text? other
  behind : ∀ kept, before.Keeps address kept → after.text? address.location = some (kept ++ added)
  spared : before.Spares after address.location

theorem recorded_addAll {session : Session} {address : Address} {opened : Tree} {decisions : List Decision}
    (htouch : session.tree.touchAt address = .ok opened) (htexts : texts decisions ≠ []) :
    Recorded decisions address (Decision.log decisions) session.tree
      ((session.startLog address).addAll opened (texts decisions)).1 := by
  refine ⟨Record.allSpeltBy_joined _, ?_, ?_, ?_, ?_⟩
  · intro hcurrent
    exact Session.text?_addAll_startLog htouch (.current hcurrent) htexts
  · intro hcurrent other hother
    obtain ⟨after, hall, htext, -⟩ := Session.addAll_startLog_of_current htouch hcurrent (texts decisions)
    rw [hall]
    exact (htext other).trans (if_neg hother)
  · intro kept hkeeps
    exact Session.text?_addAll_startLog htouch hkeeps htexts
  · exact Session.spares_addAll_startLog htouch (texts decisions)

theorem output_report (checker : Checker) (time : String) (arguments : List String) :
    (report checker arguments).output = .join ((decisions checker time arguments).map shown) := by
  rw [decisions, List.map_map]
  rfl

end AccessScopes.CommandLine
