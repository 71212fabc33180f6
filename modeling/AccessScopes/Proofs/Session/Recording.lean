import AccessScopes.Proofs.Session.Logging

/-!
# Recording in a session

What the operations of a session do to its files and to its open log, said once for each of them:
loading settings touches neither, opening a log changes no contents, and recording adds the text of a
record to the open log and changes nothing else.
-/

namespace AccessScopes.Session

open Files

variable {session : Session} {log : OpenLog}

theorem loadEnvironment_eq (session : Session) :
    session.loadEnvironment.2 = { session with environment := session.loadEnvironment.2.environment } := by
  unfold loadEnvironment
  split
  · rfl
  · split
    · rfl
    · split <;> rfl

@[simp] theorem loadEnvironment_tree (session : Session) : session.loadEnvironment.2.tree = session.tree := by
  rw [loadEnvironment_eq]

@[simp] theorem loadEnvironment_directory (session : Session) :
    session.loadEnvironment.2.directory = session.directory := by
  rw [loadEnvironment_eq]

@[simp] theorem loadEnvironment_log (session : Session) : session.loadEnvironment.2.log = session.log := by
  rw [loadEnvironment_eq]

/-! ### Recording -/

theorem record_of_closed (hlog : session.log = none) (entry : Record) : session.record entry = session := by
  rw [record, hlog]

theorem record_of_open (hlog : session.log = some log) (entry : Record) :
    session.record entry =
      { session with tree := (log.add session.tree entry.text).1, log := some (log.add session.tree entry.text).2 } := by
  rw [record, hlog]

theorem record_of_kept (hlog : session.log = some log) (hlinked : log.stream = .linked)
    (hkept : log.rotation? session.tree = none) (entry : Record) :
    session.record entry = { session with tree := session.tree.append log.location entry.text } := by
  rw [record_of_open hlog, OpenLog.add_of_kept hlinked hkept, ← hlog]

theorem loggers_record (session : Session) (entry : Record) : (session.record entry).loggers = session.loggers := by
  cases hlog : session.log with
  | none => rw [record_of_closed hlog]
  | some log => rw [record_of_open hlog]

/-- Records are added to the open log one after another. -/
theorem foldl_record (hlog : session.log = some log) (records : List Record) :
    records.foldl record session =
      { session with
        tree := (log.addAll session.tree (records.map Record.text)).1
        log := some (log.addAll session.tree (records.map Record.text)).2 } := by
  induction records generalizing session log with
  | nil =>
    rw [List.foldl_nil, List.map_nil, OpenLog.addAll, List.foldl_nil, ← hlog]
  | cons entry records ih =>
    have hnext : (session.record entry).log = some (log.add session.tree entry.text).2 := by
      rw [record_of_open hlog]
    rw [List.foldl_cons, ih hnext, record_of_open hlog]
    rfl

/-! ### Opening -/

theorem startLog_loadEnvironment (session : Session) (address : Address) :
    session.loadEnvironment.2.startLog address = session.startLog address := by
  rw [startLog, startLog, loadEnvironment_tree]

theorem openLog_of_touchAt {path : String} {file : Path} {tree : Tree} (hfile : (Path.parse path).logFile = .ok file)
    (htouch : session.tree.touchAt (file.address session.directory) = .ok tree) :
    session.openLog path =
      (.ok file, { session with tree, log := some (session.startLog (file.address session.directory)) }) := by
  rw [openLog, hfile]
  dsimp only
  rw [htouch]

/-- What opening a log can come to. The log that was open is closed in any case. -/
inductive Opening (session : Session) (path : String) : Except OpenError Path × Session → Prop
  | refused (error : OpenError) : Opening session path (.error error, session.closeLog)
  | opened (file : Path) (tree : Tree) (hfile : (Path.parse path).logFile = .ok file)
      (htouch : session.tree.touchAt (file.address session.directory) = .ok tree) :
      Opening session path
        (.ok file, { session with tree, log := some (session.startLog (file.address session.directory)) })

theorem openLog_opening (session : Session) (path : String) : session.Opening path (session.openLog path) := by
  unfold openLog
  split
  · exact .refused _
  · rename_i file hfile
    dsimp only
    split
    · exact .refused _
    · rename_i tree htouch
      exact .opened file tree hfile htouch

/-! ### Environment files -/

theorem not_namesLog_envFile (directory : Location) : ¬ Location.NamesLog (directory ++ [envFileName]) := by
  rw [Location.namesLog_concat_iff]
  decide

theorem not_namesBackup_envFile (directory : Location) : ¬ Location.NamesBackup (directory ++ [envFileName]) := by
  intro hnames
  obtain ⟨_, hlog, holder, name, date, rfl, hplace, -⟩ := hnames
  have hname : envFileName = name ++ "." ++ date := List.singleton_inj.1 (List.append_inj_right' hplace rfl)
  have hlength := congrArg (fun text => text.toList.length) hname
  have hsuffix := (Location.namesLog_concat_iff.1 hlog).length_le
  simp [envFileName] at hlength hsuffix
  omega

theorem text?_envFile {tree after : Tree} {location : Location} (hspares : tree.Spares after location)
    (hnames : location.NamesLog) (directory : Location) :
    after.text? (directory ++ [envFileName]) = tree.text? (directory ++ [envFileName]) :=
  hspares.text?_of_namesLog hnames (not_namesLog_envFile directory) (not_namesBackup_envFile directory)

end AccessScopes.Session
