import AccessScopes.Proofs.CommandLine.Failing
import AccessScopes.Proofs.Files.Spelling
import AccessScopes.Proofs.Session.Confinement
import AccessScopes.Proofs.Table.Entries

/-!
# Log files and their paths

A logger that is given the path of one that was just opened finds everything as it is, and as long as the
working directory is the same that path stands for the same file. A path is rejected as it was given if no
path of a log file can be computed from it, or if there is a null character on the way to the file.
-/

namespace AccessScopes

open Files

/-- The error is one of value: the path as it was given is at fault. The other ways for an opening to fail are
errors of the system. -/
inductive OpenError.OfValue : OpenError → Prop
  | emptyName (error : EmptyName) : OfValue (.emptyName error)
  | null : OfValue (.refused .null)

/-! ### Opening a file again -/

namespace Files

theorem Tree.touchAt_touchAt {tree after : Tree} {address : Address} (htouch : tree.touchAt address = .ok after) :
    after.touchAt address = .ok after := by
  obtain ⟨htolerated, hheld, hfree, -⟩ := touchAt_iff.1 htouch
  rw [← isDirectory_touchAt htouch] at hheld hfree
  exact touchAt_iff.2 ⟨htolerated, hheld, hfree, (withFile_of_isFile (isFile_touchAt htouch)).symm⟩

/-- A file that was made sure of is as old as it was before. -/
theorem Tree.lastDay?_touchAt {tree after : Tree} {address : Address} (htouch : tree.touchAt address = .ok after) :
    after.lastDay? address.location = tree.lastDay? address.location := by
  obtain ⟨-, -, -, rfl⟩ := touchAt_iff.1 htouch
  rw [withFile]
  split
  · rfl
  · rename_i hfile
    have haged : (tree.put address.location (.file "")).aged.get? address.location = none := by
      rw [put, Table.get?_erase, if_pos rfl]
    rw [lastDay?, haged, ite_self, lastDay?, if_neg hfile]

end Files

namespace Session

variable {session after : Session} {text : String} {file : Path} {place : Location}

theorem exists_touchAt_of_openLog (hopen : session.openLog text = (.ok file, after)) :
    (Path.parse text).logFile = .ok file ∧ ∃ tree,
      session.tree.touchAt (file.address session.directory) = .ok tree ∧
        after = { session with tree, log := some (session.startLog (file.address session.directory)) } := by
  have hopening := session.openLog_opening text
  rw [hopen] at hopening
  cases hopening with
  | opened _ tree hfile htouch => exact ⟨hfile, tree, htouch, rfl⟩

theorem shared_openLog (hopen : session.openLog text = (.ok file, after)) :
    after.shared = some (file.resolve session.directory) := by
  obtain ⟨-, tree, -, rfl⟩ := exists_touchAt_of_openLog hopen
  rfl

/-- A logger that is given the path of one that was just opened has its file. -/
theorem openLog_openLog (hopen : session.openLog text = (.ok file, after)) :
    after.openLog file.render = (.ok file, after) := by
  obtain ⟨hfile, tree, htouch, rfl⟩ := exists_touchAt_of_openLog hopen
  rw [openLog_of_touchAt (Path.logFile_parse_render hfile) (Tree.touchAt_touchAt htouch), startLog, startLog,
    Tree.lastDay?_touchAt htouch]

/-- The path of a logger stands for one file as long as the working directory is the same. -/
theorem shared_openLog_openLog {later last : Session} {again : Path} (hopen : session.openLog text = (.ok file, after))
    (hdirectory : later.directory = session.directory) (hagain : later.openLog file.render = (.ok again, last)) :
    again = file ∧ last.shared = after.shared := by
  obtain ⟨hfile, -⟩ := exists_touchAt_of_openLog hopen
  obtain ⟨hfound, -⟩ := exists_touchAt_of_openLog hagain
  rw [Path.logFile_parse_render hfile] at hfound
  cases hfound
  rw [shared_openLog hopen, shared_openLog hagain, hdirectory]
  exact ⟨rfl, rfl⟩

/-! ### Paths that are rejected -/

/-- Opening a log by the text fails in the session with an error of value. -/
def Rejects (session : Session) (text : String) : Prop :=
  ∃ error, (session.openLog text).1 = .error error ∧ error.OfValue

theorem rejects_iff :
    session.Rejects text ↔ ¬ Path.HasComponent text ∨
      ∃ address, Targets text session.directory address ∧ address.location.any Text.hasNull = true := by
  constructor
  · intro hrejects
    obtain ⟨error, herror, hvalue⟩ := hrejects
    obtain ⟨hunopenable, -⟩ := openLog_eq_error_iff.1 (Prod.ext herror rfl)
    cases hunopenable with
    | unnamed hempty => exact Or.inl hempty
    | blocked address refusal htargets hobstacle =>
      cases hvalue
      cases hobstacle with
      | null hnull => exact Or.inr ⟨address, htargets, hnull⟩
  · intro h
    rcases h with hempty | ⟨address, htargets, hnull⟩
    · exact ⟨_, congrArg Prod.fst (openLog_eq_error_iff.2 ⟨.unnamed hempty, rfl⟩), .emptyName _⟩
    · have hobstacle : session.tree.Obstacle address .null := .null hnull
      have hunopenable := Unopenable.blocked address .null htargets hobstacle
      exact ⟨_, congrArg Prod.fst (openLog_eq_error_iff.2 ⟨hunopenable, rfl⟩), .null⟩

/-! ### Log paths -/

/-- The path of a log is settled once and for all. It is computed exactly if the text that is given has a
component. It keeps the leading slashes and the components of the text, except that the last component gives
up its suffix for that of log files. Written out, it is read as itself and asks for itself, so a logger that
is opened by it in the same working directory has the same file. A text is rejected exactly if no path is
computed from it, or if there is a null character on the way to the file, to which the system objects.
Whatever paths loggers are given over a run, they change no file that is not named as a log or, when the day of a log
is over, as a backup of one, and environment files are not. -/
theorem log_paths_settled_and_only_logs_written :
    (∀ text : String,
      ((∃ file, (Path.parse text).logFile = .ok file) ↔ Path.HasComponent text) ∧
        (∀ session : Session, session.Rejects text ↔ ¬ Path.HasComponent text ∨
          ∃ address, Targets text session.directory address ∧ address.location.any Text.hasNull = true) ∧
        ∀ file, (Path.parse text).logFile = .ok file →
          file.RenamedFrom (Path.parse text) ∧
            file.render = (Path.parse text).anchor.render ++ "/".intercalate file.components ∧
            Path.parse file.render = file ∧ (Path.parse file.render).logFile = .ok file ∧
            ∀ session after : Session, session.openLog text = (.ok file, after) →
              after.openLog file.render = (.ok file, after) ∧
                ∀ (later last : Session) (again : Path), later.directory = session.directory →
                  later.openLog file.render = (.ok again, last) → again = file ∧ last.shared = after.shared) ∧
      (∀ directory : Location, ¬ Location.NamesLog (directory ++ [envFileName]) ∧
        ¬ Location.NamesBackup (directory ++ [envFileName])) ∧
      ∀ (session : Session) (steps : List (String × Step)) (place : Location), session.log = none →
        ¬ place.NamesLog → ¬ place.NamesBackup → (∀ event ∈ session.history steps, event.touched? ≠ some place) →
          (session.run steps).tree.text? place = session.tree.text? place := by
  refine ⟨?_, fun directory => ⟨not_namesLog_envFile directory, not_namesBackup_envFile directory⟩, ?_⟩
  · intro text
    refine ⟨Path.exists_logFile_iff, fun session => rejects_iff, ?_⟩
    intro file hfile
    have hrenamed := (Path.plain_parse text).logFile_iff.1 hfile
    have hne : file.components ≠ [] := by
      obtain ⟨earlier, name, kept, -, -, -, hcomponents⟩ := hrenamed.components_eq
      rw [hcomponents]
      exact List.concat_ne_nil _ _
    refine ⟨hrenamed, ?_, Path.parse_render_of_logFile hfile, Path.logFile_parse_render hfile, ?_⟩
    · rw [← hrenamed.anchor_eq]
      exact Path.render_of_ne_nil hne
    · intro session after hopen
      exact ⟨openLog_openLog hopen, fun later last again => shared_openLog_openLog hopen⟩
  · intro session steps place hclosed hplace hbackup huntouched
    exact (confined_of_closed hclosed).text?_run hplace hbackup huntouched

example : [".env", "..", "x.", "//a/./b.c.d/", "a//../.b", "./"].map
      (fun text => (Path.parse text).logFile.toOption.map Path.render) =
    [some ".env.jsonl", some "...jsonl", some "x..jsonl", some "//a/b.c.jsonl", some "a/../.b.jsonl", none] := by
  decide +kernel

/-- A log is opened, and the working directory changes. -/
def moving : List (String × Step) :=
  [("1", .openLogger "first" "audit"), ("2", .makeDirectory "d"), ("3", .enter "d")]

/-- A log is opened, and a decision is recorded after midnight. -/
def waking : List (String × Step) :=
  [("1", .openLogger "first" "audit"), ("2", .midnight { year := 2024, month := 2, day := 29 }),
    ("3", .decision "first" "a/b.r" true)]

/-- A path with a component may be rejected, in another working directory the path of a logger stands for
another file, and a logger may make a file that is not named as a log: the backup of its own. -/
theorem not_every_path_accepted_or_fixed_or_named_as_log :
    (Path.HasComponent "a\x00b" ∧ ({} : Session).Rejects "a\x00b") ∧
      ((({} : Session).run moving).loggers.get? "first" = some (.parse "audit.jsonl") ∧
        (({} : Session).run moving).shared = some ["audit.jsonl"] ∧
        ((({} : Session).run moving).openLog (Path.parse "audit.jsonl").render).2.shared = some ["d", "audit.jsonl"]) ∧
      ¬ Location.NamesLog ["audit.jsonl.2024-02-29"] ∧
      ({} : Session).tree.text? ["audit.jsonl.2024-02-29"] = none ∧
      (({} : Session).run waking).tree.text? ["audit.jsonl.2024-02-29"] = some "" := by
  refine ⟨⟨?_, ?_⟩, by decide +kernel, by decide +kernel, by decide +kernel, by decide +kernel⟩
  · rw [← Path.components_parse_ne_nil_iff]
    decide +kernel
  · exact ⟨.refused .null, by decide +kernel, .null⟩

end Session

end AccessScopes
