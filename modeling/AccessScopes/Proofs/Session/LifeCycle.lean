import AccessScopes.Proofs.Files.Target
import AccessScopes.Proofs.Session.Turning

/-!
# The life of the shared log

The loggers hold their handlers in common: an opening takes off every handler there is before it looks
for its file, and attaches one if it finds it. So there is at most one handler, which writes to the file
of the latest opening, and after an opening that failed there is none until another succeeds. Which
openings succeed depends on the tree alone.
-/

namespace AccessScopes

open Files

/-! ### Handlers -/

/-- Takes every handler off a logger, one after another. Handlers are told by their files. -/
def detachAll (held : List Location) : List Location :=
  held.foldl List.erase held

theorem detachAll_eq_nil (held : List Location) : detachAll held = [] := by
  rw [detachAll]
  induction held with
  | nil => rfl
  | cons handler held ih => rw [List.foldl_cons, List.erase_cons_head, ih]

/-- The handlers after a turn of the log. -/
def Turn.attach : Option Turn → List Location → List Location
  | none, held => held
  | some (.opens location), held => detachAll held ++ [location]
  | some .ends, held => detachAll held

theorem Turn.attach_toList (turn : Option Turn) (shared : Option Location) :
    Turn.attach turn shared.toList = (Turn.apply turn shared).toList := by
  cases turn with
  | none => rfl
  | some turn =>
    cases turn with
    | opens location =>
      rw [attach, detachAll_eq_nil]
      rfl
    | ends => exact detachAll_eq_nil _

/-- The handlers after events, from those that are attached before them. -/
def Event.attached (held : List Location) : List Event → List Location
  | [] => held
  | event :: rest => attached (Turn.attach event.turn? held) rest

namespace Event

/-- Over every run, attaching and taking off handlers one at a time leaves the handler of the shared log,
or none. -/
theorem attached_history (session : Session) (steps : List (String × Step)) :
    attached session.shared.toList (session.history steps) = (session.run steps).shared.toList := by
  induction steps generalizing session with
  | nil => rfl
  | cons timed steps ih =>
    obtain ⟨time, step⟩ := timed
    rw [Session.history, attached, Turn.attach_toList, ← shared_after ⟨session, time, step⟩]
    exact ih _

/-! ### Silence -/

/-- A logger opened a log. -/
def Opens (event : Event) : Prop :=
  ∃ id path file, event.step = .openLogger id path ∧ event.outcome = .opened file

theorem opens_of_turn {event : Event} {location : Location} (hturn : event.turn? = some (.opens location)) :
    event.Opens := by
  obtain ⟨session, time, step⟩ := event
  cases step with
  | openLogger id path =>
    simp only [turn?] at hturn
    split at hturn
    · rename_i file hopened
      exact ⟨id, path, file, rfl, hopened⟩
    · cases hturn
  | close id =>
    simp only [turn?] at hturn
    split at hturn <;> cases hturn
  | command arguments =>
    simp only [turn?] at hturn
    split at hturn <;> cases hturn
  | _ => cases hturn

/-- A log that is closed stays closed unless a logger opens one. -/
theorem shared_after_of_closed {event : Event} (hclosed : event.before.shared = none) (hopens : ¬ event.Opens) :
    event.after.shared = none := by
  rw [shared_after, hclosed]
  cases hturn : event.turn? with
  | none => rfl
  | some turn =>
    cases turn with
    | opens location => exact absurd (opens_of_turn hturn) hopens
    | ends => rfl

end Event

namespace Session

variable {session : Session}

theorem shared_eq_none_iff : session.shared = none ↔ session.log = none := by
  rw [shared, Option.map_eq_none_iff]

theorem log_run_of_closed (hclosed : session.log = none) {steps : List (String × Step)}
    (hopens : ∀ event ∈ session.history steps, ¬ event.Opens) : (session.run steps).log = none := by
  induction steps generalizing session with
  | nil => exact hclosed
  | cons timed steps ih =>
    obtain ⟨time, step⟩ := timed
    have hfirst : ¬ Event.Opens ⟨session, time, step⟩ := hopens _ List.mem_cons_self
    have hafter := Event.shared_after_of_closed (shared_eq_none_iff.2 hclosed) hfirst
    exact ih (shared_eq_none_iff.1 hafter) fun event hevent => hopens event (List.mem_cons_of_mem _ hevent)

/-- Without an open log a decision changes nothing, whichever logger it goes through. -/
theorem step_decision_of_closed (hclosed : session.log = none) (time id scope : String) (allowed : Bool) :
    (session.step time (.decision id scope allowed)).2 = session := by
  simp only [step, through, record_of_closed hclosed]
  split <;> rfl

/-! ### Openings -/

/-- A session as it starts, without an open log and without loggers. -/
def starting (environment : Environment) (tree : Tree) (directory : Location) : Session :=
  { environment, tree, directory }

/-- A log was opened at the address on behalf of a logger. Files that were there keep their text, and
nothing but the file of the log is new. -/
structure Opened (before : Session) (id : String) (file : Path) (address : Address) (after : Session) : Prop where
  log_eq : after.log = some { address with stream := .linked, due? := before.tree.lastDay? address.location }
  kept : ∀ other text, before.tree.text? other = some text → after.tree.text? other = some text
  created : before.tree.text? address.location = none → after.tree.text? address.location = some ""
  elsewhere : ∀ other, other ≠ address.location → after.tree.node? other = before.tree.node? other
  environment_eq : after.environment = before.environment
  directory_eq : after.directory = before.directory
  loggers_eq : after.loggers = before.loggers.insert id file

/-- No log is open, nothing else changed, and no decision reaches a file until a logger opens a log. -/
structure Silenced (before after : Session) : Prop where
  log_eq : after.log = none
  tree_eq : after.tree = before.tree
  environment_eq : after.environment = before.environment
  directory_eq : after.directory = before.directory
  loggers_eq : after.loggers = before.loggers
  silent : ∀ steps, (∀ event ∈ after.history steps, ¬ event.Opens) →
    (after.run steps).log = none ∧ ∀ time id scope allowed,
      ((after.run steps).step time (.decision id scope allowed)).2.tree = (after.run steps).tree

theorem silenced_closeLog (session : Session) : session.Silenced session.closeLog := by
  refine ⟨rfl, rfl, rfl, rfl, rfl, ?_⟩
  intro steps hopens
  have hclosed : (session.closeLog.run steps).log = none := log_run_of_closed rfl hopens
  refine ⟨hclosed, ?_⟩
  intro time id scope allowed
  rw [step_decision_of_closed hclosed]

theorem opened_of_touchAt {address : Address} {tree : Tree} (htouch : session.tree.touchAt address = .ok tree)
    (id : String) (file : Path) :
    session.Opened id file address
      { session with tree, log := some (session.startLog address), loggers := session.loggers.insert id file } := by
  have htext := Tree.text?_touchAt htouch
  refine ⟨rfl, ?_, ?_, ?_, rfl, rfl, rfl⟩
  · intro other text hother
    refine (htext other).trans ?_
    split
    · rename_i heq
      rw [← heq, Tree.content, hother]
      rfl
    · exact hother
  · intro hnone
    refine (htext address.location).trans ?_
    rw [if_pos rfl, Tree.content, hnone]
    rfl
  · intro other hother
    obtain ⟨-, -, hfree, rfl⟩ := Tree.touchAt_iff.1 htouch
    exact Tree.node?_withFile_of_ne (Tree.ne_nil_of_not_isDirectory hfree) hother

/-- Whether a log can be opened is a matter of the path and of what lies at its target. -/
theorem exists_opened_iff {time id path : String} :
    (∃ file, (session.step time (.openLogger id path)).1 = .opened file) ↔
      ∃ address, Targets path session.directory address ∧ address.Tolerated ∧
        session.tree.isDirectory address.location.dropLast = true ∧
        session.tree.isDirectory address.location = false := by
  constructor
  · intro h
    obtain ⟨opened, hopened⟩ := h
    rcases session.step_openLogger time id path with ⟨error, hstep⟩ | ⟨file, tree, hfile, htouch, -⟩
    · rw [hstep] at hopened
      cases hopened
    · obtain ⟨htolerated, hheld, hfree, -⟩ := Tree.touchAt_iff.1 htouch
      exact ⟨_, targets_address hfile session.directory, htolerated, hheld, hfree⟩
  · intro h
    obtain ⟨address, htargets, htolerated, hheld, hfree⟩ := h
    obtain ⟨file, hfile, rfl⟩ := targets_iff.1 htargets
    have htouch := Tree.touchAt_iff.2 ⟨htolerated, hheld, hfree, rfl⟩
    exact ⟨file, by rw [step, openLogger, openLog_of_touchAt hfile htouch]; rfl⟩

/-- There is never more than one handler, and it is that of the open log. An opening succeeds exactly if
its path asks for a log file, a directory holds the place where that is to lie, no directory is in that place
and the system tolerates the place. Then it attaches its handler; otherwise it silences every logger
until another opening succeeds. -/
theorem handlers_le_one_and_opening_exact :
    (∀ environment tree directory steps,
      (Event.attached [] ((starting environment tree directory).history steps)).length ≤ 1 ∧
        Event.attached [] ((starting environment tree directory).history steps) =
          ((starting environment tree directory).run steps).shared.toList) ∧
      ∀ (session : Session) (time id path : String),
        ((∃ file, (session.step time (.openLogger id path)).1 = .opened file) ↔
            ∃ address, Targets path session.directory address ∧ address.Tolerated ∧
              session.tree.isDirectory address.location.dropLast = true ∧
              session.tree.isDirectory address.location = false) ∧
          (∀ file, (session.step time (.openLogger id path)).1 = .opened file →
            ∃ address, Targets path session.directory address ∧
              session.Opened id file address (session.step time (.openLogger id path)).2) ∧
          ((∀ file, (session.step time (.openLogger id path)).1 ≠ .opened file) →
            session.Silenced (session.step time (.openLogger id path)).2) := by
  constructor
  · intro environment tree directory steps
    have hattached : Event.attached [] ((starting environment tree directory).history steps) =
        ((starting environment tree directory).run steps).shared.toList :=
      Event.attached_history (starting environment tree directory) steps
    refine ⟨?_, hattached⟩
    rw [hattached]
    exact Option.length_toList_le
  · intro session time id path
    refine ⟨exists_opened_iff, ?_, ?_⟩
    · intro opened hopened
      rcases session.step_openLogger time id path with ⟨error, hstep⟩ | ⟨file, tree, hfile, htouch, hstep⟩
      · rw [hstep] at hopened
        cases hopened
      · rw [hstep] at hopened ⊢
        cases hopened
        exact ⟨_, targets_address hfile session.directory, opened_of_touchAt htouch id _⟩
    · intro hrefused
      rcases session.step_openLogger time id path with ⟨error, hstep⟩ | ⟨file, tree, -, -, hstep⟩
      · rw [hstep]
        exact silenced_closeLog session
      · rw [hstep] at hrefused
        exact absurd rfl (hrefused file)

/-- A session in one of two directories that lie next to each other. -/
def besides : Session where
  tree := { nodes := .ofList [(["a"], .directory), (["a", "b"], .directory), (["a", "c"], .directory)] }
  directory := ["a", "b"]

/-- A path goes up from the working directory and down to the other one, where the log is then opened. -/
theorem besides_opened :
    Targets "../c/./x.log" besides.directory { location := ["a", "c", "x.jsonl"] } ∧
      ∃ file, besides.Opened "first" file { location := ["a", "c", "x.jsonl"] }
        (besides.step "1" (.openLogger "first" "../c/./x.log")).2 := by
  have htargets : Targets "../c/./x.log" besides.directory { location := ["a", "c", "x.jsonl"] } := by
    refine targets_iff.2 ⟨(Path.parse "../c/./x.jsonl"), ?_, ?_⟩ <;> decide +kernel
  obtain ⟨hopens, hopened, -⟩ := handlers_le_one_and_opening_exact.2 besides "1" "first" "../c/./x.log"
  have htolerated : Address.Tolerated { location := ["a", "c", "x.jsonl"] } := by decide +kernel
  obtain ⟨file, hfile⟩ := hopens.2 ⟨_, htargets, htolerated, by decide +kernel, by decide +kernel⟩
  obtain ⟨address, haddress, hafter⟩ := hopened file hfile
  rw [haddress.unique htargets] at hafter
  exact ⟨htargets, file, hafter⟩

end Session

end AccessScopes
