import AccessScopes.Proofs.CommandLine.Agreement
import AccessScopes.Session.Step

/-!
# Where records belong

The place of the file to which each record of a session belongs, said of what happened before it and
never of the log that the session has open. The loggers share one log: what any of them records belongs
to the log of the latest opening, as long as nothing ended that log since. A run of the command that
audits records in a log of its own, which ends the shared one.
-/

namespace AccessScopes

open Files

/-- A step that was taken, with the session and the time it was taken in. -/
structure Event where
  before : Session
  time : String
  step : Step

/-- The events of a run in order. -/
def Session.history (session : Session) : List (String × Step) → List Event
  | [] => []
  | (time, step) :: rest => ⟨session, time, step⟩ :: (session.step time step).2.history rest

/-- What can happen to the shared log. -/
inductive Turn
  | opens (location : Location)
  | ends
  deriving DecidableEq

namespace Event

def outcome (event : Event) : Outcome :=
  (event.before.step event.time event.step).1

def after (event : Event) : Session :=
  (event.before.step event.time event.step).2

/-- The configuration under which a run of the command starts a log of its own, if it gets that far. -/
def auditConfig? (session : Session) (arguments : List String) : Option Config :=
  if arguments ≠ [] ∧ session.loadEnvironment.1.isOk ∧ session.loadEnvironment.2.config.audit then
    some session.loadEnvironment.2.config
  else none

/-- What an event does to the shared log, if anything. An opening that fails has closed the log. -/
def turn? (event : Event) : Option Turn :=
  match event.step with
  | .openLogger _ _ =>
    match event.outcome with
    | .opened file => some (.opens (file.resolve event.before.directory))
    | _ => some .ends
  | .close _ => if event.outcome = .done then some .ends else none
  | .command arguments => if (auditConfig? event.before arguments).isSome then some .ends else none
  | _ => none

/-- The place of the shared log after past events, the latest of them first. -/
def target (past : List Event) : Option Location :=
  match past.findSome? turn? with
  | some (.opens location) => some location
  | _ => none

/-- There is a shared log exactly if it was opened and nothing happened to it since. -/
theorem target_eq_some_iff {past : List Event} {location : Location} :
    target past = some location ↔ ∃ since opening earlier, past = since ++ opening :: earlier ∧
      opening.turn? = some (.opens location) ∧ ∀ event ∈ since, event.turn? = none := by
  rw [← List.findSome?_eq_some_iff, target]
  split <;> simp_all

/-! ### Records -/

/-- The decisions of a run of the command, with the place of the log that it opens for them. -/
def audits (event : Event) (arguments : List String) : List (Location × Record) :=
  match auditConfig? event.before arguments with
  | none => []
  | some config =>
    match (Path.parse config.logPath).logFile with
    | .error _ => []
    | .ok file => (CommandLine.decisions config.checker event.time arguments).map fun decision =>
      (file.resolve event.before.directory, .decision decision)

/-- The records that an event makes, each with the place where it belongs, given the place of the
shared log. What is recorded without a log belongs nowhere. -/
def deliveries (event : Event) (shared : Option Location) : List (Location × Record) :=
  match event.step with
  | .decision _ scope allowed =>
    if event.outcome = .done then
      shared.toList.map (·, .decision { time := event.time, scope, allowed })
    else []
  | .message _ level text =>
    if event.outcome = .done ∧ level ≠ .debug then shared.toList.map (·, .message text) else []
  | .command arguments =>
    match event.outcome with
    | .reported _ => event.audits arguments
    | _ => []
  | _ => []

/-- The records of events in order, each with the place where it belongs, after past events, the
latest of them first. -/
def routed (past : List Event) : List Event → List (Location × Record)
  | [] => []
  | event :: rest => event.deliveries (target past) ++ routed (event :: past) rest

/-- The records that belong to a place. -/
def recordsAt (location : Location) (records : List (Location × Record)) : List Record :=
  (records.filter (·.1 = location)).map Prod.snd

/-! ### The end of a day -/

/-- The file of the open log is put aside before anything is added to it. -/
def rotationDue (session : Session) : Bool :=
  session.log.any fun log => (log.rotation? session.tree).isSome

/-- A record is made for a log whose file is put aside before, because its day is over. -/
def rotates (event : Event) : Bool :=
  match event.step, event.outcome with
  | .decision _ _ _, .done => rotationDue event.before
  | .message _ level _, .done => level ≠ .debug && rotationDue event.before
  | .command arguments, .reported _ =>
    (auditConfig? event.before arguments).any fun config =>
      (Path.parse config.logPath).logFile.toOption.any fun file =>
        ¬ event.before.tree.Current (file.address event.before.directory)
  | _, _ => false

/-! ### Changes from outside -/

/-- The place that was written or removed from outside. -/
def touched? (event : Event) : Option Location :=
  match event.step with
  | .write path _ | .remove path =>
    if event.outcome = .done then
      (event.before.tree.entry event.before.directory path .isDirectory).toOption.map Prod.fst
    else none
  | _ => none

end Event

end AccessScopes
