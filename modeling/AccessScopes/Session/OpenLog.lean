import AccessScopes.Audit.Record
import AccessScopes.Files.Backup

/-!
# Open logs

A log that is open is tied to the file at its address. If that file is removed, what is added to the log is
lost, also when a new file takes its place. A log is for one day: when the day of its file is over, the next
record first puts the file aside as the backup of that day and starts a new one. If a backup of the day is there
already, the file stays where it is. If the system refuses to make room, the record is lost and the log is left
without a file, which the next record opens again.
-/

namespace AccessScopes

open Files

/-- What an open log writes to: the file at its address, a file that was removed, or nothing. -/
inductive Stream
  | linked
  | unlinked
  | closed
  deriving DecidableEq

/-- An open audit log: the address of its file, what it writes to, and the day of its file if that is over. -/
structure OpenLog extends Address where
  stream : Stream := .linked
  due? : Option CalendarDay := none
  deriving DecidableEq

namespace OpenLog

/-- The log when the file at a place is removed. -/
def cut (log : OpenLog) (place : Location) : OpenLog :=
  if log.stream = .linked ∧ log.location = place then { log with stream := .unlinked } else log

/-- The log when a day is over. -/
def age (log : OpenLog) (day : CalendarDay) : OpenLog :=
  { log with due? := log.due?.or (some day) }

/-- Adds text at the end of the file of a log, which is opened again if the log writes to nothing. -/
def emit (log : OpenLog) (tree : Tree) (text : String) : Tree × OpenLog :=
  match log.stream with
  | .linked => (tree.append log.location text, log)
  | .unlinked => (tree, log)
  | .closed =>
    match tree.touchAt log.toAddress with
    | .error _ => (tree, log)
    | .ok after => (after.append log.location text, { log with stream := .linked })

/-- The day for which the file of a log is put aside before anything is added to it, if it is. -/
def rotation? (log : OpenLog) (tree : Tree) : Option CalendarDay :=
  log.due?.filter fun day => !tree.isDirectory log.location && !tree.exists? (log.backup day)

/-- Adds text to a log, in a new file if the day of the old one is over. -/
def add (log : OpenLog) (tree : Tree) (text : String) : Tree × OpenLog :=
  match log.rotation? tree with
  | none => log.emit tree text
  | some day =>
    match tree.rotate log.toAddress day with
    | (.error _, left) => (left, { log with stream := .closed })
    | (.ok _, fresh) => { log with stream := .linked, due? := none }.emit fresh text

end OpenLog

end AccessScopes
