import AccessScopes.Files.Walk

/-!
# Backups

A file may be put aside, next to where it is, under its name followed by a dot and a day, to make way for a new
one. Of the backups of a file the latest seven are kept. Names are compared as they are written, so every name
that goes on with something like a date counts as that of a backup, whatever it was made for.
-/

namespace AccessScopes.Files

/-- Whether a text is written like a day: four digits, two and two, with hyphens between them. -/
def isDate : List Char → Bool
  | [a, b, c, d, '-', e, f, '-', g, h] => [a, b, c, d, e, f, g, h].all Char.isDigit
  | _ => false

/-- Whether the second place is named like a backup of the first. -/
def isBackup (location place : Location) : Bool :=
  match location.getLast?, place.getLast? with
  | some name, some other =>
    place.dropLast = location.dropLast && ((name.toList ++ ['.']).isPrefixOf? other.toList).any isDate
  | _, _ => false

/-- The address at which a file is put aside for a day. -/
def Address.backup (address : Address) (day : CalendarDay) : Address :=
  { address with
    location := address.location.dropLast ++ [address.location.getLast?.getD "" ++ "." ++ day.render] }

/-- The number of backups that are kept. -/
def backupLimit : Nat := 7

namespace Tree

/-- The places named like backups of a file at which something is. -/
def backups (tree : Tree) (location : Location) : List Location :=
  tree.nodes.keys.filter (isBackup location)

/-- The backups that are too many, those of the earliest days first. -/
def spentBackups (tree : Tree) (location : Location) : List Location :=
  ((tree.backups location).mergeSort fun place other => place.path ≤ other.path).take
    ((tree.backups location).length - backupLimit)

/-- Takes away files one after another. -/
def takeAwayAll (tree : Tree) : List Address → Except Refusal Unit × Tree
  | [] => (.ok (), tree)
  | address :: rest =>
    match tree.takeAway address with
    | .error refusal => (.error refusal, tree)
    | .ok after => after.takeAwayAll rest

/-- Starts a file anew: puts it aside for a day, takes away the backups that are too many, and makes an empty
file. What was done before a refusal stays done. -/
def rotate (tree : Tree) (address : Address) (day : CalendarDay) : Except Refusal Unit × Tree :=
  match tree.move address (address.backup day) with
  | .error refusal => (.error refusal, tree)
  | .ok moved =>
    match moved.takeAwayAll ((moved.spentBackups address.location).map ({ address with location := · })) with
    | (.error refusal, left) => (.error refusal, left)
    | (.ok _, left) =>
      match left.touchAt address with
      | .error refusal => (.error refusal, left)
      | .ok fresh => (.ok (), fresh)

end Tree

end AccessScopes.Files
