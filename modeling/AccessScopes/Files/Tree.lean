import AccessScopes.Audit.Time
import AccessScopes.Files.Path
import AccessScopes.Files.Refusal
import AccessScopes.Table

/-!
# File trees

A tree says what is found at each place: nothing, a directory, or a file with its text. The root is
always a directory. A tree also knows of the files that were not written today when they were last
written. Operations refuse for the reason that comes first on the way to the place.
-/

namespace AccessScopes.Files

inductive Node
  | directory
  | file (text : String)
  deriving DecidableEq

/-- What lies below the root, and the days of files that were last written on a day that is over. -/
structure Tree where
  nodes : Table Location Node := ∅
  aged : Table Location CalendarDay := ∅
  deriving DecidableEq

/-- The directories on the way from a place to the root, nearest first, without the place itself. -/
def above (location : Location) : List Location :=
  (List.range location.length).reverse.map location.take

namespace Tree

/-- What is found at a place. -/
def node? (tree : Tree) (location : Location) : Option Node :=
  if location = [] then some .directory else tree.nodes.get? location

/-- The text of the file at a place. -/
def text? (tree : Tree) (location : Location) : Option String :=
  match tree.node? location with
  | some (.file text) => some text
  | _ => none

def isDirectory (tree : Tree) (location : Location) : Bool :=
  tree.node? location = some .directory

def isFile (tree : Tree) (location : Location) : Bool :=
  (tree.text? location).isSome

/-- The day on which the file at a place was last written, if there is one and that day is over. -/
def lastDay? (tree : Tree) (location : Location) : Option CalendarDay :=
  if tree.isFile location then tree.aged.get? location else none

/-- Every file with its place. -/
def files (tree : Tree) : List (Location × String) :=
  tree.nodes.entries.filterMap fun entry => (tree.text? entry.1).map (entry.1, ·)

/-- The text of the file at a place, if a path from the root can name the place. -/
def namedText? (tree : Tree) (location : Location) : Option String :=
  match pathProblem? location.path with
  | some _ => none
  | none => tree.text? location

/-- The text of the file of a given name in the nearest directory that has one, from a directory
upwards. Files that no path from the root can name do not count. -/
def nearest? (tree : Tree) (directory : Location) (name : String) : Option String :=
  (directory :: above directory).findSome? fun place => tree.namedText? (place ++ [name])

/-! ### Changes -/

/-- Why a place is no directory, if it is none. -/
def directoryProblem? (tree : Tree) (location : Location) : Option Refusal :=
  match tree.node? location with
  | some .directory => none
  | some (.file _) => some .notDirectory
  | none => some (if location.getLast?.all fits then .missing else .nameTooLong)

/-- Why no directory is there to hold a place, if none is: what is met first on the way from the
root. -/
def parentProblem? (tree : Tree) (location : Location) : Option Refusal :=
  if tree.isDirectory location.dropLast then none
  else some (((above location).reverse.findSome? tree.directoryProblem?).getD .missing)

/-- Why nothing can lie at a place, if nothing can. -/
def problem? (tree : Tree) (location : Location) : Option Refusal :=
  match tree.parentProblem? location with
  | some problem => some problem
  | none => if location.getLast?.all fits then none else some .nameTooLong

/-- Puts a node at a place that a directory can hold. -/
def put (tree : Tree) (location : Location) (node : Node) : Tree where
  nodes := tree.nodes.insert location node
  aged := tree.aged.erase location

/-- Takes away what is at a place. -/
def erase (tree : Tree) (location : Location) : Tree where
  nodes := tree.nodes.erase location
  aged := tree.aged.erase location

/-- Writes a file, over what it held before. -/
def write (tree : Tree) (location : Location) (text : String) : Except Refusal Tree :=
  match tree.problem? location with
  | some problem => .error problem
  | none => if tree.isDirectory location then .error .isDirectory else .ok (tree.put location (.file text))

/-- The tree with a file at a place: the one that is there, or an empty one. -/
def withFile (tree : Tree) (location : Location) : Tree :=
  if tree.isFile location then tree else tree.put location (.file "")

/-- Makes sure that a file is there, and leaves one that is as it is. -/
def touch (tree : Tree) (location : Location) : Except Refusal Tree :=
  (tree.write location "").map fun _ => tree.withFile location

/-- Adds text at the end of a file, if it is there. -/
def append (tree : Tree) (location : Location) (text : String) : Tree :=
  match tree.text? location with
  | none => tree
  | some before => tree.put location (.file (before ++ text))

/-- Removes a file. -/
def remove (tree : Tree) (location : Location) : Except Refusal Tree :=
  match tree.node? location with
  | none => .error ((tree.problem? location).getD .missing)
  | some .directory => .error .isDirectory
  | some (.file _) => .ok (tree.erase location)

/-- Makes a directory where nothing is. -/
def makeDirectory (tree : Tree) (location : Location) : Except Refusal Tree :=
  match tree.node? location with
  | some _ => .error .alreadyThere
  | none =>
    match tree.problem? location with
    | some problem => .error problem
    | none => .ok (tree.put location .directory)

/-- The tree once a day is over: a file that was written then is so no longer today. -/
def age (tree : Tree) (day : CalendarDay) : Tree :=
  { tree with aged := .ofList (tree.files.map fun file => (file.1, (tree.lastDay? file.1).getD day)) }

/-- The tree in which a directory and the directories above it are all there is. -/
def ofDirectory (location : Location) : Tree :=
  { nodes := .ofList ((location :: above location).reverse.map (·, .directory)) }

/-! ### What is found after a change -/

theorem node?_put {tree : Tree} {location : Location} (hne : location ≠ []) (node : Node) (other : Location) :
    (tree.put location node).node? other = if other = location then some node else tree.node? other := by
  by_cases hroot : other = []
  · subst hroot
    simp [node?, hne.symm]
  · simp [node?, put, hroot, Table.get?_insert]

theorem text?_put_file {tree : Tree} {location : Location} (hne : location ≠ []) (text : String)
    (other : Location) :
    (tree.put location (.file text)).text? other = if other = location then some text else tree.text? other := by
  rw [text?, node?_put hne]
  by_cases hother : other = location
  · simp [hother]
  · simp [hother, text?]

theorem ne_nil_of_text? {tree : Tree} {location : Location} {text : String}
    (htext : tree.text? location = some text) : location ≠ [] := by
  rintro rfl
  simp [text?, node?] at htext

/-- Adding text changes the one file, by what is added at its end. -/
theorem text?_append (tree : Tree) (location : Location) (text : String) (other : Location) :
    (tree.append location text).text? other =
      if other = location then (tree.text? location).map (· ++ text) else tree.text? other := by
  unfold append
  cases htext : tree.text? location with
  | none =>
    by_cases hother : other = location
    · simp [hother, htext]
    · simp [hother]
  | some before => rw [text?_put_file (ne_nil_of_text? htext), Option.map_some]

theorem parentProblem?_eq_none_iff {tree : Tree} {location : Location} :
    tree.parentProblem? location = none ↔ tree.isDirectory location.dropLast = true := by
  unfold parentProblem?
  split <;> simp_all

/-- Something can lie at a place exactly where a directory holds the place and its name fits. -/
theorem problem?_eq_none_iff {tree : Tree} {location : Location} :
    tree.problem? location = none ↔
      tree.isDirectory location.dropLast = true ∧ location.getLast?.all fits = true := by
  unfold problem?
  cases hparent : tree.parentProblem? location with
  | none => simp [parentProblem?_eq_none_iff.1 hparent]
  | some problem =>
    have hno : ¬ tree.isDirectory location.dropLast = true := fun h => by
      simp [parentProblem?_eq_none_iff.2 h] at hparent
    simp [hno]

/-- A file can be written exactly where a directory holds the place, its name fits and no directory
is in it. -/
theorem write_eq_ok_iff {tree after : Tree} {location : Location} {text : String} :
    tree.write location text = .ok after ↔
      tree.isDirectory location.dropLast = true ∧ location.getLast?.all fits = true ∧
        tree.isDirectory location = false ∧ after = tree.put location (.file text) := by
  unfold write
  cases hproblem : tree.problem? location with
  | none =>
    obtain ⟨hparent, hfits⟩ := problem?_eq_none_iff.1 hproblem
    by_cases hdirectory : tree.isDirectory location = true
    · simp [hdirectory]
    · simp [hparent, hfits, hdirectory, eq_comm]
  | some problem =>
    have hno : ¬ (tree.isDirectory location.dropLast = true ∧ location.getLast?.all fits = true) := fun h => by
      simp [problem?_eq_none_iff.2 h] at hproblem
    simp only [reduceCtorEq, false_iff]
    exact fun h => hno ⟨h.1, h.2.1⟩

theorem ne_nil_of_write {tree after : Tree} {location : Location} {text : String}
    (hwrite : tree.write location text = .ok after) : location ≠ [] := by
  rintro rfl
  have hdirectory := (write_eq_ok_iff.1 hwrite).2.2.1
  simp [isDirectory, node?] at hdirectory

theorem text?_write {tree after : Tree} {location : Location} {text : String}
    (hwrite : tree.write location text = .ok after) (other : Location) :
    after.text? other = if other = location then some text else tree.text? other := by
  rw [(write_eq_ok_iff.1 hwrite).2.2.2, text?_put_file (ne_nil_of_write hwrite)]

/-- A file can be made sure of exactly where one can be written. -/
theorem touch_eq_ok_iff {tree after : Tree} {location : Location} :
    tree.touch location = .ok after ↔
      tree.isDirectory location.dropLast = true ∧ location.getLast?.all fits = true ∧
        tree.isDirectory location = false ∧ after = tree.withFile location := by
  unfold touch
  cases hwrite : tree.write location "" with
  | error refusal =>
    refine iff_of_false (by simp [Except.map]) ?_
    intro h
    obtain ⟨hheld, hfits, hfree, -⟩ := h
    rw [write_eq_ok_iff.2 ⟨hheld, hfits, hfree, rfl⟩] at hwrite
    cases hwrite
  | ok written =>
    obtain ⟨hheld, hfits, hfree, -⟩ := write_eq_ok_iff.1 hwrite
    simp [Except.map, hheld, hfits, hfree, eq_comm]

/-- Making sure that a file is there changes no text, and leaves an empty file where none was. -/
theorem text?_withFile {tree : Tree} {location : Location} (hne : location ≠ []) (other : Location) :
    (tree.withFile location).text? other =
      if other = location then some ((tree.text? location).getD "") else tree.text? other := by
  unfold withFile
  split
  · rename_i hfile
    obtain ⟨text, htext⟩ := Option.isSome_iff_exists.1 hfile
    by_cases hother : other = location
    · simp [hother, htext]
    · simp [hother]
  · rename_i hfile
    rw [text?_put_file hne]
    have hnone : tree.text? location = none := by simpa [isFile] using hfile
    simp [hnone]

end Tree

end AccessScopes.Files
