import AccessScopes.Files.Route
import AccessScopes.Files.Tree

/-!
# Walks through a tree

What can be done in a tree by naming a path from a working directory. The route of the path is
followed hop by hop, and the first hop that leads to no directory decides the refusal. What the last
hop asks for is then done at the place that it names.
-/

namespace AccessScopes.Files.Tree

/-- The directory that a hop leads to. -/
def hop (tree : Tree) (directory : Location) : Hop → Except Refusal Location
  | .here => .ok directory
  | .up => .ok directory.dropLast
  | .into name =>
    match tree.directoryProblem? (directory ++ [name]) with
    | some problem => .error problem
    | none => .ok (directory ++ [name])

/-- The directory that hops lead to, one after another. -/
def follow (tree : Tree) (directory : Location) : List Hop → Except Refusal Location
  | [] => .ok directory
  | first :: rest =>
    match tree.hop directory first with
    | .error refusal => .error refusal
    | .ok next => tree.follow next rest

/-- The place that a path names in the directory it leads to, and whether a slash follows the name. A
path that ends in no name is refused as given. -/
def entry (tree : Tree) (directory : Location) (path : String) (unnamed : Refusal) :
    Except Refusal (Location × Bool) :=
  match Route.ofPath path with
  | .error refusal => .error refusal
  | .ok route =>
    match tree.follow (route.start directory) route.hops.dropLast with
    | .error refusal => .error refusal
    | .ok parent =>
      match route.hops.getLast? with
      | some (.into name) => .ok (parent ++ [name], route.slashed)
      | _ => .error unnamed

/-- The directory that a path names. -/
def enter (tree : Tree) (directory : Location) (path : String) : Except Refusal Location :=
  match Route.ofPath path with
  | .error refusal => .error refusal
  | .ok route => tree.follow (route.start directory) route.hops

/-- Writes the file that a path names; a slash after the name asks for a directory. -/
def writeAt (tree : Tree) (directory : Location) (path text : String) : Except Refusal Tree :=
  match tree.entry directory path .isDirectory with
  | .error refusal => .error refusal
  | .ok (location, slashed) => if slashed then .error .isDirectory else tree.write location text

/-- Removes the file that a path names, and returns its place. -/
def removeAt (tree : Tree) (directory : Location) (path : String) : Except Refusal (Location × Tree) :=
  match tree.entry directory path .isDirectory with
  | .error refusal => .error refusal
  | .ok (location, slashed) =>
    if slashed && tree.isFile location then .error .notDirectory
    else (tree.remove location).map (location, ·)

/-- Makes the directory that a path names. -/
def makeDirectoryAt (tree : Tree) (directory : Location) (path : String) : Except Refusal Tree :=
  match tree.entry directory path .alreadyThere with
  | .error refusal => .error refusal
  | .ok (location, _) => tree.makeDirectory location

/-! ### By absolute paths -/

/-- Makes sure that a file is there. -/
def touchAt (tree : Tree) (address : Address) : Except Refusal Tree :=
  match pathProblem? address.path with
  | some refusal => .error refusal
  | none => tree.touch address.location

/-- Whether something is found at an address. -/
def exists? (tree : Tree) (address : Address) : Bool :=
  (pathProblem? address.path).isNone && (tree.node? address.location).isSome

/-- Takes away the file at an address. -/
def takeAway (tree : Tree) (address : Address) : Except Refusal Tree :=
  match pathProblem? address.path with
  | some refusal => .error refusal
  | none => tree.remove address.location

/-- Moves the file at an address, if it is there, to another where nothing is. It is as old there as it was. -/
def move (tree : Tree) (source target : Address) : Except Refusal Tree :=
  match tree.text? source.location with
  | none => .ok tree
  | some text =>
    match (pathProblem? target.path).or (tree.problem? target.location) with
    | some refusal => .error refusal
    | none =>
      let moved := (tree.erase source.location).put target.location (.file text)
      match tree.lastDay? source.location with
      | none => .ok moved
      | some day => .ok { moved with aged := moved.aged.insert target.location day }

theorem touchAt_eq_ok_iff {tree after : Tree} {address : Address} :
    tree.touchAt address = .ok after ↔
      pathProblem? address.path = none ∧ tree.touch address.location = .ok after := by
  unfold touchAt
  cases pathProblem? address.path <;> simp

end AccessScopes.Files.Tree
