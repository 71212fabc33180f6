import AccessScopes.Files.Path
import AccessScopes.Files.Refusal

/-!
# Routes

A path as the system takes it: one hop after another from the root or from the working directory.
Unlike a log path it is not simplified beforehand, so every component before the last must lead to a
directory, `.` and `..` included, and it matters whether a slash follows the last one.
-/

namespace AccessScopes.Files

/-- What a component of a path asks for. -/
inductive Hop
  | here
  | up
  | into (name : String)
  deriving DecidableEq

structure Route where
  fromRoot : Bool
  hops : List Hop
  slashed : Bool
  deriving DecidableEq

namespace Hop

/-- The hop that a component asks for. -/
def ofName (name : String) : Hop :=
  if name = "." then here else if name = ".." then up else into name

end Hop

namespace Route

/-- The route of a path, however long it is. -/
def ofChars (path : List Char) : Route where
  fromRoot := path.head? = some '/'
  hops := ((path.splitOn '/').filter (· ≠ [])).map fun name => .ofName (.ofList name)
  slashed := path.getLast? = some '/'

/-- The route of a path, if the path is not refused out of hand. -/
def ofPath (path : String) : Except Refusal Route :=
  match pathProblem? path with
  | some refusal => .error refusal
  | none => .ok (ofChars path.toList)

/-- The directory where a route starts. -/
def start (route : Route) (directory : Location) : Location :=
  if route.fromRoot then [] else directory

end Route

end AccessScopes.Files
