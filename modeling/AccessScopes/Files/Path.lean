import AccessScopes.Text.Quoted

/-!
# Paths

A path is a number of leading slashes and a list of components. Empty components and `.` do not
count, and `..` is kept until a path is resolved against a directory. Two leading slashes stay two,
and any other number of them is one. The module also says which file a log path names: the last
component gives up its suffix for `.jsonl`.
-/

namespace AccessScopes.Files

/-- A place in a file tree: the names on the way to it from the root. -/
abbrev Location := List String

def Location.path (location : Location) : String :=
  "/" ++ "/".intercalate location

/-- A place as an absolute path names it. Two slashes in front of the path stay two. -/
structure Address where
  location : Location
  doubled : Bool := false
  deriving DecidableEq

def Address.path (address : Address) : String :=
  (if address.doubled then "/" else "") ++ address.location.path

/-- The slashes that a path starts with. -/
inductive Anchor
  | relative
  | slash
  | twoSlashes
  deriving DecidableEq

structure Path where
  anchor : Anchor
  components : List String
  deriving DecidableEq

/-- The refusal to form a file name from a path without components. -/
structure EmptyName where
  path : Path
  deriving DecidableEq

namespace Anchor

/-- The anchor of a text, by the number of its leading slashes. -/
def ofChars (text : List Char) : Anchor :=
  match (text.takeWhile (· = '/')).length with
  | 0 => relative
  | 2 => twoSlashes
  | _ => slash

def render : Anchor → String
  | relative => ""
  | slash => "/"
  | twoSlashes => "//"

end Anchor

namespace Path

def parse (text : String) : Path where
  anchor := .ofChars text.toList
  components := ((text.toList.splitOn '/').filter fun name => name ≠ [] && name ≠ ['.']).map String.ofList

/-- Writes a path; one without slashes and components is written as a dot. -/
def render (path : Path) : String :=
  match path.anchor, path.components with
  | .relative, [] => "."
  | anchor, components => anchor.render ++ "/".intercalate components

/-! ### Log files -/

/-- The characters of a name before its suffix, which starts at the last dot if that is neither the
first nor the last character. -/
def stem (name : List Char) : List Char :=
  match name.reverse.takeWhile (· ≠ '.'), name.reverse.dropWhile (· ≠ '.') with
  | _ :: _, _ :: c :: rest => (c :: rest).reverse
  | _, _ => name

def logSuffix : String := ".jsonl"

def logName (name : String) : String :=
  .ofList (stem name.toList) ++ logSuffix

def logFile (path : Path) : Except EmptyName Path :=
  match path.components.getLast? with
  | none => .error ⟨path⟩
  | some name => .ok { path with components := path.components.dropLast ++ [logName name] }

/-! ### Resolution -/

/-- The place reached from another by one component. -/
def descend (location : Location) (component : String) : Location :=
  if component = ".." then location.dropLast else location ++ [component]

/-- The place that a path names as seen from a directory. Each `..` goes up from the component before
it as written, whether or not that is there. -/
def resolve (path : Path) (directory : Location) : Location :=
  path.components.foldl descend (if path.anchor = .relative then directory else [])

/-- The address of the place that a path names as seen from a directory. -/
def address (path : Path) (directory : Location) : Address where
  location := path.resolve directory
  doubled := path.anchor = .twoSlashes

end Path

/-- What is said of a path without components. -/
def EmptyName.message (error : EmptyName) : String :=
  "PosixPath(" ++ Text.quote error.path.render ++ ") has an empty name"

end AccessScopes.Files
