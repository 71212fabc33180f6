import AccessScopes.EnvFile.Statement

/-!
# Environment files

An environment file is a sequence of statements with blanks and empty lines between them. Every text
is read to its end: what is no statement is passed over.
-/

namespace AccessScopes.EnvFile

open Text

/-- The text with each carriage return, alone or before a line feed, read as a line feed. -/
def unifyLineEnds : List Char → List Char
  | [] => []
  | [c] => if c = '\r' then ['\n'] else [c]
  | c :: d :: rest =>
    if c = '\r' then if d = '\n' then '\n' :: unifyLineEnds rest else '\n' :: unifyLineEnds (d :: rest)
    else c :: unifyLineEnds (d :: rest)

/-- The bindings of a text whose lines end in line feeds, in order. -/
def statements (text : List Char) : List Binding :=
  match hstart : text.dropWhile isBlank with
  | [] => []
  | c :: rest =>
    have := hstart ▸ length_dropWhile_le isBlank text
    have := length_nextStatement_lt (List.cons_ne_nil c rest)
    (nextStatement (c :: rest)).1.toList ++ statements (nextStatement (c :: rest)).2
termination_by text.length
decreasing_by omega

def bindings (text : String) : List Binding :=
  statements (unifyLineEnds text.toList)

end AccessScopes.EnvFile
