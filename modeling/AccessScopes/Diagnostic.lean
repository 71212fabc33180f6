/-!
# Diagnostics

What the library tells whoever watches it work, apart from its answers. A diagnostic has a level and
a text, and is shown as one line that starts with the level in capitals.
-/

namespace AccessScopes

/-- How grave a message is, in increasing order. -/
inductive Level
  | debug
  | info
  | warning
  | error
  deriving DecidableEq

namespace Level

def name : Level → String
  | debug => "DEBUG"
  | info => "INFO"
  | warning => "WARNING"
  | error => "ERROR"

/-- Audit logs take messages from `info` on. -/
def isRecorded : Level → Bool
  | debug => false
  | _ => true

end Level

structure Diagnostic where
  level : Level
  text : String
  deriving DecidableEq

def Diagnostic.line (diagnostic : Diagnostic) : String :=
  diagnostic.level.name ++ " " ++ diagnostic.text

end AccessScopes
