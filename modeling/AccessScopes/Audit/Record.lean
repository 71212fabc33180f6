import AccessScopes.Audit.Decision

/-!
# Audit records

What one call adds to an audit log: a decision or a plain message. Each record ends in a line feed.
A message is kept as it is, so one that holds line feeds takes several lines.
-/

namespace AccessScopes

inductive Record
  | decision (decision : Decision)
  | message (text : String)
  deriving DecidableEq

/-- The text that a record adds to a log. -/
def Record.text : Record → String
  | .decision verdict => .ofList (verdict.line ++ ['\n'])
  | .message text => text ++ "\n"

end AccessScopes
