import AccessScopes.Json.Object

/-!
# Audited decisions

A decision is audited as one line that holds a flat JSON object: what happened, when, the scope
asked for, and the verdict. The line is plain ASCII whatever the scope is, so a scope can neither
end its line nor begin another.
-/

namespace AccessScopes

/-- A verdict on a scope at a time. -/
structure Decision where
  time : String
  scope : String
  allowed : Bool
  deriving DecidableEq

namespace Decision

/-- The name of what happened. -/
def event (decision : Decision) : String :=
  if decision.allowed then "allow" else "deny"

/-- The members under which a decision is recorded. -/
def object (decision : Decision) : Json.Object :=
  [("event", .text decision.event),
   ("ts", .text decision.time),
   ("scope", .text decision.scope),
   ("allowed", .flag decision.allowed)]

/-- The record of a decision, without the end of the line. -/
def line (decision : Decision) : List Char :=
  decision.object.render

/-! ### Reading -/

/-- The decision recorded by an object, whose members must be the four of a decision and agree with
each other. -/
def ofObject? : Json.Object → Option Decision
  | [(eventName, .text event), (timeName, .text time), (scopeName, .text scope), (allowedName, .flag allowed)] =>
    let decision : Decision := { time, scope, allowed }
    if eventName = "event" ∧ timeName = "ts" ∧ scopeName = "scope" ∧ allowedName = "allowed" ∧
        event = decision.event then some decision
    else none
  | _ => none

def ofLine? (line : List Char) : Option Decision :=
  (Json.Object.parse? line).bind ofObject?

theorem ofObject?_object (decision : Decision) : ofObject? decision.object = some decision := by
  cases decision
  simp [ofObject?, object, event]

/-- The line of a decision is read as that decision. -/
theorem ofLine?_line (decision : Decision) : ofLine? decision.line = some decision := by
  rw [ofLine?, line, Json.Object.parse?_render, Option.bind_some, ofObject?_object]

/-- The line of a decision holds printable ASCII alone. -/
theorem isAscii_of_mem_line {decision : Decision} {c : Char} (hmem : c ∈ decision.line) :
    0x20 ≤ c.toNat ∧ c.toNat ≤ 0x7E :=
  Json.isAscii_of_mem_render hmem

/-- The decisions that a log records, if it consists of complete lines of decisions. -/
def ofLog? (log : String) : Option (List Decision) :=
  let lines := log.toList.splitOn '\n'
  if lines.getLast? = some [] then lines.dropLast.mapM ofLine? else none

end Decision

end AccessScopes
