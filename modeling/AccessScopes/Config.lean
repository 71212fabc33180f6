import AccessScopes.Checker
import AccessScopes.Environment
import AccessScopes.Text.Blank

/-!
# Configuration

The settings of a run are read from five variables of the environment: three comma-separated lists,
the path of the audit log and the switch that turns auditing on. They depend on nothing else.
-/

namespace AccessScopes

structure Config where
  subjects : List String
  resources : List String
  grants : List String
  logPath : String
  audit : Bool
  deriving DecidableEq

namespace Config

def subjectsVariable : String := "GATELOCK_SUBJECTS"

def resourcesVariable : String := "GATELOCK_RESOURCES"

def grantsVariable : String := "GATELOCK_GRANTS"

def logPathVariable : String := "GATELOCK_LOG_PATH"

def auditVariable : String := "GATELOCK_AUDIT_ENABLED"

/-- The variables on which a configuration depends. -/
def settings : List String :=
  [subjectsVariable, resourcesVariable, grantsVariable, logPathVariable, auditVariable]

/-- The items of a comma-separated list, without the blanks around them and without empty ones. -/
def items (text : String) : List String :=
  (((text.toList.splitOn ',').map Text.strip).filter (· ≠ [])).map String.ofList

/-- Whether a switch is on: it says `true`, in whatever case. -/
def isOn (text : String) : Bool :=
  text.toList.map Char.toLower = "true".toList

def ofEnvironment (environment : Environment) : Config where
  subjects := items ((environment.get? subjectsVariable).getD "")
  resources := items ((environment.get? resourcesVariable).getD "")
  grants := items ((environment.get? grantsVariable).getD "")
  logPath := (environment.get? logPathVariable).getD "gatelock.log"
  audit := isOn ((environment.get? auditVariable).getD "false")

def lists (config : Config) : AllowLists :=
  { subjects := config.subjects, resources := config.resources }

def checker (config : Config) : Checker :=
  .ofGrants config.lists config.grants

end Config

end AccessScopes
