import AccessScopes.Action
import AccessScopes.AllowLists
import AccessScopes.Audit.Decision
import AccessScopes.Audit.Record
import AccessScopes.Audit.Time
import AccessScopes.Checker
import AccessScopes.CommandLine
import AccessScopes.Config
import AccessScopes.Diagnostic
import AccessScopes.EnvFile.Assignment
import AccessScopes.EnvFile.Parser
import AccessScopes.EnvFile.Statement
import AccessScopes.EnvFile.Template
import AccessScopes.Environment
import AccessScopes.Files.Backup
import AccessScopes.Files.Path
import AccessScopes.Files.Refusal
import AccessScopes.Files.Route
import AccessScopes.Files.Tree
import AccessScopes.Files.Walk
import AccessScopes.Json.Literal
import AccessScopes.Json.Object
import AccessScopes.Main
import AccessScopes.Proofs.Audit.Decoding
import AccessScopes.Proofs.Audit.Framing
import AccessScopes.Proofs.Checker.Actions
import AccessScopes.Proofs.Checker.Conversation
import AccessScopes.Proofs.Checker.Decision
import AccessScopes.Proofs.Checker.Delegation
import AccessScopes.Proofs.Checker.Gate
import AccessScopes.Proofs.Checker.Isolation
import AccessScopes.Proofs.Checker.Messages
import AccessScopes.Proofs.Checker.Narrowing
import AccessScopes.Proofs.CommandLine.Agreement
import AccessScopes.Proofs.CommandLine.Failing
import AccessScopes.Proofs.CommandLine.Splitting
import AccessScopes.Proofs.Config.Items
import AccessScopes.Proofs.Config.Joining
import AccessScopes.Proofs.EnvFile.Loading
import AccessScopes.Proofs.EnvFile.Quoting
import AccessScopes.Proofs.EnvFile.Reloading
import AccessScopes.Proofs.EnvFile.Resolution
import AccessScopes.Proofs.Files.Backups
import AccessScopes.Proofs.Files.Contents
import AccessScopes.Proofs.Files.LogPath
import AccessScopes.Proofs.Files.Naming
import AccessScopes.Proofs.Files.Nearest
import AccessScopes.Proofs.Files.Obstacles
import AccessScopes.Proofs.Files.Spelling
import AccessScopes.Proofs.Files.Target
import AccessScopes.Proofs.Params.Effective
import AccessScopes.Proofs.Params.Merging
import AccessScopes.Proofs.Scope.Acceptance
import AccessScopes.Proofs.Scope.Classes
import AccessScopes.Proofs.Scope.Containment
import AccessScopes.Proofs.Scope.Equivalence
import AccessScopes.Proofs.Scope.RoundTrip
import AccessScopes.Proofs.Scope.Suffix
import AccessScopes.Proofs.Session.Confinement
import AccessScopes.Proofs.Session.Delivery
import AccessScopes.Proofs.Session.Grants
import AccessScopes.Proofs.Session.LifeCycle
import AccessScopes.Proofs.Session.Loading
import AccessScopes.Proofs.Session.LogFiles
import AccessScopes.Proofs.Session.Logging
import AccessScopes.Proofs.Session.Recording
import AccessScopes.Proofs.Session.Reloading
import AccessScopes.Proofs.Session.Routing
import AccessScopes.Proofs.Session.Turning
import AccessScopes.Proofs.Table.Entries
import AccessScopes.Proofs.Text.Pieces
import AccessScopes.Proofs.Text.Quotation
import AccessScopes.Scope.Basic
import AccessScopes.Scope.Coverage
import AccessScopes.Scope.Grammar
import AccessScopes.Scope.Params
import AccessScopes.Scope.Parser
import AccessScopes.Scope.Printer
import AccessScopes.Scope.WellFormed
import AccessScopes.Session.Basic
import AccessScopes.Session.OpenLog
import AccessScopes.Session.Step
import AccessScopes.Table
import AccessScopes.Text.Blank
import AccessScopes.Text.Hex
import AccessScopes.Text.Null
import AccessScopes.Text.Printable
import AccessScopes.Text.Quoted
import AccessScopes.Text.Split
import AccessScopes.Text.Utf16
