import BalancerImport.Text.Blank
import BalancerImport.Text.Case
import BalancerImport.Text.CaseTable
import BalancerImport.Text.InvisibleTable
import BalancerImport.Text.Moment
import BalancerImport.Text.Named
import BalancerImport.Text.Numeral
import BalancerImport.Text.Quoted
import BalancerImport.Text.WordTable
import BalancerImport.Json.Basic
import BalancerImport.Json.Decode
import BalancerImport.Json.Double
import BalancerImport.Json.Parser
import BalancerImport.Json.Printer
import BalancerImport.Json.Shape
import BalancerImport.Json.Skip
import BalancerImport.Uuid
import BalancerImport.Cloud.Json
import BalancerImport.Cloud.Kind
import BalancerImport.Cloud.Resource
import BalancerImport.Cloud.State
import BalancerImport.Ledger.Column
import BalancerImport.Ledger.Entry
import BalancerImport.Ledger.Json
import BalancerImport.Ledger.Kind
import BalancerImport.Ledger.Memory
import BalancerImport.Ledger.Real
import BalancerImport.Ledger.Tables
import BalancerImport.Ledger.Value
import BalancerImport.Lock.Coordinator
import BalancerImport.Lock.Store
import BalancerImport.Record.Backend
import BalancerImport.Record.Cell
import BalancerImport.Record.Importable
import BalancerImport.Record.Listener
import BalancerImport.Record.Sheet
import BalancerImport.Record.State
import BalancerImport.Check.BackendRules
import BalancerImport.Check.Balancers
import BalancerImport.Check.Duplicates
import BalancerImport.Check.Error
import BalancerImport.Check.ListenerRules
import BalancerImport.Check.Lookup
import BalancerImport.Check.Vendor
import BalancerImport.Flow.Chain
import BalancerImport.Flow.Engine
import BalancerImport.Flow.Queue
import BalancerImport.Flow.Task
import BalancerImport.Flow.Worker
import BalancerImport.Error
import BalancerImport.Plan.Backends
import BalancerImport.Plan.Basic
import BalancerImport.Plan.Batch
import BalancerImport.Plan.Listeners
import BalancerImport.Plan.Submission
import BalancerImport.Import.Desk
import BalancerImport.Import.Execution
import BalancerImport.Import.Service
import BalancerImport.Import.Settings
import BalancerImport.Import.Writing
import BalancerImport.Menu.EnvFile
import BalancerImport.Menu.Screen
import BalancerImport.Menu.Session
import BalancerImport.Menu.Startup
import BalancerImport.Main
import BalancerImport.Proofs.Fresh
import BalancerImport.Proofs.Lists
import BalancerImport.Proofs.Text.Joined
import BalancerImport.Proofs.Text.Numerals
import BalancerImport.Proofs.Text.Raised
import BalancerImport.Proofs.Text.Uuid
import BalancerImport.Proofs.Json.Texts
import BalancerImport.Proofs.Json.Documents
import BalancerImport.Proofs.Record.Parts
import BalancerImport.Proofs.Record.Rules
import BalancerImport.Proofs.Record.Cells
import BalancerImport.Proofs.Record.Ports
import BalancerImport.Proofs.Record.Ids
import BalancerImport.Proofs.Record.Joins
import BalancerImport.Proofs.Record.RoundTrip
import BalancerImport.Proofs.Record.Sheets
import BalancerImport.Proofs.Flow.Requests
import BalancerImport.Proofs.Flow.Ending
import BalancerImport.Proofs.Flow.Turns
import BalancerImport.Proofs.Flow.Visits
import BalancerImport.Proofs.Flow.Order
import BalancerImport.Proofs.Flow.History
import BalancerImport.Proofs.Flow.Chain
import BalancerImport.Proofs.Flow.Lines
import BalancerImport.Proofs.Flow.Tries
import BalancerImport.Proofs.Flow.Dependents
import BalancerImport.Proofs.Flow.Started
import BalancerImport.Proofs.Flow.Idle
import BalancerImport.Proofs.Lock.Requests
import BalancerImport.Proofs.Ledger.Requests
import BalancerImport.Proofs.Ledger.Rows
import BalancerImport.Proofs.Ledger.Mirror
import BalancerImport.Proofs.Ledger.Refinement
import BalancerImport.Proofs.Check.Length
import BalancerImport.Proofs.Check.Duplicates
import BalancerImport.Proofs.Check.Collisions
import BalancerImport.Proofs.Check.ListenerKeys
import BalancerImport.Proofs.Check.Comparison
import BalancerImport.Proofs.Check.Annotation
import BalancerImport.Proofs.Check.Caching
import BalancerImport.Proofs.Check.SharedListeners
import BalancerImport.Proofs.Check.Batch
import BalancerImport.Proofs.Check.Listeners
import BalancerImport.Proofs.Check.Queries
import BalancerImport.Proofs.Check.Resolution
import BalancerImport.Proofs.Check.Backends
import BalancerImport.Proofs.Check.Readiness
import BalancerImport.Proofs.Check.Explanation
import BalancerImport.Proofs.Check.Survival
import BalancerImport.Proofs.Plan.Grouping
import BalancerImport.Proofs.Plan.Compilation
import BalancerImport.Proofs.Plan.Numbering
import BalancerImport.Proofs.Plan.Batches
import BalancerImport.Proofs.Plan.Assignment
import BalancerImport.Proofs.Plan.Entries
import BalancerImport.Proofs.Plan.Success
import BalancerImport.Proofs.Plan.Payloads
import BalancerImport.Proofs.Plan.SharedGroups
import BalancerImport.Proofs.Plan.Launch
import BalancerImport.Proofs.Plan.Staging
import BalancerImport.Proofs.Plan.Submission
import BalancerImport.Proofs.Plan.Tracing
import BalancerImport.Proofs.Plan.Invariant
import BalancerImport.Proofs.Import.Extension
import BalancerImport.Proofs.Import.Writing
import BalancerImport.Proofs.Import.Restoring
import BalancerImport.Proofs.Import.Execution
import BalancerImport.Proofs.Import.Undoing
import BalancerImport.Proofs.Import.Phases
import BalancerImport.Proofs.Import.Busy
import BalancerImport.Proofs.Import.Unnoted
import BalancerImport.Proofs.Import.Agreement
import BalancerImport.Proofs.Import.Passes
import BalancerImport.Proofs.Import.Reachable
import BalancerImport.Proofs.Import.Stability
import BalancerImport.Proofs.Import.Keeping
import BalancerImport.Proofs.Lock.History
import BalancerImport.Proofs.Menu.Leaving
