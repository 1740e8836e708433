import CodeAtlas.Binary.Codec
import CodeAtlas.Build.Analysis
import CodeAtlas.Build.Collaborators
import CodeAtlas.Build.Control
import CodeAtlas.Build.Event
import CodeAtlas.Build.Fault
import CodeAtlas.Build.Indexing
import CodeAtlas.Build.Invocation
import CodeAtlas.Build.Pass
import CodeAtlas.Build.Plan
import CodeAtlas.Build.Queue
import CodeAtlas.Bytes.Basic
import CodeAtlas.Cache.Location
import CodeAtlas.Cache.Store
import CodeAtlas.Command.Basic
import CodeAtlas.Command.Runner
import CodeAtlas.Config.Basic
import CodeAtlas.Decimal.Reading
import CodeAtlas.Decimal.Writing
import CodeAtlas.Diagnostic
import CodeAtlas.Digest.Fingerprint
import CodeAtlas.Digest.Sha256
import CodeAtlas.Disk.Basic
import CodeAtlas.Disk.File
import CodeAtlas.Index.Basic
import CodeAtlas.Index.Lowering
import CodeAtlas.Index.Record
import CodeAtlas.Index.View
import CodeAtlas.Json.Basic
import CodeAtlas.Json.Decode
import CodeAtlas.Json.Reader
import CodeAtlas.Json.Writer
import CodeAtlas.Log.Field
import CodeAtlas.Log.Filter
import CodeAtlas.Log.Pattern
import CodeAtlas.Ordered.KeySet
import CodeAtlas.Ordered.Sorting
import CodeAtlas.Ordered.Table
import CodeAtlas.Overlay.Basic
import CodeAtlas.Overlay.Buffer
import CodeAtlas.Path.Basic
import CodeAtlas.Project.Dirty
import CodeAtlas.Project.Graph
import CodeAtlas.Project.Json
import CodeAtlas.Project.Model
import CodeAtlas.Proofs.Binary.Canonical
import CodeAtlas.Proofs.Binary.Codec
import CodeAtlas.Proofs.Build.Accounts
import CodeAtlas.Proofs.Build.Artifacts
import CodeAtlas.Proofs.Build.Conduct
import CodeAtlas.Proofs.Build.Course.Ending
import CodeAtlas.Proofs.Build.Course.Journal
import CodeAtlas.Proofs.Build.Course.Order
import CodeAtlas.Proofs.Build.Course.Queue
import CodeAtlas.Proofs.Build.Course.Steps
import CodeAtlas.Proofs.Build.Current
import CodeAtlas.Proofs.Build.Dependencies
import CodeAtlas.Proofs.Build.Edits
import CodeAtlas.Proofs.Build.Fields
import CodeAtlas.Proofs.Build.Halting
import CodeAtlas.Proofs.Build.Indexing
import CodeAtlas.Proofs.Build.Isolation
import CodeAtlas.Proofs.Build.Journal
import CodeAtlas.Proofs.Build.Pass
import CodeAtlas.Proofs.Build.Phases
import CodeAtlas.Proofs.Build.Plan
import CodeAtlas.Proofs.Build.Prebuild
import CodeAtlas.Proofs.Build.Preemption
import CodeAtlas.Proofs.Build.Promises
import CodeAtlas.Proofs.Build.Readable
import CodeAtlas.Proofs.Build.Reuse
import CodeAtlas.Proofs.Build.Routing
import CodeAtlas.Proofs.Build.Sessions
import CodeAtlas.Proofs.Build.Shape
import CodeAtlas.Proofs.Build.Simulation
import CodeAtlas.Proofs.Build.System
import CodeAtlas.Proofs.Bytes.Basic
import CodeAtlas.Proofs.Cache.Site
import CodeAtlas.Proofs.Cache.Slots
import CodeAtlas.Proofs.Cache.Store
import CodeAtlas.Proofs.Command.Runner
import CodeAtlas.Proofs.Config.Redaction
import CodeAtlas.Proofs.Digest.Fingerprint
import CodeAtlas.Proofs.Index.Agreement
import CodeAtlas.Proofs.Index.Diagnostics
import CodeAtlas.Proofs.Index.History
import CodeAtlas.Proofs.Index.Holders
import CodeAtlas.Proofs.Index.Identifiers
import CodeAtlas.Proofs.Index.Independence
import CodeAtlas.Proofs.Index.Listing
import CodeAtlas.Proofs.Index.Lowering
import CodeAtlas.Proofs.Index.Navigation
import CodeAtlas.Proofs.Index.References
import CodeAtlas.Proofs.Index.Renaming
import CodeAtlas.Proofs.Index.Replacement
import CodeAtlas.Proofs.Index.Search
import CodeAtlas.Proofs.Index.Sites
import CodeAtlas.Proofs.Index.WellFormed
import CodeAtlas.Proofs.Json.Format
import CodeAtlas.Proofs.Json.Reading
import CodeAtlas.Proofs.Ordered.KeySet
import CodeAtlas.Proofs.Ordered.Sorting
import CodeAtlas.Proofs.Ordered.Table
import CodeAtlas.Proofs.Overlay.Basic
import CodeAtlas.Proofs.Overlay.Buffer
import CodeAtlas.Proofs.Overlay.Offset
import CodeAtlas.Proofs.Path.Normal
import CodeAtlas.Proofs.Path.Spelling
import CodeAtlas.Proofs.Project.Acceptance
import CodeAtlas.Proofs.Project.Affected
import CodeAtlas.Proofs.Project.Dirty
import CodeAtlas.Proofs.Project.DirtyHistory
import CodeAtlas.Proofs.Project.Graph
import CodeAtlas.Proofs.Project.Order
import CodeAtlas.Proofs.Schedule.Activity
import CodeAtlas.Proofs.Schedule.Pending
import CodeAtlas.Proofs.Schedule.Timers
import CodeAtlas.Proofs.Snapshot.Binary
import CodeAtlas.Proofs.Snapshot.Json
import CodeAtlas.Proofs.Text.Lowercase
import CodeAtlas.Proofs.Text.Position
import CodeAtlas.Proofs.Workspace.References
import CodeAtlas.Proofs.Workspace.Rename
import CodeAtlas.Report.Answer
import CodeAtlas.Report.Build
import CodeAtlas.Schedule.Activity
import CodeAtlas.Schedule.Progress
import CodeAtlas.Schedule.Task
import CodeAtlas.Schedule.Timers
import CodeAtlas.Shell.Arithmetic
import CodeAtlas.Shell.Awk.Assoc
import CodeAtlas.Shell.Awk.Command
import CodeAtlas.Shell.Awk.Lexeme
import CodeAtlas.Shell.Awk.Program
import CodeAtlas.Shell.Awk.Reader
import CodeAtlas.Shell.Awk.Record
import CodeAtlas.Shell.Awk.Running
import CodeAtlas.Shell.Awk.State
import CodeAtlas.Shell.Awk.Value
import CodeAtlas.Shell.Builtins
import CodeAtlas.Shell.Builtins.Basic
import CodeAtlas.Shell.Builtins.Names
import CodeAtlas.Shell.Builtins.Signals
import CodeAtlas.Shell.Condition
import CodeAtlas.Shell.Execution
import CodeAtlas.Shell.Expansion
import CodeAtlas.Shell.Fields
import CodeAtlas.Shell.Finding
import CodeAtlas.Shell.Format
import CodeAtlas.Shell.Glob
import CodeAtlas.Shell.Machine
import CodeAtlas.Shell.Permission
import CodeAtlas.Shell.Program
import CodeAtlas.Shell.Reader
import CodeAtlas.Shell.Regex.Basic
import CodeAtlas.Shell.Regex.Reader
import CodeAtlas.Shell.Running
import CodeAtlas.Shell.Script
import CodeAtlas.Shell.Source
import CodeAtlas.Shell.Streams
import CodeAtlas.Shell.Tools
import CodeAtlas.Shell.Tools.Basic
import CodeAtlas.Shell.Tools.Bytes
import CodeAtlas.Shell.Tools.Comparison
import CodeAtlas.Shell.Tools.Dates
import CodeAtlas.Shell.Tools.Diff
import CodeAtlas.Shell.Tools.Difference
import CodeAtlas.Shell.Tools.Digests
import CodeAtlas.Shell.Tools.Expr
import CodeAtlas.Shell.Tools.Files
import CodeAtlas.Shell.Tools.Find
import CodeAtlas.Shell.Tools.Grep
import CodeAtlas.Shell.Tools.Layout
import CodeAtlas.Shell.Tools.Lines
import CodeAtlas.Shell.Tools.Listing
import CodeAtlas.Shell.Tools.Sed
import CodeAtlas.Shell.Tools.Sed.Script
import CodeAtlas.Shell.Tools.Sort
import CodeAtlas.Shell.Tools.Sums
import CodeAtlas.Shell.Tools.Tr
import CodeAtlas.Shell.Tools.Values
import CodeAtlas.Shell.Variables
import CodeAtlas.Shell.View
import CodeAtlas.Sketch.Bench
import CodeAtlas.Sketch.Reading
import CodeAtlas.Snapshot.Binary
import CodeAtlas.Snapshot.Json
import CodeAtlas.Snapshot.Record
import CodeAtlas.Text.Character
import CodeAtlas.Text.CodeRanges
import CodeAtlas.Text.Cut
import CodeAtlas.Text.Lowercase
import CodeAtlas.Text.Position
import CodeAtlas.Toml.Document
import CodeAtlas.Toml.Lexeme
import CodeAtlas.Toml.Table
import CodeAtlas.Unit
import CodeAtlas.Workspace.Basic
import CodeAtlas.Workspace.Query
