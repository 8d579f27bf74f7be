import MeshSidecar.Agent.Basic
import MeshSidecar.Agent.Shutdown
import MeshSidecar.Aggregate.Basic
import MeshSidecar.Aggregate.Leaf
import MeshSidecar.Aggregate.Run
import MeshSidecar.Catalog.Basic
import MeshSidecar.Catalog.Document
import MeshSidecar.CommandLine.Args
import MeshSidecar.CommandLine.FieldFilter
import MeshSidecar.CommandLine.LogFilter
import MeshSidecar.CommandLine.Parse
import MeshSidecar.Controller.Run
import MeshSidecar.Controller.Session
import MeshSidecar.Controller.Start
import MeshSidecar.Decimal.Double
import MeshSidecar.Decimal.Natural
import MeshSidecar.Decimal.Shortest
import MeshSidecar.Discovery
import MeshSidecar.Host.Directory
import MeshSidecar.Host.Error
import MeshSidecar.Host.FileTree
import MeshSidecar.Host.Process
import MeshSidecar.Json.Fault
import MeshSidecar.Json.Reader
import MeshSidecar.Json.Scan
import MeshSidecar.Json.Tree
import MeshSidecar.Main
import MeshSidecar.Mesh
import MeshSidecar.Names.Set
import MeshSidecar.Names.Table
import MeshSidecar.Pattern.Atom
import MeshSidecar.Pattern.Basic
import MeshSidecar.Pattern.CharacterSet
import MeshSidecar.Pattern.Cursor
import MeshSidecar.Pattern.Parse
import MeshSidecar.Proofs.Agent.FailedReloads
import MeshSidecar.Proofs.Agent.Files
import MeshSidecar.Proofs.Agent.Generations
import MeshSidecar.Proofs.Agent.Reloads
import MeshSidecar.Proofs.Agent.Signals
import MeshSidecar.Proofs.Agent.Steps
import MeshSidecar.Proofs.Agent.Stopping
import MeshSidecar.Proofs.Agent.Termination
import MeshSidecar.Proofs.Aggregate.Isolation
import MeshSidecar.Proofs.Aggregate.Leaves
import MeshSidecar.Proofs.Aggregate.Nesting
import MeshSidecar.Proofs.Aggregate.Precedence
import MeshSidecar.Proofs.Aggregate.Registration
import MeshSidecar.Proofs.Aggregate.Sources
import MeshSidecar.Proofs.Aggregate.Tasks
import MeshSidecar.Proofs.Catalog.Listing
import MeshSidecar.Proofs.Catalog.Offences
import MeshSidecar.Proofs.Catalog.WellFormed
import MeshSidecar.Proofs.Controller.Listings
import MeshSidecar.Proofs.Controller.Stopping
import MeshSidecar.Proofs.Json.Documents
import MeshSidecar.Proofs.Json.Insertions
import MeshSidecar.Proofs.Json.Layouts
import MeshSidecar.Proofs.Json.Members
import MeshSidecar.Proofs.Json.Outcomes
import MeshSidecar.Proofs.Json.Reading
import MeshSidecar.Proofs.Json.RoundTrip
import MeshSidecar.Proofs.Json.Scanning
import MeshSidecar.Proofs.Json.Skipping
import MeshSidecar.Proofs.Json.Spelling
import MeshSidecar.Proofs.Json.Tokens
import MeshSidecar.Proofs.Json.Tolerance
import MeshSidecar.Proofs.Json.Unambiguous
import MeshSidecar.Proofs.Lists.Places
import MeshSidecar.Proofs.Names.Ascending
import MeshSidecar.Proofs.Proxy.Consistency
import MeshSidecar.Proofs.Proxy.Determinacy
import MeshSidecar.Proofs.Proxy.Listeners
import MeshSidecar.Proofs.Proxy.PortClaims
import MeshSidecar.Proofs.Proxy.Refusals
import MeshSidecar.Proofs.Proxy.Routes
import MeshSidecar.Proofs.Proxy.WrittenForm
import MeshSidecar.Proofs.Registry.ChangeLog
import MeshSidecar.Proofs.Registry.Changes
import MeshSidecar.Proofs.Registry.Coherence
import MeshSidecar.Proofs.Registry.Contents
import MeshSidecar.Proofs.Registry.Difference
import MeshSidecar.Proofs.Registry.InstanceEvents
import MeshSidecar.Proofs.Registry.LastGood
import MeshSidecar.Proofs.Registry.Mirror
import MeshSidecar.Proofs.Service.Display
import MeshSidecar.Proofs.Service.Document
import MeshSidecar.Proofs.Service.Problems
import MeshSidecar.Proofs.Service.WellFormed
import MeshSidecar.Proofs.Text.Parts
import MeshSidecar.Proofs.Watcher.History
import MeshSidecar.Proofs.Watcher.Steps
import MeshSidecar.Proofs.Watcher.Stopping
import MeshSidecar.Proofs.Watcher.Timing
import MeshSidecar.Proofs.Watcher.Unchanged
import MeshSidecar.Proofs.Watcher.Updates
import MeshSidecar.Proxy.Config
import MeshSidecar.Proxy.Generate
import MeshSidecar.Proxy.Launch
import MeshSidecar.Proxy.Reload
import MeshSidecar.Registry.Basic
import MeshSidecar.Registry.Change
import MeshSidecar.Registry.File
import MeshSidecar.Registry.Mutation
import MeshSidecar.Service.Basic
import MeshSidecar.Service.Display
import MeshSidecar.Service.Document
import MeshSidecar.Service.Validate
import MeshSidecar.Text.Alphanumeric
import MeshSidecar.Text.Bytes
import MeshSidecar.Text.Lines
import MeshSidecar.Text.Quoted
import MeshSidecar.Text.Unprintable
import MeshSidecar.Watcher.Basic
import MeshSidecar.Watcher.Run
