import Confinement.Access
import Confinement.Bus
import Confinement.CommandLine.Arguments
import Confinement.CommandLine.Session
import Confinement.Config
import Confinement.Decimal.Layout
import Confinement.Decimal.Shortest
import Confinement.Descriptor
import Confinement.Dispatch
import Confinement.Document.Decoder
import Confinement.Document.Fault
import Confinement.Document.Kept
import Confinement.Document.Record
import Confinement.Document.Source
import Confinement.Document.Value
import Confinement.Engine.Basic
import Confinement.Engine.Loader
import Confinement.Engine.Outline
import Confinement.Engine.Run
import Confinement.Errno
import Confinement.Error
import Confinement.Event
import Confinement.Files
import Confinement.Json.Reader
import Confinement.Json.Writer
import Confinement.Lifecycle
import Confinement.Loading
import Confinement.Log
import Confinement.Main
import Confinement.Mode
import Confinement.Open.Flags
import Confinement.Open.Slot
import Confinement.Process
import Confinement.Profile
import Confinement.Proofs.Access
import Confinement.Proofs.Association
import Confinement.Proofs.Bus
import Confinement.Proofs.Bus.History
import Confinement.Proofs.Document.Reading
import Confinement.Proofs.Document.RoundTrip
import Confinement.Proofs.Engine.Captures
import Confinement.Proofs.Engine.Cell
import Confinement.Proofs.Engine.Confined
import Confinement.Proofs.Engine.Correspondence
import Confinement.Proofs.Engine.Decisions
import Confinement.Proofs.Engine.Denials
import Confinement.Proofs.Engine.Departures
import Confinement.Proofs.Engine.Effects
import Confinement.Proofs.Engine.Failures
import Confinement.Proofs.Engine.Forks
import Confinement.Proofs.Engine.History
import Confinement.Proofs.Engine.Independence
import Confinement.Proofs.Engine.Integrity
import Confinement.Proofs.Engine.Leftovers
import Confinement.Proofs.Engine.Lives
import Confinement.Proofs.Engine.Loader
import Confinement.Proofs.Engine.Modes
import Confinement.Proofs.Engine.Open
import Confinement.Proofs.Engine.Opens
import Confinement.Proofs.Engine.Permutation
import Confinement.Proofs.Engine.Places
import Confinement.Proofs.Engine.Provenance
import Confinement.Proofs.Engine.Reachable
import Confinement.Proofs.Engine.Refusals
import Confinement.Proofs.Engine.Relays
import Confinement.Proofs.Engine.Reports
import Confinement.Proofs.Engine.Requests
import Confinement.Proofs.Engine.Sharing
import Confinement.Proofs.Engine.Strays
import Confinement.Proofs.Engine.Taints
import Confinement.Proofs.Engine.Tracking
import Confinement.Proofs.Engine.Twins
import Confinement.Proofs.Event
import Confinement.Proofs.Last
import Confinement.Proofs.Lifecycle
import Confinement.Proofs.Log
import Confinement.Proofs.Open.Flags
import Confinement.Proofs.Policy
import Confinement.Proofs.Profile
import Confinement.Proofs.Replay.Correspondence
import Confinement.Proofs.Replay.Deliveries
import Confinement.Proofs.Replay.Failures
import Confinement.Proofs.Replay.Halves
import Confinement.Proofs.Replay.Kills
import Confinement.Proofs.Replay.Permutation
import Confinement.Proofs.Replay.Relays
import Confinement.Proofs.Replay.Sharding
import Confinement.Proofs.Replay.Steps
import Confinement.Proofs.Reporter
import Confinement.Proofs.Reporter.Order
import Confinement.Proofs.Routine
import Confinement.Proofs.Table.Capacity
import Confinement.Proofs.Table.Conservation
import Confinement.Proofs.Table.Correspondence
import Confinement.Proofs.Table.Eviction
import Confinement.Proofs.Table.History
import Confinement.Proofs.Table.Inclusion
import Confinement.Proofs.Table.Insertion
import Confinement.Proofs.Table.Lagging
import Confinement.Proofs.Table.Linked
import Confinement.Proofs.Table.Order
import Confinement.Proofs.Table.Permutation
import Confinement.Proofs.Table.Recency
import Confinement.Proofs.Table.Records
import Confinement.Proofs.Table.Refinement
import Confinement.Proofs.Table.Shard
import Confinement.Proofs.Table.Sharing
import Confinement.Proofs.Table.Single
import Confinement.Proofs.Table.Spacious
import Confinement.Proofs.Table.Standing
import Confinement.Proofs.Table.Succession
import Confinement.Proofs.Table.Survival
import Confinement.Proofs.Table.Turnover
import Confinement.Reading
import Confinement.Replay
import Confinement.Reporter
import Confinement.Routine
import Confinement.Table.Association
import Confinement.Table.Basic
import Confinement.Table.Operation
import Confinement.Table.Recency
import Confinement.Table.Shard
import Confinement.Text.Blank
import Confinement.Text.LowerCase
import Confinement.Text.LowerCase.Table
import Confinement.Text.Numeral
import Confinement.Text.Outline
import Confinement.Text.Printable
import Confinement.Text.Quoted
import Confinement.Trace.Basic
import Confinement.Writing
import Confinement.Yaml.Cursor
import Confinement.Yaml.Node
import Confinement.Yaml.Part
import Confinement.Yaml.Plain
import Confinement.Yaml.Scalar
import Confinement.Yaml.Tag
import Confinement.Yaml.Token
