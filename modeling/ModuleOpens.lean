import ModuleOpens.Attempt
import ModuleOpens.Bootstrap
import ModuleOpens.Check
import ModuleOpens.Collector
import ModuleOpens.Config
import ModuleOpens.Config.Codec
import ModuleOpens.Config.File
import ModuleOpens.Context
import ModuleOpens.Diagnostic
import ModuleOpens.Distinct
import ModuleOpens.Document.Basic
import ModuleOpens.Document.Decode
import ModuleOpens.Document.JsonReader
import ModuleOpens.Document.JsonWriter
import ModuleOpens.Document.Toml.Moment
import ModuleOpens.Document.Toml.Number
import ModuleOpens.Document.Toml.Reader
import ModuleOpens.Document.Toml.Text
import ModuleOpens.Document.Toml.Tree
import ModuleOpens.Duration
import ModuleOpens.Event
import ModuleOpens.Exclusive.Board
import ModuleOpens.Exclusive.Desk
import ModuleOpens.Exclusive.Script
import ModuleOpens.Graph.Basic
import ModuleOpens.Graph.Change
import ModuleOpens.Graph.Error
import ModuleOpens.Graph.Handle
import ModuleOpens.Graph.Machine
import ModuleOpens.Host.Altered
import ModuleOpens.Host.Basic
import ModuleOpens.Host.Machine
import ModuleOpens.Loading.Limiter
import ModuleOpens.Loading.Shared
import ModuleOpens.Loading.Units
import ModuleOpens.Logging
import ModuleOpens.Manifest
import ModuleOpens.Proofs.Bootstrap.Collection
import ModuleOpens.Proofs.Bootstrap.Generations
import ModuleOpens.Proofs.Bootstrap.Requirements
import ModuleOpens.Proofs.Collector.Contribution
import ModuleOpens.Proofs.Config.Abridged
import ModuleOpens.Proofs.Config.ReadBack
import ModuleOpens.Proofs.Context.Frozen
import ModuleOpens.Proofs.Context.Layers
import ModuleOpens.Proofs.Context.Resolution
import ModuleOpens.Proofs.Document.Abridged
import ModuleOpens.Proofs.Document.Fields
import ModuleOpens.Proofs.Document.JsonLexemes
import ModuleOpens.Proofs.Document.JsonReadBack
import ModuleOpens.Proofs.Exclusive.Advance
import ModuleOpens.Proofs.Exclusive.Answer
import ModuleOpens.Proofs.Exclusive.Consistent
import ModuleOpens.Proofs.Exclusive.Desk
import ModuleOpens.Proofs.Exclusive.Exclusivity
import ModuleOpens.Proofs.Exclusive.History
import ModuleOpens.Proofs.Exclusive.Names
import ModuleOpens.Proofs.Exclusive.Outcome
import ModuleOpens.Proofs.Exclusive.Part
import ModuleOpens.Proofs.Exclusive.Production
import ModuleOpens.Proofs.Exclusive.Store
import ModuleOpens.Proofs.Exclusive.Timeout
import ModuleOpens.Proofs.Graph.Change
import ModuleOpens.Proofs.Graph.Edges
import ModuleOpens.Proofs.Graph.Loaders
import ModuleOpens.Proofs.Graph.Lookup
import ModuleOpens.Proofs.Graph.Mutations
import ModuleOpens.Proofs.Graph.Opening
import ModuleOpens.Proofs.Graph.Origin
import ModuleOpens.Proofs.Graph.Reachable
import ModuleOpens.Proofs.Graph.Redefinition
import ModuleOpens.Proofs.Graph.Visibility
import ModuleOpens.Proofs.Graph.WellFormed
import ModuleOpens.Proofs.Loading.Contract
import ModuleOpens.Proofs.Loading.Counts
import ModuleOpens.Proofs.Loading.History
import ModuleOpens.Proofs.Loading.Load
import ModuleOpens.Proofs.Manifest.Attributes
import ModuleOpens.Proofs.Manifest.ReadBack
import ModuleOpens.Proofs.Manifest.Value
import ModuleOpens.Proofs.Request.Canonical
import ModuleOpens.Proofs.Request.Flag
import ModuleOpens.Proofs.Request.Grammar
import ModuleOpens.Proofs.Strategy.Advice
import ModuleOpens.Proofs.Strategy.Agreement
import ModuleOpens.Proofs.Strategy.Apply
import ModuleOpens.Proofs.Strategy.Effect
import ModuleOpens.Proofs.Strategy.Operations
import ModuleOpens.Proofs.Strategy.Plan
import ModuleOpens.Proofs.Strategy.Redefinition
import ModuleOpens.Proofs.Strategy.Replay
import ModuleOpens.Proofs.Strategy.Selection
import ModuleOpens.Proofs.Strategy.Union
import ModuleOpens.Proofs.Text.Cuts
import ModuleOpens.Proofs.Text.Words
import ModuleOpens.Request
import ModuleOpens.Request.Codec
import ModuleOpens.Request.Flag
import ModuleOpens.Sorted
import ModuleOpens.Strategy.Error
import ModuleOpens.Strategy.Kind
import ModuleOpens.Strategy.Pass
import ModuleOpens.Strategy.Plan
import ModuleOpens.Strategy.Selection
import ModuleOpens.Table
import ModuleOpens.Text.Alphanumeric
import ModuleOpens.Text.Blank
import ModuleOpens.Text.Hex
import ModuleOpens.Text.Hidden
import ModuleOpens.Text.Quoted
import ModuleOpens.Text.Ranges
