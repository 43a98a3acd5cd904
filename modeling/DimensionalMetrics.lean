import DimensionalMetrics.Config
import DimensionalMetrics.Config.Reader
import DimensionalMetrics.Config.Validation
import DimensionalMetrics.Error
import DimensionalMetrics.HttpStatus
import DimensionalMetrics.Id
import DimensionalMetrics.Json.Numeral
import DimensionalMetrics.Json.Reader
import DimensionalMetrics.Json.Scan
import DimensionalMetrics.Json.Skip
import DimensionalMetrics.Json.Value
import DimensionalMetrics.Measurement
import DimensionalMetrics.Meter
import DimensionalMetrics.Notice
import DimensionalMetrics.Number.Binary64
import DimensionalMetrics.Number.Decimal
import DimensionalMetrics.Number.Text
import DimensionalMetrics.Number.Word
import DimensionalMetrics.Period
import DimensionalMetrics.Publisher.Delivery
import DimensionalMetrics.Publisher.Lifecycle
import DimensionalMetrics.Publisher.Ticker
import DimensionalMetrics.Registry
import DimensionalMetrics.Search
import DimensionalMetrics.Simulation.Session
import DimensionalMetrics.Simulation.Transcript
import DimensionalMetrics.Simulation.World
import DimensionalMetrics.Snapshot
import DimensionalMetrics.Snapshot.Reader
import DimensionalMetrics.Tags
import DimensionalMetrics.Text.CodePointMap
import DimensionalMetrics.Text.CodePointSet
import DimensionalMetrics.Text.Composition
import DimensionalMetrics.Text.CompositionTable
import DimensionalMetrics.Text.Direction
import DimensionalMetrics.Text.DirectionTable
import DimensionalMetrics.Text.Hex
import DimensionalMetrics.Text.Joining
import DimensionalMetrics.Text.JoiningTable
import DimensionalMetrics.Text.Mark
import DimensionalMetrics.Text.Pieces
import DimensionalMetrics.Text.Quoted
import DimensionalMetrics.Text.Space
import DimensionalMetrics.Text.Unprintable
import DimensionalMetrics.Time.Duration
import DimensionalMetrics.Time.Reader
import DimensionalMetrics.Uri
import DimensionalMetrics.Uri.Address
import DimensionalMetrics.Uri.Domain
import DimensionalMetrics.Uri.NameTable
import DimensionalMetrics.Uri.Percent
import DimensionalMetrics.Uri.Punycode
import DimensionalMetrics.Wire.Payload
import DimensionalMetrics.Wire.Reader
import DimensionalMetrics.Wire.Record
import DimensionalMetrics.XXHash64
import DimensionalMetrics.Proofs.Meter.Accumulation
import DimensionalMetrics.Proofs.Registry.Orders
import DimensionalMetrics.Proofs.Registry.Interleaving
import DimensionalMetrics.Proofs.Registry.Conservation
import DimensionalMetrics.Proofs.Number.Rounding
import DimensionalMetrics.Proofs.Number.Shortest
import DimensionalMetrics.Proofs.Json.Numerals
import DimensionalMetrics.Proofs.Json.RoundTrip
import DimensionalMetrics.Proofs.Wire.RoundTrip
import DimensionalMetrics.Proofs.Publisher.Delivery
import DimensionalMetrics.Proofs.Simulation.Publishing
import DimensionalMetrics.Proofs.Publisher.Callers
import DimensionalMetrics.Proofs.Simulation.Tasks
import DimensionalMetrics.Proofs.Publisher.Endings
import DimensionalMetrics.Proofs.Simulation.Callers
import DimensionalMetrics.Proofs.Simulation.Quiescence
import DimensionalMetrics.Proofs.Simulation.Running
import DimensionalMetrics.Proofs.Tags.Lookup
import DimensionalMetrics.Proofs.Registry.Interning
import DimensionalMetrics.Proofs.Meter.Content
import DimensionalMetrics.Proofs.Registry.Store
import DimensionalMetrics.Proofs.Registry.Refinement
import DimensionalMetrics.Proofs.Snapshot.Grouping
import DimensionalMetrics.Proofs.Registry.Sweeps
import DimensionalMetrics.Proofs.Number.Naturals
import DimensionalMetrics.Proofs.Publisher.Ticks
import DimensionalMetrics.Proofs.Json.Nulls
import DimensionalMetrics.Proofs.Meter.Bounds
import DimensionalMetrics.Proofs.Snapshot.RoundTrip
import DimensionalMetrics.Proofs.Publisher.Payloads
import DimensionalMetrics.Proofs.Simulation.Dependable
import DimensionalMetrics.Proofs.Simulation.Survival
import DimensionalMetrics.Proofs.Text.Utf8
import DimensionalMetrics.Proofs.Tags.Canonical
import DimensionalMetrics.Proofs.Time.Increments
import DimensionalMetrics.Proofs.Json.Suffixes
import DimensionalMetrics.Proofs.Config.Loading
import DimensionalMetrics.Proofs.Json.Grammar
import DimensionalMetrics.Proofs.Json.Skipping
import DimensionalMetrics.Proofs.Time.Plain
import DimensionalMetrics.Proofs.Config.Documents
import DimensionalMetrics.Proofs.Publisher.Schedule
import DimensionalMetrics.Proofs.Simulation.Timed
import DimensionalMetrics.Proofs.Simulation.Clock
import DimensionalMetrics.Proofs.Tags.HashInput
import DimensionalMetrics.Proofs.Wire.Series
import DimensionalMetrics.Proofs.Wire.Batches
import DimensionalMetrics.Proofs.Meter.Pending
import DimensionalMetrics.Proofs.Meter.Squares
import DimensionalMetrics.Proofs.Publisher.Filter
import DimensionalMetrics.Proofs.Meter.Exactness
import DimensionalMetrics.Proofs.Registry.Reordering
