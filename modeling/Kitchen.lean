import Kitchen.Argument.Parameter
import Kitchen.Argument.Value
import Kitchen.Bake.Event
import Kitchen.Bake.Failure
import Kitchen.Bake.Outcome
import Kitchen.Bake.Plan
import Kitchen.Bake.Run
import Kitchen.Bake.State
import Kitchen.Batch
import Kitchen.Codec.Base64
import Kitchen.Codec.Hex
import Kitchen.Codec.Sha2
import Kitchen.CommandLine.Disk
import Kitchen.CommandLine.Execution
import Kitchen.CommandLine.Glob
import Kitchen.CommandLine.Host
import Kitchen.CommandLine.Path
import Kitchen.CommandLine.Report
import Kitchen.CommandLine.Usage
import Kitchen.Diagnostics
import Kitchen.Dish.Basic
import Kitchen.Dish.Conversion
import Kitchen.Highlight
import Kitchen.Json.Printer
import Kitchen.Json.Reader
import Kitchen.Json.Value
import Kitchen.Main
import Kitchen.Metrics.Basic
import Kitchen.Metrics.Exposition
import Kitchen.Number.Binary64
import Kitchen.Number.Decimal
import Kitchen.Number.FloatFormat
import Kitchen.Number.Power
import Kitchen.Number.Reading
import Kitchen.Number.Shortest
import Kitchen.Operation.Basic
import Kitchen.Operation.BuiltIn
import Kitchen.Operation.Encoding
import Kitchen.Operation.Flow
import Kitchen.Operation.JsonLayout
import Kitchen.Operation.LetterCase
import Kitchen.Operation.Pause
import Kitchen.Operation.Registry
import Kitchen.Operation.Replacement
import Kitchen.Operation.Reversal
import Kitchen.Operation.Specimen
import Kitchen.Proofs.Argument.Binding
import Kitchen.Proofs.Argument.Conformance
import Kitchen.Proofs.Argument.Idempotence
import Kitchen.Proofs.Argument.Schema
import Kitchen.Proofs.Batch.Interleaving
import Kitchen.Proofs.Codec.Base64
import Kitchen.Proofs.Codec.Hex
import Kitchen.Proofs.CommandLine.BatchOutputs
import Kitchen.Proofs.CommandLine.Commands
import Kitchen.Proofs.CommandLine.Places
import Kitchen.Proofs.Dish.Hub
import Kitchen.Proofs.Dish.RoundTrip
import Kitchen.Proofs.Dish.Size
import Kitchen.Proofs.Dish.Whole
import Kitchen.Proofs.Highlight.Bounds
import Kitchen.Proofs.Highlight.Extent
import Kitchen.Proofs.Highlight.Influence
import Kitchen.Proofs.Highlight.Maps
import Kitchen.Proofs.Highlight.RoundTrip
import Kitchen.Proofs.Json.Integer
import Kitchen.Proofs.Json.Layout
import Kitchen.Proofs.Json.Quoted
import Kitchen.Proofs.Json.RoundTrip
import Kitchen.Proofs.Metrics.Calls
import Kitchen.Proofs.Metrics.Charges
import Kitchen.Proofs.Metrics.Counters
import Kitchen.Proofs.Metrics.Exposition
import Kitchen.Proofs.Metrics.Postings
import Kitchen.Proofs.Metrics.Scraping
import Kitchen.Proofs.Number.Decimal
import Kitchen.Proofs.Number.Digits
import Kitchen.Proofs.Number.Exact
import Kitchen.Proofs.Number.Order
import Kitchen.Proofs.Number.Rounding
import Kitchen.Proofs.Number.Shortest
import Kitchen.Proofs.Number.Value
import Kitchen.Proofs.Number.Written
import Kitchen.Proofs.Operation.Accountable
import Kitchen.Proofs.Operation.Base64
import Kitchen.Proofs.Operation.Capturing
import Kitchen.Proofs.Operation.Hex
import Kitchen.Proofs.Operation.JsonLayout
import Kitchen.Proofs.Operation.LetterCase
import Kitchen.Proofs.Operation.Replacement
import Kitchen.Proofs.Operation.Reversal
import Kitchen.Proofs.Operation.Steady
import Kitchen.Proofs.Operation.Steering
import Kitchen.Proofs.Operation.Watchful
import Kitchen.Proofs.Recipe.Attribution
import Kitchen.Proofs.Recipe.Cancellation
import Kitchen.Proofs.Recipe.Captures
import Kitchen.Proofs.Recipe.Document
import Kitchen.Proofs.Recipe.FailedDish
import Kitchen.Proofs.Recipe.ForkErrors
import Kitchen.Proofs.Recipe.ForkMerge
import Kitchen.Proofs.Recipe.ForkSection
import Kitchen.Proofs.Recipe.ForkWarnings
import Kitchen.Proofs.Recipe.Halting
import Kitchen.Proofs.Recipe.IdleSteps
import Kitchen.Proofs.Recipe.Loop
import Kitchen.Proofs.Recipe.Preparation
import Kitchen.Proofs.Recipe.Resumption
import Kitchen.Proofs.Recipe.Scope
import Kitchen.Proofs.Recipe.Saving
import Kitchen.Proofs.Recipe.Waiting
import Kitchen.Proofs.Regex.Literal
import Kitchen.Proofs.Regex.LiteralSearch
import Kitchen.Proofs.Regex.Search
import Kitchen.Proofs.Registers.Binding
import Kitchen.Proofs.Registers.Substitution
import Kitchen.Proofs.Registry.Lookup
import Kitchen.Proofs.Run.Alignment
import Kitchen.Proofs.Run.Bindings
import Kitchen.Proofs.Run.Cancellation
import Kitchen.Proofs.Run.Charge
import Kitchen.Proofs.Run.Dispatch
import Kitchen.Proofs.Run.Ending
import Kitchen.Proofs.Run.Failing
import Kitchen.Proofs.Run.HiddenCause
import Kitchen.Proofs.Run.Matching
import Kitchen.Proofs.Run.MergeDispatch
import Kitchen.Proofs.Run.Move
import Kitchen.Proofs.Run.Origin
import Kitchen.Proofs.Run.Passage
import Kitchen.Proofs.Run.Progress
import Kitchen.Proofs.Run.Promptness
import Kitchen.Proofs.Run.Result
import Kitchen.Proofs.Run.Scope
import Kitchen.Proofs.Run.Simulation
import Kitchen.Proofs.Run.Stage
import Kitchen.Proofs.Run.Thinning
import Kitchen.Proofs.Run.Thread
import Kitchen.Proofs.Run.Tour
import Kitchen.Proofs.Slot.Interleaving
import Kitchen.Proofs.Slot.Occupancy
import Kitchen.Proofs.Text.CodeRange
import Kitchen.Proofs.Text.Escape
import Kitchen.Proofs.Text.Search
import Kitchen.Proofs.Text.Utf8
import Kitchen.Proofs.Validation.Fitness
import Kitchen.Proofs.Validation.Forks
import Kitchen.Proofs.Validation.Labels
import Kitchen.Proofs.Validation.Report
import Kitchen.Proofs.Validation.Wording
import Kitchen.Recipe.Basic
import Kitchen.Recipe.OfJson
import Kitchen.Recipe.OfNode
import Kitchen.Recipe.ToNode
import Kitchen.Regex.Bracket
import Kitchen.Regex.CharSet
import Kitchen.Regex.Escape
import Kitchen.Regex.Group
import Kitchen.Regex.Matcher
import Kitchen.Regex.Parse
import Kitchen.Regex.Pattern
import Kitchen.Regex.Program
import Kitchen.Regex.Property
import Kitchen.Regex.PropertyTable
import Kitchen.Regex.Search
import Kitchen.Regex.Syntax
import Kitchen.Regex.Template
import Kitchen.Registers
import Kitchen.Slot.Basic
import Kitchen.Slot.Session
import Kitchen.Text.Blank
import Kitchen.Text.CaseTable
import Kitchen.Text.Casing
import Kitchen.Text.Category
import Kitchen.Text.CodeRange
import Kitchen.Text.DecimalDigit
import Kitchen.Text.Escape
import Kitchen.Text.Quoted
import Kitchen.Text.Search
import Kitchen.Text.Utf8
import Kitchen.Text.WordCharacter
import Kitchen.Validation
import Kitchen.Proofs.Yaml.Block
import Kitchen.Proofs.Yaml.Gap
import Kitchen.Proofs.Yaml.Literal
import Kitchen.Proofs.Yaml.Meaning
import Kitchen.Proofs.Yaml.Parsing
import Kitchen.Proofs.Yaml.Plain
import Kitchen.Proofs.Yaml.Quoted
import Kitchen.Proofs.Yaml.Scanner
import Kitchen.Proofs.Yaml.Scanning
import Kitchen.Proofs.Yaml.Style
import Kitchen.Proofs.Yaml.Written
import Kitchen.Yaml.Cursor
import Kitchen.Yaml.Node
import Kitchen.Yaml.Printer
import Kitchen.Yaml.Resolution
import Kitchen.Yaml.Scalar
import Kitchen.Yaml.Token
