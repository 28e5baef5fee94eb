import Kitchen.Metrics.Basic
import Kitchen.Number.FloatFormat

/-!
# Exposition

Metrics as the text that monitoring systems collect: families of samples, each family with a line of
help and a line with its kind, each sample with its name, at most one label and its value.
-/

namespace Kitchen.Exposition

structure Sample where
  label : Option (String × String)
  value : String
  deriving DecidableEq, Repr

structure Family where
  name : String
  kind : String
  help : String
  samples : List Sample
  deriving DecidableEq, Repr

/-- A character of a label value: backslashes and quotes are escaped. -/
def escapedChar (c : Char) : List Char :=
  if c = '\\' then ['\\', '\\'] else if c = '"' then ['\\', '"'] else [c]

/-- A label value as it is written. -/
def escaped (value : String) : String := String.ofList (value.toList.flatMap escapedChar)

def labelText : Option (String × String) → String
  | none => ""
  | some (key, value) => "\x7b" ++ key ++ "=\"" ++ escaped value ++ "\"\x7d"

def Sample.line (name : String) (sample : Sample) : String :=
  name ++ labelText sample.label ++ " " ++ sample.value

def Family.lines (family : Family) : List String :=
  s!"# HELP {family.name} {family.help}" :: s!"# TYPE {family.name} {family.kind}" ::
    family.samples.map (·.line family.name)

/-- The text of families, every line ended. -/
def render (families : List Family) : String :=
  String.join ((families.flatMap Family.lines).map (· ++ "\n"))

/-- A time in milliseconds as seconds with six places. -/
def seconds (milliseconds : Binary64) : String :=
  Binary64.fixed 6 (milliseconds / Binary64.ofNat 1000)

def labelled (key name value : String) : Sample := ⟨some (key, name), value⟩

/-- A family with one sample for every operation. -/
def operationFamily (metrics : Metrics) (name kind help : String)
    (value : OperationMetrics → String) : Family :=
  ⟨name, kind, help, metrics.operations.map fun (operation, counters) =>
    labelled "operation" operation (value counters)⟩

def families (metrics : Metrics) : List Family :=
  [⟨"bakehouse_bakes_total", "counter", "Bakes by how they ended",
      [labelled "outcome" "completed" (toString metrics.completed),
        labelled "outcome" "paused" (toString metrics.paused),
        labelled "outcome" "failed" (toString metrics.failed)]⟩,
    ⟨"bakehouse_bake_failures_total", "counter", "Failed bakes by failure kind",
      metrics.failures.map fun (kind, count) => labelled "kind" kind (toString count)⟩,
    operationFamily metrics "bakehouse_operation_calls_total" "counter" "Operation invocations"
      fun counters => toString counters.calls,
    operationFamily metrics "bakehouse_operation_failures_total" "counter"
      "Operation invocations that halted a bake" fun counters => toString counters.failures,
    operationFamily metrics "bakehouse_operation_duration_seconds_total" "counter"
      "Accumulated operation time" fun counters => seconds counters.total,
    operationFamily metrics "bakehouse_operation_duration_seconds_max" "gauge"
      "Slowest single invocation" fun counters => seconds counters.longest,
    ⟨"bakehouse_last_bake_duration_seconds", "gauge", "Duration of the most recent bake",
      [⟨none, seconds metrics.lastTime⟩]⟩]

end Kitchen.Exposition

/-- The metrics as text for monitoring systems. -/
def Kitchen.Metrics.exposition (metrics : Metrics) : String :=
  Exposition.render (Exposition.families metrics)
