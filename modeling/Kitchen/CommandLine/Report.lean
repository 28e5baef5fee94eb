import Kitchen.Batch
import Kitchen.Json.Printer

/-!
# Reports

What commands write about operations, bakes, failures and metrics, as JSON with one item a line.
-/

namespace Kitchen

def reportIndent : String := "  "

def reportText (report : Json) : String := report.pretty reportIndent

def Json.ofBinary (x : Binary64) : Json := .number (.binary x)

def Argument.toJson : Argument → Json
  | bool b => .bool b
  | number x => .ofBinary x
  | text s => .string s
  | toggle s option => .object [("string", .string s), ("option", .string option)]

/-- A parameter; choices and bounds are left out where it has none. -/
def Parameter.toJson (parameter : Parameter) : Json :=
  let options := if parameter.options.isEmpty then []
    else [("options", Json.array (parameter.options.map .string))]
  let bound (name : String) (value : Option Binary64) :=
    value.toList.map fun x => (name, Json.ofBinary x)
  .object <|
    [("name", .string parameter.name), ("kind", .string parameter.kind.label),
      ("default", parameter.default.toJson)] ++
    options ++ bound "min" parameter.min ++ bound "max" parameter.max

/-- What an operation takes and gives. -/
def Descriptor.toJson (descriptor : Descriptor) : Json :=
  .object
    [("name", .string descriptor.name), ("description", .string descriptor.description),
      ("input_type", .string descriptor.input.label),
      ("output_type", .string descriptor.output.label),
      ("args", .array (descriptor.parameters.map Parameter.toJson)),
      ("flow_control", .bool descriptor.flowControl)]

def Status.toJson : Status → Json
  | completed => .object [("state", .string "completed")]
  | paused step => .object [("state", .string "paused"), ("at", .ofNat step)]

/-- A summary of an outcome. Of the dish only its kind and its size are told. -/
def Outcome.toJson (outcome : Outcome) : Json :=
  let registers := outcome.registers.values.map fun (name, value) => (name, Json.string value)
  .object
    [("status", outcome.status.toJson), ("progress", .ofNat outcome.progress),
      ("jumps_taken", .ofNat outcome.jumpsTaken),
      ("output_type", .string outcome.dish.kind.label), ("output_size", .ofNat outcome.dish.size),
      ("registers", .object registers)]

def Failure.toJson (failure : Failure) : Json :=
  .object
    [("step_index", .ofNat failure.step), ("operation", .string failure.operation),
      ("kind", .string failure.kind.label), ("message", .string failure.message)]

def resultJson : Result → Json
  | .ok outcome => outcome.toJson
  | .error failure => failure.toJson

def OperationMetrics.toJson (metrics : OperationMetrics) : Json :=
  .object
    [("calls", .ofNat metrics.calls), ("failures", .ofNat metrics.failures),
      ("total_duration_ms", .ofBinary metrics.total),
      ("max_duration_ms", .ofBinary metrics.longest)]

def Metrics.toJson (metrics : Metrics) : Json :=
  .object
    [("operations", .object (metrics.operations.map fun (name, counted) => (name, counted.toJson))),
      ("bakes_completed", .ofNat metrics.completed), ("bakes_paused", .ofNat metrics.paused),
      ("bakes_failed", .ofNat metrics.failed),
      ("failures", .object (metrics.failures.map fun (kind, n) => (kind, .ofNat n))),
      ("last_bake_duration_ms", .ofBinary metrics.lastTime)]

end Kitchen
