import Kitchen.Bake.Plan

/-!
# Diagnostics

How the parts of a bake show themselves to whoever looks for an error: the name of the type and its
fields in braces.
-/

namespace Kitchen

open Text

def diagnosticRecord (name : String) (fields : List (String × String)) : String :=
  let shown := fields.map fun (field, value) => field ++ ": " ++ value
  name ++ " \x7b " ++ ", ".intercalate shown ++ " \x7d"

def diagnosticList (values : List String) : String := "[" ++ ", ".intercalate values ++ "]"

/-- A control. The cancellation shown is that before the bake. -/
def Control.diagnostic (control : Control) : String :=
  diagnosticRecord "BakeControl"
    [("cancelled", toString (control.isCancelled [])),
      ("progress_sink", toString control.listening),
      ("honour_breakpoints", toString control.honourBreakpoints),
      ("start_from", toString control.startFrom)]

def Context.diagnostic (context : Context) : String :=
  diagnosticRecord "RunContext"
    [("step_index", toString context.step), ("operation", quoted context.operation),
      ("cancelled", toString (context.control.isCancelled [])),
      ("progress_sink", toString context.control.listening)]

def Registry.diagnostic (registry : Registry) : String :=
  diagnosticRecord "OperationRegistry"
    [("operations", diagnosticList (registry.names.map quoted))]

def Step.diagnostic (step : Step) : String :=
  diagnosticRecord "BoundStep"
    [("index", toString step.index), ("operation", quoted step.operation),
      ("args", diagnosticList (step.args.map Argument.diagnostic)),
      ("disabled", toString step.disabled), ("breakpoint", toString step.breakpoint)]

def Registers.diagnostic (registers : Registers) : String :=
  let entries := registers.values.map fun (name, value) => quoted name ++ ": " ++ quoted value
  diagnosticRecord "Registers"
    [("values", "\x7b" ++ ", ".intercalate entries ++ "\x7d"),
      ("next_numbered", toString registers.nextNumber)]

/-- The name of a kind in diagnostics. -/
def Kind.diagnostic : Kind → String
  | byteArray => "ByteArray"
  | arrayBuffer => "ArrayBuffer"
  | string => "String"
  | number => "Number"
  | bigNumber => "BigNumber"
  | json => "Json"
  | listFile => "ListFile"
  | html => "Html"

/-- The name of a phase in diagnostics. -/
def Phase.diagnostic : Phase → String
  | running => "Running"
  | branching => "Branching"
  | paused => "Paused"
  | completed => "Completed"
  | failed => "Failed"

/-- A state. Of the dish only the kind is shown. -/
def State.diagnostic (state : State) : String :=
  diagnosticRecord "ExecutionState"
    [("progress", toString state.progress), ("dish_type", state.dish.kind.diagnostic),
      ("jumps_taken", toString state.jumpsTaken), ("registers", state.registers.diagnostic),
      ("scope", s!"{state.scopeStart}..{state.scopeEnd}"), ("phase", state.phase.diagnostic)]

/-- Bytes as a list of numbers. -/
def diagnosticBytes (bytes : List UInt8) : String :=
  diagnosticList (bytes.map fun b => toString b.toNat)

end Kitchen
