import Kitchen.Argument.Parameter
import Kitchen.Bake.Event
import Kitchen.Bake.State

/-!
# Operations

An operation has a descriptor, which says what it takes and gives, and a body. Most bodies transform
a dish. Flow-control operations act on the state of the bake instead: they move its cursor, bind
registers or run the steps after them on pieces of the dish.
-/

namespace Kitchen

/-- What an operation takes and gives. -/
structure Descriptor where
  name : String
  description : String
  input : Kind
  output : Kind
  parameters : List Parameter
  flowControl : Bool
  deriving DecidableEq, Repr, Inhabited

namespace Descriptor

/-- A transformation without description and parameters. -/
def plain (name : String) (input output : Kind) : Descriptor := ⟨name, "", input, output, [], false⟩

/-- Binds the values of an argument list. -/
def bind (descriptor : Descriptor) (values : List Argument) : Except BindError (List Argument) :=
  if descriptor.parameters.length < values.length then
    .error (.tooMany descriptor.name descriptor.parameters.length values.length)
  else Parameter.bindAll descriptor.parameters values

end Descriptor

/-- A range of byte offsets, from its start to before its end. -/
structure ByteRange where
  start : Nat
  stop : Nat
  deriving DecidableEq, Repr, Inhabited

/-- A map of byte ranges under the arguments of a step. -/
abbrev RangeMap := List Argument → List ByteRange → List ByteRange

/-- A transformation of a dish, which may add to the events of the bake. -/
abbrev Transform := Context → List Argument → Dish → Log → Except Halt Dish × Log

/-- A transformation that only looks at its arguments and its input. -/
def Transform.ofFunction (f : List Argument → Dish → Except Fault Dish) : Transform :=
  fun _ args dish log => ((f args dish).mapError .fault, log)

inductive FlowBody where
  /-- Changes the state in view of the steps of the recipe. -/
  | act (action : List Step → List Argument → State → Except Fault State)
  /-- Runs the steps up to the next merge on every piece of the dish. -/
  | fork

structure Operation where
  descriptor : Descriptor
  transform : Transform
  flow : FlowBody
  forward : Option RangeMap
  backward : Option RangeMap

namespace Operation

def name (operation : Operation) : String := operation.descriptor.name

/-- The flow body of an operation that controls no flow. -/
def noFlow (name : String) : FlowBody :=
  .act fun _ _ _ => .error (.broken s!"'{name}' is not a flow-control operation")

/-- The body of an operation that transforms nothing. -/
def noTransform (name : String) : Transform :=
  .ofFunction fun _ _ => .error (.broken s!"'{name}' does not transform dishes")

def ofTransform (descriptor : Descriptor) (transform : Transform) : Operation :=
  ⟨descriptor, transform, noFlow descriptor.name, none, none⟩

/-- An operation that transforms dishes by a function of arguments and input. -/
def ofFunction (descriptor : Descriptor) (f : List Argument → Dish → Except Fault Dish) :
    Operation :=
  ofTransform descriptor (.ofFunction f)

/-- An operation that controls the flow. -/
def ofFlow (descriptor : Descriptor) (body : FlowBody) : Operation :=
  ⟨{ descriptor with flowControl := true }, noTransform descriptor.name, body, none, none⟩

/-- The operation with maps of byte ranges from input to output and back. -/
def withHighlight (operation : Operation) (forward backward : RangeMap) : Operation :=
  { operation with forward := some forward, backward := some backward }

end Operation
end Kitchen
