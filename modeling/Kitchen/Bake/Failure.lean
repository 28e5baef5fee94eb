import Kitchen.Dish.Conversion

/-!
# Failures

How a step of a bake can go wrong, and the failure of the whole bake that follows. A failure names
the step that raised it. Its message is the operation's own, but for defects, whose cause stays
hidden behind a general message.
-/

namespace Kitchen

inductive FailureKind where
  /-- The recipe does not fit the registry. -/
  | configuration
  | dishConversion
  /-- The operation refused its input. -/
  | operation
  | defect
  | cancelled
  deriving DecidableEq, Repr, Inhabited

def FailureKind.label : FailureKind → String
  | configuration => "configuration"
  | dishConversion => "dish-conversion"
  | operation => "operation"
  | defect => "defect"
  | cancelled => "cancelled"

/-- The hidden cause of a defect: a description and the descriptions of what led to it. -/
structure Defect where
  description : String
  causes : List String
  deriving DecidableEq, Repr, Inhabited

def Defect.of (description : String) : Defect := ⟨description, []⟩

/-- A cause and its history on one line. -/
def Defect.chain (defect : Defect) : String :=
  ": ".intercalate (defect.description :: defect.causes)

/-- The end of a bake that went wrong. -/
structure Failure where
  step : Nat
  operation : String
  kind : FailureKind
  message : String
  /-- The dish as it stood before the failing step. -/
  dish : Option Dish
  source : Option Defect
  deriving Inhabited

namespace Failure

/-- A failure without dish and cause. -/
def plain (step : Nat) (operation : String) (kind : FailureKind) (message : String) : Failure :=
  ⟨step, operation, kind, message, none, none⟩

/-- The recipe does not fit at a step. -/
def configuration (step : Nat) (operation message : String) : Failure :=
  plain step operation .configuration message

/-- The bake was cancelled before or in a step. -/
def cancelled (step : Nat) (operation : String) : Failure :=
  plain step operation .cancelled "Bake cancelled"

def display (failure : Failure) : String :=
  s!"{failure.operation} (step {failure.step}): {failure.message}"

/-- The failure with a dish, unless it has one. -/
def withDish (failure : Failure) (dish : Dish) : Failure :=
  { failure with dish := some (failure.dish.getD dish) }

/-- The message is meant for the user. -/
def isUserFacing (failure : Failure) : Bool := failure.kind != .defect

end Failure

/-- How a step goes wrong. -/
inductive Fault where
  /-- The operation refuses its input, with a message for the user. -/
  | invalid (message : String)
  | dish (error : DishError)
  | cancelled
  /-- A step inside a branch failed. -/
  | branch (failure : Failure)
  | defect (cause : Defect)
  deriving Inhabited

namespace Fault

def message : Fault → String
  | invalid message => message
  | dish error => error.message
  | cancelled => "bake cancelled"
  | branch failure => s!"forked branch failed: {failure.display}"
  | defect cause => cause.description

def broken (description : String) : Fault := .defect (.of description)

end Fault

/-- The failure that a fault in a step makes of the bake. A failure in a branch stays what it is. -/
def Failure.ofFault (step : Nat) (operation : String) : Fault → Failure
  | .invalid message => plain step operation .operation message
  | .dish error => plain step operation .dishConversion error.message
  | .cancelled => cancelled step operation
  | .branch failure => failure
  | .defect cause =>
    { plain step operation .defect s!"Unexpected error in operation '{operation}'" with
      source := some cause }

/-- How a body ends without a dish: with a fault, or by crashing, with the text of the crash if it
has one. -/
inductive Halt where
  | fault (fault : Fault)
  | crash (text : Option String)
  deriving Inhabited

/-- The text that stands for a crash without one. -/
def textlessCrash : String := "non-text panic payload"

/-- The fault that a halt comes down to: a crash is contained as a defect. -/
def Halt.contained : Halt → Fault
  | .fault cause => cause
  | .crash text => .broken ("operation panicked: " ++ text.getD textlessCrash)

end Kitchen
