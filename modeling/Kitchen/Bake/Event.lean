/-!
# Events of a bake

What a bake lets its host see while it runs: steps that are dispatched, progress updates, and waits.
The events so far decide whether the bake counts as cancelled, since a host cancels at a moment of
the run.
-/

namespace Kitchen

/-- A message about the progress of a step. -/
structure Update where
  step : Nat
  operation : String
  message : String
  percent : Option Nat
  deriving DecidableEq, Repr, Inhabited

/-- Something that happens in a bake. -/
inductive Event where
  /-- The step runs, under the name of its operation. -/
  | dispatched (step : Nat) (operation : String)
  | reported (update : Update)
  /-- The running step gives the host a turn. -/
  | waited
  deriving DecidableEq, Repr, Inhabited

/-- The events of a bake, the newest first. -/
abbrev Log := List Event

namespace Log

/-- The update that an event delivers. -/
def updateOf? : Event → Option Update
  | .reported update => some update
  | _ => none

/-- The updates in the order of their delivery. -/
def updates (log : Log) : List Update := (log.filterMap updateOf?).reverse

/-- The name of the operation that an event dispatches. -/
def operationOf? : Event → Option String
  | .dispatched _ operation => some operation
  | _ => none

/-- The names of the dispatched operations in order. -/
def operations (log : Log) : List String := (log.filterMap operationOf?).reverse

def waits (log : Log) : Nat := log.count .waited

end Log

/-- When a host cancels a bake. Updates and waits are counted from one. -/
inductive Moment where
  | beforehand
  | update (n : Nat)
  | wait (n : Nat)
  deriving DecidableEq, Repr, Inhabited

/-- A moment has come by the time of some events. -/
def Moment.isReached (log : Log) : Moment → Bool
  | beforehand => true
  | update n => decide (0 < n) && decide (n ≤ (log.filterMap Log.updateOf?).length)
  | wait n => decide (0 < n) && decide (n ≤ log.waits)

/-- What a host asks of a bake. -/
structure Control where
  /-- When the host cancels, if it does. -/
  cancelAt : Option Moment
  /-- Whether the host listens to updates; without a listener none are delivered. -/
  listening : Bool
  honourBreakpoints : Bool
  /-- The first step to run; a breakpoint on it does not pause. -/
  startFrom : Nat
  deriving DecidableEq, Repr, Inhabited

namespace Control

/-- Breakpoints pause, nobody listens and nobody cancels. -/
def default : Control := ⟨none, false, true, 0⟩

def isCancelled (control : Control) (log : Log) : Bool :=
  match control.cancelAt with
  | some moment => moment.isReached log
  | none => false

/-- The control of a branch: the same cancellation and listener, breakpoints off. -/
def forBranch (control : Control) : Control :=
  { control with honourBreakpoints := false, startFrom := 0 }

def ignoringBreakpoints (control : Control) : Control :=
  { control with honourBreakpoints := false }

end Control

/-- What an operation may see of the bake that it runs in. -/
structure Context where
  step : Nat
  operation : String
  control : Control
  deriving DecidableEq, Repr, Inhabited

namespace Context

/-- Delivers an update, its percentage capped, if anybody listens. -/
def report (context : Context) (message : String) (percent : Option Nat) (log : Log) : Log :=
  if context.control.listening then
    .reported ⟨context.step, context.operation, message, percent.map (min · 100)⟩ :: log
  else log

end Context
end Kitchen
