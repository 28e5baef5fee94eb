import Kitchen.Bake.Outcome
import Kitchen.Number.Power

/-!
# Metrics

Counters of bakes by how they ended, and of operations by how often they were called and how often
they ended a bake, with the time that all this took.
-/

namespace Kitchen

/-- Time in nanoseconds. -/
abbrev Nanoseconds := Nat

/-- A time in milliseconds: seconds and their fraction are added first, then scaled. -/
def Nanoseconds.milliseconds (time : Nanoseconds) : Binary64 :=
  let second : Nat := tenTo 9
  (Binary64.ofNat (time / second) + Binary64.ofNat (time % second) / Binary64.ofNat second) *
    Binary64.ofNat 1000

structure OperationMetrics where
  calls : Nat
  /-- The calls that ended their bake. -/
  failures : Nat
  /-- Times in milliseconds. -/
  total : Binary64
  longest : Binary64
  deriving DecidableEq, Repr, Inhabited

namespace OperationMetrics

def zero : OperationMetrics := ⟨0, 0, .ofNat 0, .ofNat 0⟩

/-- A call that took a time. -/
def addCall (metrics : OperationMetrics) (time : Nanoseconds) : OperationMetrics :=
  { metrics with
    calls := metrics.calls + 1
    total := metrics.total + time.milliseconds
    longest := metrics.longest.max time.milliseconds }

/-- A call that ended its bake. -/
def addFailure (metrics : OperationMetrics) : OperationMetrics :=
  { metrics with failures := metrics.failures + 1 }

/-- The mean time of a call, in milliseconds. -/
def mean (metrics : OperationMetrics) : Binary64 :=
  if metrics.calls = 0 then .ofNat 0 else metrics.total / .ofNat metrics.calls

end OperationMetrics

/-- The counters of everything. Names are in order. -/
structure Metrics where
  operations : List (String × OperationMetrics)
  completed : Nat
  paused : Nat
  failed : Nat
  /-- Failed bakes by the kind of failure. -/
  failures : List (String × Nat)
  /-- The time of the last bake that did not fail, in milliseconds. -/
  lastTime : Binary64
  deriving DecidableEq, Repr, Inhabited

/-- Changes the value under a name in a list ordered by name, from a start value if it is new. -/
def updateAt {α : Type} (zero : α) (change : α → α) (name : String) :
    List (String × α) → List (String × α)
  | [] => [(name, change zero)]
  | (n, value) :: rest =>
    if name = n then (n, change value) :: rest
    else if name < n then (name, change zero) :: (n, value) :: rest
    else (n, value) :: updateAt zero change name rest

namespace Metrics

def zero : Metrics := ⟨[], 0, 0, 0, [], .ofNat 0⟩

/-- Changes the counters of an operation. -/
def updateOperation (metrics : Metrics) (change : OperationMetrics → OperationMetrics)
    (operation : String) : Metrics :=
  { metrics with operations := updateAt .zero change operation metrics.operations }

/-- A call of an operation that took a time. -/
def addCall (metrics : Metrics) (time : Nanoseconds) (operation : String) : Metrics :=
  metrics.updateOperation (·.addCall time) operation

/-- A bake that did not fail. -/
def addBake (metrics : Metrics) (status : Status) (time : Nanoseconds) : Metrics :=
  match status with
  | .completed =>
    { metrics with completed := metrics.completed + 1, lastTime := time.milliseconds }
  | .paused _ => { metrics with paused := metrics.paused + 1, lastTime := time.milliseconds }

/-- A failure that is charged to the operation of its step: recipes that do not fit and cancelled
bakes are charged to none. -/
def isCharged (kind : FailureKind) : Bool := kind != .configuration && kind != .cancelled

def addFailure (metrics : Metrics) (failure : Failure) : Metrics :=
  let counted :=
    { metrics with
      failed := metrics.failed + 1
      failures := updateAt 0 (· + 1) failure.kind.label metrics.failures }
  if isCharged failure.kind then counted.updateOperation .addFailure failure.operation else counted

/-- The end of a bake; its time is not taken. -/
def addResult (metrics : Metrics) : Result → Metrics
  | .ok outcome => metrics.addBake outcome.status 0
  | .error failure => metrics.addFailure failure

/-- A call for a bake: the operations that it dispatched, and its end if that is counted. -/
def addAttempt (metrics : Metrics) (attempt : Attempt) : Metrics :=
  let called := attempt.log.operations.foldl (·.addCall 0 ·) metrics
  if attempt.counted then called.addResult attempt.result else called

end Metrics

/-- A registry with the metrics of all bakes with it. -/
structure Chef where
  registry : Registry
  metrics : Metrics

namespace Chef

/-- A chef who has not baked yet. -/
def new (registry : Registry) : Chef := ⟨registry, .zero⟩

/-- Counts an attempt. -/
def count (chef : Chef) (attempt : Attempt) : Chef :=
  { chef with metrics := chef.metrics.addAttempt attempt }

/-- Bakes an input by a recipe. -/
def bake (chef : Chef) (fuel : Nat) (recipe : Recipe) (input : Dish) (control : Control) :
    Option (Attempt × Chef) :=
  (chef.registry.bake fuel recipe input control).map fun attempt => (attempt, chef.count attempt)

/-- Goes on with a paused bake. -/
def resume (chef : Chef) (fuel : Nat) (recipe : Recipe) (paused : Outcome) (control : Control) :
    Option (Attempt × Chef) :=
  (chef.registry.resume fuel recipe paused control).map fun attempt => (attempt, chef.count attempt)

end Chef
end Kitchen
