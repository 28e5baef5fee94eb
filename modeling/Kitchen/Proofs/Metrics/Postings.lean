import Kitchen.Proofs.Metrics.Counters

/-!
# Postings

What is entered in the metrics at once: a call of an operation that has returned, a bake that did not
fail, or one that did. A posting raises each counter by an amount of its own, whatever has been
entered before, so the order of postings cannot be seen in any counter. An attempt is counted by the
postings of its calls and of its end.
-/

namespace Kitchen

/-- An entry in the metrics. -/
inductive Posting where
  | call (operation : String) (time : Nanoseconds)
  | bake (status : Status) (time : Nanoseconds)
  | failure (failure : Failure)

/-- The posting of the end of a bake that took a time. -/
def Posting.ofResult (time : Nanoseconds) : Result → Posting
  | .ok outcome => .bake outcome.status time
  | .error error => .failure error

/-- What the metrics count; times are not counted. -/
inductive Counter where
  | calls (operation : String)
  | failures (operation : String)
  | completed
  | paused
  | failed
  | failuresOf (kind : FailureKind)
  deriving DecidableEq, Repr

namespace Counter

def read (metrics : Metrics) : Counter → Nat
  | calls operation => (metrics.operation operation).calls
  | failures operation => (metrics.operation operation).failures
  | completed => metrics.completed
  | paused => metrics.paused
  | failed => metrics.failed
  | failuresOf kind => metrics.failuresOf kind

/-- By how much calls of operations raise a counter. -/
def calledIn (operations : List String) : Counter → Nat
  | calls operation => operations.count operation
  | _ => 0

theorem calledIn_append (operations others : List String) (counter : Counter) :
    counter.calledIn (operations ++ others) =
      counter.calledIn operations + counter.calledIn others := by
  cases counter <;> simp [calledIn]

theorem calledIn_perm {operations others : List String} (h : operations.Perm others)
    (counter : Counter) : counter.calledIn operations = counter.calledIn others := by
  cases counter <;> simp [calledIn, h.count_eq]

@[simp] theorem calledIn_nil (counter : Counter) : counter.calledIn [] = 0 := by
  cases counter <;> rfl

end Counter

/-- By how much a posting raises a counter. -/
def Posting.raises : Posting → Counter → Nat
  | .call operation _, counter => counter.calledIn [operation]
  | .bake .completed _, .completed => 1
  | .bake (.paused _) _, .paused => 1
  | .bake _ _, _ => 0
  | .failure _, .failed => 1
  | .failure cause, .failuresOf kind => if cause.kind == kind then 1 else 0
  | .failure cause, .failures operation =>
    if Metrics.isCharged cause.kind && cause.operation == operation then 1 else 0
  | .failure _, _ => 0

namespace Metrics

def post (metrics : Metrics) : Posting → Metrics
  | .call operation time => metrics.addCall time operation
  | .bake status time => metrics.addBake status time
  | .failure failure => metrics.addFailure failure

variable {metrics : Metrics}

theorem Ordered.post (h : metrics.Ordered) (posting : Posting) : (metrics.post posting).Ordered := by
  cases posting with
  | call operation time => exact h.updateOperation _ _
  | bake status time => exact h.addBake status time
  | failure failure => exact h.addFailure failure

private theorem read_addCall (h : metrics.Ordered) (time : Nanoseconds) (name : String)
    (counter : Counter) :
    counter.read (metrics.addCall time name) = counter.read metrics + counter.calledIn [name] := by
  have hcalled := operation_updateOperation h (·.addCall time) name
  cases counter with
  | calls other =>
    change ((metrics.updateOperation _ name).operation other).calls = _ + [name].count other
    rw [hcalled, List.count_singleton]
    by_cases hother : other = name
    · subst hother
      simp [Counter.read, OperationMetrics.addCall]
    · have hbeq : (name == other) = false := beq_eq_false_iff_ne.mpr (Ne.symm hother)
      simp [Counter.read, hother, hbeq]
  | failures other =>
    change ((metrics.updateOperation _ name).operation other).failures = _
    rw [hcalled]
    split
    · rename_i hother
      rw [hother]
      rfl
    · rfl
  | completed => rfl
  | paused => rfl
  | failed => rfl
  | failuresOf kind => rfl

private theorem read_addBake (metrics : Metrics) (status : Status) (time : Nanoseconds)
    (counter : Counter) :
    counter.read (metrics.addBake status time) =
      counter.read metrics + (Posting.bake status time).raises counter := by
  cases status <;> cases counter <;> rfl

private theorem read_addFailure (h : metrics.Ordered) (failure : Failure) (counter : Counter) :
    counter.read (metrics.addFailure failure) =
      counter.read metrics + (Posting.failure failure).raises counter := by
  cases counter with
  | calls name => exact (operation_addFailure h failure name).1
  | failures name => exact (operation_addFailure h failure name).2
  | failuresOf kind => exact failuresOf_addFailure h failure kind
  | completed => rw [addFailure_eq]; rfl
  | paused => rw [addFailure_eq]; rfl
  | failed => rw [addFailure_eq]; rfl

/-- A posting raises each counter by its amount. -/
theorem read_post (h : metrics.Ordered) (posting : Posting) (counter : Counter) :
    counter.read (metrics.post posting) = counter.read metrics + posting.raises counter := by
  cases posting with
  | call operation time => exact read_addCall h time operation counter
  | bake status time => exact read_addBake metrics status time counter
  | failure failure => exact read_addFailure h failure counter

/-! ## Attempts -/

theorem post_ofResult (metrics : Metrics) (result : Result) :
    metrics.post (.ofResult 0 result) = metrics.addResult result := by
  cases result <;> rfl

theorem read_addCalls (h : metrics.Ordered) (names : List String) (counter : Counter) :
    counter.read (metrics.addCalls names) = counter.read metrics + counter.calledIn names := by
  induction names generalizing metrics with
  | nil => rw [Counter.calledIn_nil]; rfl
  | cons name names ih =>
    have hnext : (metrics.addCall 0 name).Ordered := h.post (.call name 0)
    calc counter.read ((metrics.addCall 0 name).addCalls names)
      _ = counter.read (metrics.addCall 0 name) + counter.calledIn names := ih hnext
      _ = counter.read metrics + counter.calledIn [name] + counter.calledIn names := by
        rw [read_addCall h]
      _ = counter.read metrics + counter.calledIn ([name] ++ names) := by
        rw [Counter.calledIn_append, Nat.add_assoc]

/-- A counted attempt raises each counter by what its calls and its end do. -/
theorem read_addAttempt (h : metrics.Ordered) (result : Result) (log : Log) (counter : Counter) :
    counter.read (metrics.addAttempt ⟨result, log, true⟩) =
      counter.read metrics + (counter.calledIn log.operations +
        (Posting.ofResult 0 result).raises counter) := by
  rw [addAttempt_eq, if_pos rfl, ← post_ofResult, read_post (h.addCalls _), read_addCalls h,
    Nat.add_assoc]

theorem read_zero (counter : Counter) : counter.read zero = 0 := by
  cases counter <;> rfl

end Metrics

theorem Posting.raises_ofResult (time : Nanoseconds) (result : Result) (counter : Counter) :
    (ofResult time result).raises counter = (ofResult 0 result).raises counter := by
  cases result with
  | error failure => rfl
  | ok outcome => cases hstatus : outcome.status <;> cases counter <;> simp [ofResult, raises, hstatus]

end Kitchen
