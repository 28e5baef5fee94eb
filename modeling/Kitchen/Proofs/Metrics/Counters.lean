import Kitchen.Metrics.Basic
import Mathlib.Data.String.Basic

/-!
# Counters

What the metrics say about each name and kind, and how an attempt changes it. The entries of a list
of counters stand in the order of their names, each name once; so a counter that is raised is the one
that is looked up, and no other one changes.
-/

namespace Kitchen

section Entries

variable {α : Type}

/-- The entries stand in the order of their names, each name once. -/
def InOrder (entries : List (String × α)) : Prop := entries.Pairwise fun a b => a.1 < b.1

theorem mem_updateAt {zero : α} {change : α → α} {name : String} {entries : List (String × α)}
    {entry : String × α} (h : entry ∈ updateAt zero change name entries) :
    entry.1 = name ∨ entry ∈ entries := by
  induction entries with
  | nil =>
    obtain rfl : entry = (name, change zero) := by simpa [updateAt] using h
    exact .inl rfl
  | cons first rest ih =>
    obtain ⟨n, value⟩ := first
    simp only [updateAt] at h
    split at h
    · rename_i hname
      rcases List.mem_cons.mp h with rfl | h
      · exact .inl hname.symm
      · exact .inr (List.mem_cons_of_mem _ h)
    · split at h
      · rcases List.mem_cons.mp h with rfl | h
        · exact .inl rfl
        · exact .inr h
      · rcases List.mem_cons.mp h with rfl | h
        · exact .inr List.mem_cons_self
        · exact (ih h).imp id (List.mem_cons_of_mem _)

theorem InOrder.updateAt {entries : List (String × α)} (h : InOrder entries) (zero : α)
    (change : α → α) (name : String) : InOrder (updateAt zero change name entries) := by
  induction entries with
  | nil => simp [Kitchen.updateAt, InOrder]
  | cons first rest ih =>
    obtain ⟨n, value⟩ := first
    obtain ⟨hfirst, hrest⟩ := List.pairwise_cons.mp h
    simp only [Kitchen.updateAt]
    split
    · exact List.pairwise_cons.mpr ⟨hfirst, hrest⟩
    · rename_i hne
      split
      · rename_i hlt
        refine List.pairwise_cons.mpr ⟨?_, h⟩
        intro entry hmem
        rcases List.mem_cons.mp hmem with rfl | hmem
        · exact hlt
        · exact lt_trans hlt (hfirst entry hmem)
      · rename_i hnot
        have hgt : n < name := lt_of_le_of_ne (not_lt.mp hnot) (Ne.symm hne)
        refine List.pairwise_cons.mpr ⟨?_, ih hrest⟩
        intro entry hmem
        rcases mem_updateAt hmem with hname | hmem
        · rw [hname]
          exact hgt
        · exact hfirst entry hmem

theorem lookup_eq_none_of_lt {entries : List (String × α)} {name : String}
    (h : ∀ entry ∈ entries, name < entry.1) : entries.lookup name = none := by
  refine List.lookup_eq_none_iff.mpr ?_
  intro entry hmem
  exact bne_iff_ne.mpr (ne_of_lt (h entry hmem))

private theorem lookup_cons_eq (n name : String) (value : α) (rest : List (String × α)) :
    ((n, value) :: rest).lookup name = if name = n then some value else rest.lookup name := by
  rw [List.lookup_cons]
  by_cases h : name = n
  · simp [h]
  · have hbeq : (name == n) = false := beq_eq_false_iff_ne.mpr h
    simp only [hbeq, if_neg h]

/-- The value under the name has changed, and no other. -/
theorem lookup_updateAt {entries : List (String × α)} (h : InOrder entries) (zero : α)
    (change : α → α) (name other : String) :
    (updateAt zero change name entries).lookup other =
      if other = name then some (change ((entries.lookup name).getD zero))
      else entries.lookup other := by
  induction entries with
  | nil => rw [updateAt, lookup_cons_eq]; rfl
  | cons first rest ih =>
    obtain ⟨n, value⟩ := first
    obtain ⟨hfirst, hrest⟩ := List.pairwise_cons.mp h
    by_cases hn : name = n
    · rw [updateAt, if_pos hn, lookup_cons_eq, lookup_cons_eq, lookup_cons_eq, if_pos hn, hn]
      by_cases hother : other = n <;> simp [hother]
    · rw [updateAt, if_neg hn]
      by_cases hlt : name < n
      · have hnone : ((n, value) :: rest).lookup name = none := by
          apply lookup_eq_none_of_lt
          intro entry hmem
          rcases List.mem_cons.mp hmem with rfl | hmem
          · exact hlt
          · exact lt_trans hlt (hfirst entry hmem)
        rw [if_pos hlt, hnone, lookup_cons_eq]
        rfl
      · rw [if_neg hlt, lookup_cons_eq, lookup_cons_eq, lookup_cons_eq, ih hrest, if_neg hn]
        by_cases hother : other = name
        · rw [if_neg (hother.trans_ne hn), if_pos hother, if_pos hother]
        · rw [if_neg hother, if_neg hother]

end Entries

/-! ## Attempts -/

namespace Attempt

/-- The status with which the attempt ended, unless it failed. -/
def status? (attempt : Attempt) : Option Status :=
  match attempt.result with
  | .ok outcome => some outcome.status
  | .error _ => none

def isCompleted (attempt : Attempt) : Bool := attempt.status? == some .completed

def isPaused (attempt : Attempt) : Bool :=
  match attempt.status? with
  | some (.paused _) => true
  | _ => false

/-- The failure in which the attempt ended, if it did. -/
def failure? (attempt : Attempt) : Option Failure :=
  match attempt.result with
  | .ok _ => none
  | .error failure => some failure

/-- The attempt failed, and the failure is charged to the operation. -/
def isChargedTo (attempt : Attempt) (operation : String) : Bool :=
  attempt.failure?.any fun failure =>
    Metrics.isCharged failure.kind && failure.operation == operation

theorem isChargedTo_iff {attempt : Attempt} {operation : String} :
    attempt.isChargedTo operation = true ↔ ∃ failure, attempt.result = .error failure ∧
      Metrics.isCharged failure.kind = true ∧ failure.operation = operation := by
  cases hresult : attempt.result with
  | ok outcome => simp [isChargedTo, failure?, hresult]
  | error failure => simp [isChargedTo, failure?, hresult]

end Attempt

theorem FailureKind.label_injective {kind kind' : FailureKind} (h : kind.label = kind'.label) :
    kind = kind' := by
  cases kind <;> cases kind' <;> first | rfl | exact absurd h (by decide)

/-! ## Metrics -/

namespace Metrics

/-- The counters of an operation. -/
def operation (metrics : Metrics) (name : String) : OperationMetrics :=
  (metrics.operations.lookup name).getD .zero

/-- The number of bakes that failed in a way. -/
def failuresOf (metrics : Metrics) (kind : FailureKind) : Nat :=
  (metrics.failures.lookup kind.label).getD 0

/-- Both lists of counters are in order. -/
structure Ordered (metrics : Metrics) : Prop where
  operations : InOrder metrics.operations
  failures : InOrder metrics.failures

theorem ordered_zero : zero.Ordered := ⟨.nil, .nil⟩

variable {metrics : Metrics}

theorem Ordered.updateOperation (h : metrics.Ordered) (change : OperationMetrics → OperationMetrics)
    (name : String) : (metrics.updateOperation change name).Ordered :=
  ⟨h.operations.updateAt _ _ _, h.failures⟩

theorem operation_updateOperation (h : metrics.Ordered)
    (change : OperationMetrics → OperationMetrics) (name other : String) :
    (metrics.updateOperation change name).operation other =
      if other = name then change (metrics.operation name) else metrics.operation other := by
  simp only [operation, updateOperation, lookup_updateAt h.operations]
  split <;> rfl

/-! ### Calls -/

/-- The calls of operations one after another. -/
def addCalls (metrics : Metrics) (names : List String) : Metrics := names.foldl (·.addCall 0 ·) metrics

theorem Ordered.addCalls (h : metrics.Ordered) (names : List String) :
    (metrics.addCalls names).Ordered := by
  induction names generalizing metrics with
  | nil => exact h
  | cons name names ih => exact ih (h.updateOperation _ _)

/-- Calls of operations raise their counts of calls and nothing else. -/
theorem operation_addCalls (h : metrics.Ordered) (names : List String) (other : String) :
    ((metrics.addCalls names).operation other).calls =
        (metrics.operation other).calls + names.count other ∧
      ((metrics.addCalls names).operation other).failures = (metrics.operation other).failures := by
  induction names generalizing metrics with
  | nil => exact ⟨rfl, rfl⟩
  | cons name names ih =>
    have hnext : (metrics.addCall 0 name).operation other =
        if other = name then (metrics.operation name).addCall 0 else metrics.operation other :=
      operation_updateOperation h _ name other
    obtain ⟨hcalls, hfailures⟩ := @ih (metrics.addCall 0 name) (h.updateOperation _ _)
    rw [hnext] at hcalls hfailures
    change ((metrics.addCall 0 name).addCalls names |>.operation other).calls = _ ∧
      ((metrics.addCall 0 name).addCalls names |>.operation other).failures = _
    rw [hcalls, hfailures, List.count_cons]
    by_cases hother : other = name
    · subst hother
      simp [OperationMetrics.addCall]
      omega
    · have hbeq : (name == other) = false := beq_eq_false_iff_ne.mpr (Ne.symm hother)
      simp [hother, hbeq]

/-- Calls of operations touch no other counter. -/
theorem addCalls_eq (metrics : Metrics) (names : List String) :
    metrics.addCalls names = { metrics with operations := (metrics.addCalls names).operations } := by
  induction names generalizing metrics with
  | nil => rfl
  | cons name names ih =>
    change (metrics.addCall 0 name).addCalls names = _
    rw [ih]
    rfl

/-! ### Failures -/

/-- A failure is counted, under its kind too, and it may be charged to an operation. -/
theorem addFailure_eq (metrics : Metrics) (failure : Failure) :
    metrics.addFailure failure = { metrics with
      failed := metrics.failed + 1
      failures := updateAt 0 (· + 1) failure.kind.label metrics.failures
      operations := if isCharged failure.kind then
          updateAt .zero .addFailure failure.operation metrics.operations
        else metrics.operations } := by
  unfold addFailure
  cases isCharged failure.kind <;> rfl

theorem Ordered.addFailure (h : metrics.Ordered) (failure : Failure) :
    (metrics.addFailure failure).Ordered := by
  rw [addFailure_eq]
  refine ⟨?_, h.failures.updateAt _ _ _⟩
  dsimp only
  split
  · exact h.operations.updateAt _ _ _
  · exact h.operations

theorem failuresOf_addFailure (h : metrics.Ordered) (failure : Failure) (kind : FailureKind) :
    (metrics.addFailure failure).failuresOf kind =
      metrics.failuresOf kind + if failure.kind == kind then 1 else 0 := by
  rw [addFailure_eq, failuresOf, lookup_updateAt h.failures]
  by_cases hkind : failure.kind = kind
  · simp [hkind, failuresOf]
  · have hlabel : kind.label ≠ failure.kind.label := by
      intro hl
      exact hkind (FailureKind.label_injective hl).symm
    simp [hkind, hlabel, failuresOf]

theorem operation_addFailure (h : metrics.Ordered) (failure : Failure) (name : String) :
    ((metrics.addFailure failure).operation name).calls = (metrics.operation name).calls ∧
      ((metrics.addFailure failure).operation name).failures =
        (metrics.operation name).failures +
          if isCharged failure.kind && failure.operation == name then 1 else 0 := by
  rw [addFailure_eq]
  cases isCharged failure.kind with
  | false => exact ⟨rfl, rfl⟩
  | true =>
    simp only [if_true, operation, lookup_updateAt h.operations, Bool.true_and]
    by_cases hname : name = failure.operation
    · subst hname
      simp [OperationMetrics.addFailure]
    · have hbeq : (failure.operation == name) = false := beq_eq_false_iff_ne.mpr (Ne.symm hname)
      simp [hname, hbeq]

/-! ### Attempts -/

/-- A bake that did not fail touches neither the counters of failures nor those of operations. -/
theorem addBake_eq (metrics : Metrics) (status : Status) (time : Nanoseconds) :
    (metrics.addBake status time).operations = metrics.operations ∧
      (metrics.addBake status time).failures = metrics.failures ∧
      (metrics.addBake status time).failed = metrics.failed := by
  cases status <;> exact ⟨rfl, rfl, rfl⟩

theorem Ordered.addBake (h : metrics.Ordered) (status : Status) (time : Nanoseconds) :
    (metrics.addBake status time).Ordered := by
  obtain ⟨hoperations, hfailures, _⟩ := metrics.addBake_eq status time
  exact ⟨hoperations ▸ h.operations, hfailures ▸ h.failures⟩

theorem addAttempt_eq (metrics : Metrics) (attempt : Attempt) :
    metrics.addAttempt attempt =
      if attempt.counted then (metrics.addCalls attempt.log.operations).addResult attempt.result
      else metrics.addCalls attempt.log.operations := rfl

theorem Ordered.addAttempt (h : metrics.Ordered) (attempt : Attempt) :
    (metrics.addAttempt attempt).Ordered := by
  have hcalls := h.addCalls attempt.log.operations
  rw [addAttempt_eq]
  split
  · cases attempt.result with
    | error failure => exact hcalls.addFailure failure
    | ok outcome => exact hcalls.addBake outcome.status 0
  · exact hcalls

/-! What a counted attempt adds to each counter. -/

variable (attempt : Attempt)

theorem completed_addAttempt (metrics : Metrics) :
    (metrics.addAttempt attempt).completed =
      metrics.completed + if attempt.counted && attempt.isCompleted then 1 else 0 := by
  obtain ⟨result, log, counted⟩ := attempt
  rw [addAttempt_eq, addCalls_eq]
  cases counted with
  | false => rfl
  | true =>
    cases result with
    | error failure => simp [addResult, addFailure_eq, Attempt.isCompleted, Attempt.status?]
    | ok outcome =>
      cases hstatus : outcome.status <;>
        simp [addResult, addBake, Attempt.isCompleted, Attempt.status?, hstatus]

theorem paused_addAttempt (metrics : Metrics) :
    (metrics.addAttempt attempt).paused =
      metrics.paused + if attempt.counted && attempt.isPaused then 1 else 0 := by
  obtain ⟨result, log, counted⟩ := attempt
  rw [addAttempt_eq, addCalls_eq]
  cases counted with
  | false => rfl
  | true =>
    cases result with
    | error failure => simp [addResult, addFailure_eq, Attempt.isPaused, Attempt.status?]
    | ok outcome =>
      cases hstatus : outcome.status <;>
        simp [addResult, addBake, Attempt.isPaused, Attempt.status?, hstatus]

theorem failed_addAttempt (metrics : Metrics) :
    (metrics.addAttempt attempt).failed =
      metrics.failed + if attempt.counted && attempt.failure?.isSome then 1 else 0 := by
  obtain ⟨result, log, counted⟩ := attempt
  rw [addAttempt_eq, addCalls_eq]
  cases counted with
  | false => rfl
  | true =>
    cases result with
    | error failure => simp [addResult, addFailure_eq, Attempt.failure?]
    | ok outcome => simp [addResult, addBake_eq, Attempt.failure?]

theorem failuresOf_addAttempt (h : metrics.Ordered) (kind : FailureKind) :
    (metrics.addAttempt attempt).failuresOf kind =
      metrics.failuresOf kind +
        if attempt.counted && attempt.failure?.any (·.kind == kind) then 1 else 0 := by
  have hcalls : (metrics.addCalls attempt.log.operations).failuresOf kind =
      metrics.failuresOf kind := by
    rw [addCalls_eq]
    rfl
  rw [addAttempt_eq, ← hcalls]
  obtain ⟨result, log, counted⟩ := attempt
  cases counted with
  | false => rfl
  | true =>
    cases result with
    | error failure =>
      simpa [addResult, Attempt.failure?] using failuresOf_addFailure (h.addCalls _) failure kind
    | ok outcome => simp [addResult, failuresOf, addBake_eq, Attempt.failure?]

theorem operation_addAttempt (h : metrics.Ordered) (name : String) :
    ((metrics.addAttempt attempt).operation name).calls =
        (metrics.operation name).calls + attempt.log.operations.count name ∧
      ((metrics.addAttempt attempt).operation name).failures =
        (metrics.operation name).failures +
          if attempt.counted && attempt.isChargedTo name then 1 else 0 := by
  obtain ⟨hcalls, hfailures⟩ := operation_addCalls h attempt.log.operations name
  rw [addAttempt_eq, ← hcalls, ← hfailures]
  obtain ⟨result, log, counted⟩ := attempt
  cases counted with
  | false => exact ⟨rfl, rfl⟩
  | true =>
    cases result with
    | error failure =>
      simpa [addResult, Attempt.isChargedTo, Attempt.failure?] using
        operation_addFailure (h.addCalls _) failure name
    | ok outcome => simp [addResult, operation, addBake_eq, Attempt.isChargedTo, Attempt.failure?]

end Metrics
end Kitchen
