import Kitchen.Proofs.Metrics.Calls
import Kitchen.Proofs.Run.Charge
import Kitchen.Proofs.Run.Result

/-!
# Charges of operations

The calls of an operation are the steps dispatched under its name, and its failures are the bakes
that ended in such a step. So there are no more of these than of those, whatever forks, crashes and
cancellations lie between. Only the name under which the dish of a completed bake is turned into the
kind that the recipe asks for stands for no step.
-/

namespace Kitchen

/-! ## Charged attempts -/

namespace Registry

/-- The run of the call completes, but not with a dish that gives the kind that is asked for. -/
def LacksKind (registry : Registry) (call : Call) : Prop :=
  ∃ plan state control finished failure, registry.Runs call plan state control ∧
    plan.SectionEnds (plan.control control) state [] finished ∧
    finished.result = .ok .completed ∧
    plan.options.serve .completed finished.state = .error failure

/-- A failure is charged to an operation that the attempt has dispatched, unless the dish of a
completed run lacks the kind that is asked for. -/
theorem Answered.charged {registry : Registry} {call : Call} {attempt : Attempt}
    (h : registry.Answered call attempt) (hr : registry.Accountable) (hc : attempt.counted = true)
    {name : String} (hcharged : attempt.isChargedTo name = true) :
    name ∈ attempt.log.operations ∨ name = "output" ∧ registry.LacksKind call := by
  obtain ⟨failure, hfailure, hkind, rfl⟩ := Attempt.isChargedTo_iff.mp hcharged
  cases h with
  | idle => simp at hfailure
  | unfitResumption => simp at hc
  | unfitBake hp =>
    obtain ⟨_, _, _, rfl⟩ := prepare_eq_error hp
    obtain rfl := Except.error.inj hfailure
    simp [Failure.configuration, Failure.plain, Metrics.isCharged] at hkind
  | @ended call plan state control finished hruns hends =>
    obtain ⟨raised, rfl, hcases⟩ := SectionEnd.toResult_eq_error hfailure
    obtain ⟨_, hoperation, hsame⟩ := raised.ofBake_eq finished.state.dish
    rw [hoperation]
    rw [hsame] at hkind
    rcases hcases with hraised | ⟨hcompleted, hserve⟩
    · have hplan : plan.registry = registry := by
        cases hruns with
        | bake hp => exact (prepare_eq_ok hp).2.1
        | resume hp _ => exact (prepare_eq_ok hp).2.1
      rcases hends.charged (hplan ▸ hr) hraised with hcancelled | hnames
      · simp [hcancelled, Metrics.isCharged] at hkind
      · exact .inl hnames
    · obtain ⟨_, message, rfl⟩ := Options.serve_eq_error hserve
      exact .inr ⟨rfl, plan, state, control, finished, _, hruns, hends, hcompleted, hserve⟩

end Registry

/-! ## Charged calls -/

namespace Chef

variable {registry : Registry} {last : Chef} {served : List (Call × Attempt)}

/-- The calls of a name are the steps dispatched under it, its failures are the counted bakes that
failed there, and these are not more than those. This holds of the name under which dishes are turned
into the kinds that are asked for as long as none of them lacks it. -/
theorem failures_le_calls (hr : registry.Accountable) (h : (Chef.new registry).Serves served last)
    (name : String) :
    (last.metrics.operation name).calls = (served.flatMap (·.2.log.operations)).count name ∧
    (last.metrics.operation name).failures =
      served.countP (fun s => s.2.counted && s.2.isChargedTo name) ∧
    ((name = "output" → ∀ s ∈ served, ¬ registry.LacksKind s.1) →
      (last.metrics.operation name).failures ≤ (last.metrics.operation name).calls) := by
  have hcalls : (last.metrics.operation name).calls =
      (served.map fun s => s.2.log.operations.count name).sum := by
    rw [h.sum (fun metrics => (metrics.operation name).calls) _ (fun metrics attempt hordered =>
      (Metrics.operation_addAttempt attempt hordered name).1) Metrics.ordered_zero]
    exact Nat.zero_add _
  have hfailures : (last.metrics.operation name).failures =
      served.countP (fun s => s.2.counted && s.2.isChargedTo name) :=
    h.countP (fun metrics => (metrics.operation name).failures) _ rfl
      fun metrics attempt hordered => (Metrics.operation_addAttempt attempt hordered name).2
  refine ⟨hcalls.trans (List.count_flatMap ..).symm, hfailures, fun houtput => ?_⟩
  rw [hfailures, hcalls, ← sum_map_ite]
  refine List.sum_le_sum fun s hmem => ?_
  split
  · rename_i hcounted
    obtain ⟨hc, hcharged⟩ := Bool.and_eq_true_iff.mp hcounted
    rcases (h.answered hmem).charged hr hc hcharged with hnames | ⟨rfl, hlacks⟩
    · exact List.count_pos_iff.mpr hnames
    · exact absurd hlacks (houtput rfl s hmem)
  · exact Nat.zero_le _

end Chef

/-! ## Crashes in branches and at the top -/

/-- The built-in operations, and one that crashes. -/
def Registry.explosive : Registry := builtIn.registerAll [Specimen.explode]

theorem Registry.accountable_explosive : explosive.Accountable := by
  refine accountable_builtIn.registerAll fun operation hmem => ?_
  obtain rfl := List.mem_singleton.mp hmem
  exact Operation.accountable_failing _ (by simp)

/-- Every piece crashes, and is left out. -/
def Recipe.explodedPieces : Recipe :=
  ⟨1, [⟨"Fork", [.text ",", .text "-", .bool true], false, false⟩,
    ⟨"Explode", [], false, false⟩, ⟨"Merge", [], false, false⟩], .default⟩

def Recipe.exploded : Recipe := ⟨1, [⟨"Explode", [], false, false⟩], .default⟩

def Call.explosions : List Call :=
  [.bake .explodedPieces (.string "a,b") .default, .bake .exploded (.string "x") .default]

/-- Of three crashes one ends its bake. -/
theorem Chef.failures_le_calls_explosions :
    ∃ served last, (Chef.new .explosive).Serves served last ∧
      (last.metrics.operation "Explode").calls = 3 ∧
      (last.metrics.operation "Explode").failures = 1 ∧
      (served.flatMap (·.2.log.operations)).count "Explode" = 3 ∧
      (last.metrics.operation "Explode").failures ≤ (last.metrics.operation "Explode").calls := by
  have hcounters : (Chef.answerAll 4 Call.explosions (.new .explosive)).map (fun answers =>
      ((answers.2.metrics.operation "Explode").calls,
        (answers.2.metrics.operation "Explode").failures)) = some (3, 1) := by decide +kernel
  obtain ⟨⟨served, last⟩, hanswers, hvalues⟩ := Option.map_eq_some_iff.mp hcounters
  obtain ⟨hthree, hone⟩ := Prod.mk.inj hvalues
  have h : (Chef.new .explosive).Serves served last := .of_answerAll hanswers
  have hname : "Explode" ≠ "output" := by decide
  obtain ⟨hcalls, _, hle⟩ := failures_le_calls Registry.accountable_explosive h "Explode"
  exact ⟨served, last, h, hthree, hone, hcalls.symm.trans hthree, hle fun heq => absurd heq hname⟩

/-! ## A dish without the kind that is asked for -/

/-- A remark, and then a number is asked for. -/
def Recipe.remarkedNumber : Recipe := ⟨1, [⟨"Comment", [], false, false⟩], ⟨some .number, false⟩⟩

/-- A text that is no number is charged to a name under which nothing was called. -/
theorem Chef.not_failures_le_calls_output :
    ¬ ∀ registry served last, (Chef.new registry).Serves served last → ∀ name,
      (last.metrics.operation name).failures ≤ (last.metrics.operation name).calls := by
  intro h
  have hserves : (Chef.new .builtIn).Serves _ _ :=
    .of_answerAll (show Chef.answerAll 2 [.bake .remarkedNumber (.string "x") .default] _ =
      some (_, _) from rfl)
  have hle := h _ _ _ hserves "output"
  exact absurd hle (by decide)

end Kitchen
