import Kitchen.Operation.BuiltIn
import Kitchen.Proofs.Metrics.Counters
import Kitchen.Proofs.Recipe.Preparation
import Kitchen.Proofs.Run.Ending
import Mathlib.Algebra.GroupWithZero.Nat
import Mathlib.Algebra.Order.BigOperators.Group.List

/-!
# Calls

A chef who has not baked yet answers calls one after another, bakes and resumptions in any order. The
counters of bakes tell how the calls ended: each that ran and completed, each that ran and paused, and
each that failed, but for resumptions by a recipe that does not fit. Such a resumption fails like a
bake by the recipe, but only the bake is counted.
-/

namespace Kitchen

/-- What a chef is asked for. -/
inductive Call where
  | bake (recipe : Recipe) (input : Dish) (control : Control)
  | resume (recipe : Recipe) (paused : Outcome) (control : Control)

namespace Call

/-- There is something to run: a bake that is complete cannot be resumed. -/
def runs : Call → Bool
  | bake _ _ _ => true
  | resume _ paused _ => !paused.isComplete

/-- A bake that stopped is to be resumed by a recipe that does not fit. -/
def isUnfitResumption (registry : Registry) : Call → Bool
  | bake _ _ _ => false
  | resume recipe paused _ => !paused.isComplete && !(registry.prepare recipe).toBool

end Call

/-- Answers a call. -/
def Registry.answer (registry : Registry) (fuel : Nat) : Call → Option Attempt
  | .bake recipe input control => registry.bake fuel recipe input control
  | .resume recipe paused control => registry.resume fuel recipe paused control

/-- Answers a call and counts it. -/
def Chef.answer (chef : Chef) (fuel : Nat) : Call → Option (Attempt × Chef)
  | .bake recipe input control => chef.bake fuel recipe input control
  | .resume recipe paused control => chef.resume fuel recipe paused control

theorem Chef.answer_eq (chef : Chef) (fuel : Nat) (call : Call) :
    chef.answer fuel call =
      (chef.registry.answer fuel call).map fun attempt => (attempt, chef.count attempt) := by
  cases call <;> rfl

/-- Answers calls one after another. -/
def Chef.answerAll (fuel : Nat) : List Call → Chef → Option (List (Call × Attempt) × Chef)
  | [], chef => some ([], chef)
  | call :: rest, chef => do
    let (attempt, next) ← chef.answer fuel call
    let (served, last) ← answerAll fuel rest next
    return ((call, attempt) :: served, last)

/-- The chef has answered calls, one after another, each to its end, and is left as another. -/
inductive Chef.Serves : Chef → List (Call × Attempt) → Chef → Prop where
  | rest (chef : Chef) : Serves chef [] chef
  | answer {chef next last : Chef} {fuel : Nat} {call : Call} {attempt : Attempt}
      {served : List (Call × Attempt)} : chef.answer fuel call = some (attempt, next) →
      Serves next served last → Serves chef ((call, attempt) :: served) last

namespace Registry

/-- A call runs a plan from a state under a control. -/
inductive Runs (registry : Registry) : Call → Plan → State → Control → Prop where
  | bake {recipe : Recipe} {input : Dish} {control : Control} {plan : Plan} :
      registry.prepare recipe = .ok plan →
      Runs registry (.bake recipe input control) plan (plan.initial input control) control
  | resume {recipe : Recipe} {paused : Outcome} {control : Control} {plan : Plan} {step : Nat} :
      registry.prepare recipe = .ok plan → paused.status = .paused step →
      Runs registry (.resume recipe paused control) plan (plan.resumed step paused)
        { control with startFrom := step }

/-- How a call is answered: by the end of a run, by a recipe that does not fit, or by what there is
already. -/
inductive Answered (registry : Registry) : Call → Attempt → Prop where
  | ended {call : Call} {plan : Plan} {state : State} {control : Control} {finished : SectionEnd} :
      registry.Runs call plan state control →
      plan.SectionEnds (plan.control control) state [] finished →
      Answered registry call ⟨finished.toResult plan.options, finished.log, true⟩
  | unfitBake {recipe : Recipe} {input : Dish} {control : Control} {failure : Failure} :
      registry.prepare recipe = .error failure →
      Answered registry (.bake recipe input control) ⟨.error failure, [], true⟩
  | unfitResumption {recipe : Recipe} {paused : Outcome} {control : Control} {step : Nat}
      {failure : Failure} : paused.status = .paused step →
      registry.prepare recipe = .error failure →
      Answered registry (.resume recipe paused control) ⟨.error failure, [], false⟩
  | idle {recipe : Recipe} {paused : Outcome} {control : Control} : paused.status = .completed →
      Answered registry (.resume recipe paused control) ⟨.ok paused, [], false⟩

variable {registry : Registry} {fuel : Nat} {call : Call} {attempt : Attempt}

theorem answered (h : registry.answer fuel call = some attempt) : registry.Answered call attempt := by
  have hended {plan : Plan} {state : State} {control : Control}
      (hruns : registry.Runs call plan state control)
      (hcomplete : plan.complete fuel state control = some attempt) :
      registry.Answered call attempt := by
    obtain ⟨finished, hf, rfl⟩ := Option.map_eq_some_iff.mp hcomplete
    exact .ended hruns (Plan.sectionEnds_iff.mpr ⟨fuel, hf⟩)
  cases call with
  | bake recipe input control =>
    change registry.bake fuel recipe input control = some attempt at h
    unfold Registry.bake at h
    cases hp : registry.prepare recipe with
    | error failure =>
      rw [hp] at h
      obtain rfl := Option.some.inj h
      exact .unfitBake hp
    | ok plan =>
      rw [hp] at h
      exact hended (.bake hp) h
  | resume recipe paused control =>
    change registry.resume fuel recipe paused control = some attempt at h
    unfold Registry.resume at h
    cases hstatus : paused.status with
    | completed =>
      rw [hstatus] at h
      obtain rfl := Option.some.inj h
      exact .idle hstatus
    | paused step =>
      rw [hstatus] at h
      cases hp : registry.prepare recipe with
      | error failure =>
        simp only [hp] at h
        obtain rfl := Option.some.inj h
        exact .unfitResumption hstatus hp
      | ok plan =>
        simp only [hp] at h
        exact hended (.resume hp hstatus) h

/-- How an answer is counted: as the end of a bake, or not at all, because nothing was run or because
a stopped bake was resumed by a recipe that does not fit. -/
inductive Tallied (registry : Registry) (call : Call) (attempt : Attempt) : Prop where
  | counted : attempt.counted = true → call.runs = true →
      call.isUnfitResumption registry = false → Tallied registry call attempt
  | idle {outcome : Outcome} : attempt.counted = false → call.runs = false →
      call.isUnfitResumption registry = false → attempt.result = .ok outcome →
      Tallied registry call attempt
  | unfit {failure : Failure} : attempt.counted = false → call.runs = true →
      call.isUnfitResumption registry = true → attempt.result = .error failure →
      failure.kind = .configuration → Tallied registry call attempt

theorem Answered.tallied (h : registry.Answered call attempt) : registry.Tallied call attempt := by
  cases h with
  | ended hruns _ =>
    cases hruns with
    | bake hp => exact .counted rfl rfl rfl
    | resume hp hstatus =>
      refine .counted rfl ?_ ?_
      · simp [Call.runs, Outcome.isComplete, hstatus]
      · simp [Call.isUnfitResumption, hp, Except.toBool]
  | unfitBake hp => exact .counted rfl rfl rfl
  | unfitResumption hstatus hp =>
    obtain ⟨_, _, _, rfl⟩ := prepare_eq_error hp
    refine .unfit rfl ?_ ?_ rfl rfl
    · simp [Call.runs, Outcome.isComplete, hstatus]
    · simp [Call.isUnfitResumption, Outcome.isComplete, hstatus, hp, Except.toBool]
  | idle hstatus =>
    refine .idle rfl ?_ ?_ rfl
    · simp [Call.runs, Outcome.isComplete, hstatus]
    · simp [Call.isUnfitResumption, Outcome.isComplete, hstatus]

end Registry

theorem sum_map_ite {α : Type} (p : α → Bool) (l : List α) :
    (l.map fun a => if p a then 1 else 0).sum = l.countP p := by
  induction l with
  | nil => rfl
  | cons a l ih => rw [List.map_cons, List.sum_cons, ih, List.countP_cons, Nat.add_comm]

private theorem countP_add_countP {α : Type} {p q r : α → Bool} {l : List α}
    (h : ∀ a ∈ l, (p a).toNat + (q a).toNat = (r a).toNat) :
    l.countP p + l.countP q = l.countP r := by
  induction l with
  | nil => rfl
  | cons a l ih =>
    have hhead := h a List.mem_cons_self
    have htail := ih fun b hb => h b (List.mem_cons_of_mem a hb)
    have hite (b : Bool) : (if b = true then 1 else 0) = b.toNat := by cases b <;> rfl
    simp only [List.countP_cons, hite]
    omega

namespace Chef

variable {chef last : Chef} {served : List (Call × Attempt)}

theorem Serves.of_answerAll {fuel : Nat} {calls : List Call}
    (h : Chef.answerAll fuel calls chef = some (served, last)) : chef.Serves served last := by
  induction calls generalizing chef served with
  | nil =>
    obtain ⟨rfl, rfl⟩ : [] = served ∧ chef = last := by simpa [answerAll] using h
    exact .rest chef
  | cons call calls ih =>
    rw [answerAll] at h
    obtain ⟨⟨attempt, next⟩, hanswer, h⟩ := Option.bind_eq_some_iff.mp h
    obtain ⟨⟨rest, left⟩, hrest, h⟩ := Option.bind_eq_some_iff.mp h
    obtain ⟨rfl, rfl⟩ : (call, attempt) :: rest = served ∧ left = last := by simpa using h
    exact .answer hanswer (ih hrest)

theorem Serves.answered (h : chef.Serves served last) {call : Call} {attempt : Attempt}
    (hmem : (call, attempt) ∈ served) : chef.registry.Answered call attempt := by
  induction h with
  | rest chef => simp at hmem
  | @answer chef next last fuel first attempt' served hanswer _ ih =>
    rw [answer_eq] at hanswer
    obtain ⟨found, hfound, heq⟩ := Option.map_eq_some_iff.mp hanswer
    obtain ⟨rfl, rfl⟩ := Prod.mk.inj heq
    rcases List.mem_cons.mp hmem with hhead | htail
    · obtain ⟨rfl, rfl⟩ := Prod.mk.inj hhead
      exact Registry.answered hfound
    · exact ih htail

/-- A counter that every attempt raises by some amount comes to the sum of the amounts. -/
theorem Serves.sum (counter : Metrics → Nat) (amount : Attempt → Nat)
    (hstep : ∀ metrics attempt, metrics.Ordered →
      counter (metrics.addAttempt attempt) = counter metrics + amount attempt)
    (h : chef.Serves served last) (hordered : chef.metrics.Ordered) :
    counter last.metrics = counter chef.metrics + (served.map (amount ·.2)).sum := by
  induction h with
  | rest chef => rfl
  | @answer chef next last fuel call attempt served hanswer _ ih =>
    rw [answer_eq] at hanswer
    obtain ⟨found, _, heq⟩ := Option.map_eq_some_iff.mp hanswer
    obtain ⟨rfl, rfl⟩ := Prod.mk.inj heq
    rw [ih (hordered.addAttempt found), count, hstep _ _ hordered, List.map_cons, List.sum_cons,
      Nat.add_assoc]

/-- A counter that starts at zero, and that some attempts raise by one, counts them. -/
theorem Serves.countP {registry : Registry} (counter : Metrics → Nat) (raises : Attempt → Bool)
    (hzero : counter .zero = 0)
    (hstep : ∀ metrics attempt, metrics.Ordered →
      counter (metrics.addAttempt attempt) = counter metrics + if raises attempt then 1 else 0)
    (h : (Chef.new registry).Serves served last) :
    counter last.metrics = served.countP (raises ·.2) := by
  have hsum := h.sum counter _ hstep Metrics.ordered_zero
  rw [← sum_map_ite, hsum]
  exact (congrArg (· + _) hzero).trans (Nat.zero_add _)

/-! ## Counters of bakes -/

/-- The counters of bakes tell how the calls on a new chef ended. A call that fails is not counted if
it is the resumption of a stopped bake by a recipe that does not fit. -/
theorem bakes_tell_results {registry : Registry} (h : (Chef.new registry).Serves served last) :
    last.metrics.completed = served.countP (fun s => s.1.runs && s.2.isCompleted) ∧
    last.metrics.paused = served.countP (fun s => s.1.runs && s.2.isPaused) ∧
    last.metrics.failed + served.countP (·.1.isUnfitResumption registry) =
      served.countP (·.2.failure?.isSome) ∧
    ∀ kind, last.metrics.failuresOf kind +
        (if kind = .configuration then served.countP (·.1.isUnfitResumption registry) else 0) =
      served.countP (·.2.failure?.any (·.kind == kind)) := by
  have htallied (s : Call × Attempt) (hmem : s ∈ served) : registry.Tallied s.1 s.2 :=
    (h.answered hmem).tallied
  refine ⟨?_, ?_, ?_, fun kind => ?_⟩
  · rw [h.countP (·.completed) _ rfl fun metrics attempt _ => metrics.completed_addAttempt attempt]
    refine List.countP_congr fun s hmem => ?_
    cases htallied s hmem with
    | counted hc hr _ => simp [hc, hr]
    | idle hc hr _ _ => simp [hc, hr]
    | unfit hc _ _ hf _ => simp [hc, Attempt.isCompleted, Attempt.status?, hf]
  · rw [h.countP (·.paused) _ rfl fun metrics attempt _ => metrics.paused_addAttempt attempt]
    refine List.countP_congr fun s hmem => ?_
    cases htallied s hmem with
    | counted hc hr _ => simp [hc, hr]
    | idle hc hr _ _ => simp [hc, hr]
    | unfit hc _ _ hf _ => simp [hc, Attempt.isPaused, Attempt.status?, hf]
  · rw [h.countP (·.failed) _ rfl fun metrics attempt _ => metrics.failed_addAttempt attempt]
    refine countP_add_countP fun s hmem => ?_
    cases htallied s hmem with
    | counted hc _ hu => simp [hc, hu]
    | idle hc _ hu ho => simp [hc, hu, Attempt.failure?, ho]
    | unfit hc _ hu hf _ => simp [hc, hu, Attempt.failure?, hf]
  · -- Resumptions that do not fit fail by their configuration, and by no other kind.
    have hunfit : (if kind = .configuration then
        served.countP (·.1.isUnfitResumption registry) else 0) =
        served.countP fun s => decide (kind = .configuration) && s.1.isUnfitResumption registry := by
      by_cases hkind : kind = .configuration <;> simp [hkind]
    rw [hunfit, h.countP (·.failuresOf kind) _ rfl fun metrics attempt hordered =>
      Metrics.failuresOf_addAttempt attempt hordered kind]
    refine countP_add_countP fun s hmem => ?_
    cases htallied s hmem with
    | counted hc _ hu => simp [hc, hu]
    | idle hc _ hu ho => simp [hc, hu, Attempt.failure?, ho]
    | unfit hc _ hu hf hk =>
      simp [hc, hu, Attempt.failure?, hf, hk, Bool.beq_eq_decide_eq, eq_comm]

end Chef

/-! ## A resumption that does not fit -/

/-- Two remarks, the second behind a breakpoint. -/
def Recipe.heldRemark : Recipe :=
  ⟨1, [⟨"Comment", [], false, false⟩, ⟨"Comment", [], false, true⟩], .default⟩

/-- A step that no operation stands for. -/
def Recipe.nameless : Recipe := ⟨1, [⟨"", [], false, false⟩], .default⟩

/-- The bake that stops before the second remark. -/
def Outcome.heldRemark : Outcome := ⟨.string "x", .paused 1, 1, .empty, 0⟩

/-- A bake that stops, and is then resumed by a recipe that does not fit and by one that does. -/
def Call.heldRemarks : List Call :=
  [.bake .heldRemark (.string "x") .default, .resume .nameless .heldRemark .default,
    .resume .heldRemark .heldRemark .default]

private theorem answerAll_heldRemarks : ∃ served last,
    Chef.answerAll 3 Call.heldRemarks (.new .builtIn) = some (served, last) ∧
      served.map Prod.fst = Call.heldRemarks ∧ served.head?.map (·.2.result) = some (.ok .heldRemark) ∧
      served.countP (·.2.failure?.isSome) = 1 ∧ last.metrics.failed = 0 :=
  ⟨_, _, rfl, rfl, rfl, rfl, rfl⟩

/-- Of three calls one stops, one fails and one completes, but no failure has been counted. -/
theorem Chef.bakes_tell_results_heldRemarks :
    ∃ served last, (Chef.new .builtIn).Serves served last ∧
      served.map Prod.fst = Call.heldRemarks ∧ last.metrics.paused = 1 ∧
      last.metrics.completed = 1 ∧ last.metrics.failed + 1 = 1 ∧
      last.metrics.failuresOf .configuration + 1 = 1 := by
  have h : (Chef.new .builtIn).Serves _ _ :=
    .of_answerAll (show Chef.answerAll 3 Call.heldRemarks _ = some (_, _) from rfl)
  obtain ⟨hcompleted, hpaused, hfailed, hkinds⟩ := bakes_tell_results h
  exact ⟨_, _, h, rfl, hpaused, hcompleted, hfailed, hkinds .configuration⟩

/-- A call that fails is not always counted as failed. -/
theorem Chef.not_failed_heldRemarks :
    ¬ ∀ registry served last, (Chef.new registry).Serves served last →
      last.metrics.failed = served.countP (·.2.failure?.isSome) := by
  intro h
  obtain ⟨served, last, hanswers, _, _, hcount, hfailed⟩ := answerAll_heldRemarks
  have hequal := h .builtIn served last (.of_answerAll hanswers)
  rw [hcount, hfailed] at hequal
  exact absurd hequal (by decide)

end Kitchen
