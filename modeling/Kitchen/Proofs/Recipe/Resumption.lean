import Kitchen.Operation.BuiltIn
import Kitchen.Proofs.Recipe.Preparation
import Kitchen.Proofs.Run.Result

/-!
# Resumption

A bake that stops at breakpoints and is resumed at each of them comes to the result of the bake that
ignores breakpoints. Each stop is behind the one before it, so there are at most as many as there
are steps.
-/

namespace Kitchen

/-- The step before which a bake has stopped. -/
def Result.pause? : Result → Option Nat
  | .ok ⟨_, .paused i, _, _, _⟩ => some i
  | _ => none

namespace Registry

/-- A bake that is resumed at some breakpoints, each of which it stopped at, and a result that it
comes to after the last of them. -/
inductive Resumption (registry : Registry) (recipe : Recipe) (input : Dish) (control : Control) :
    List Nat → Result → Prop where
  | start {result : Result} : registry.Bakes recipe input control result →
      Resumption registry recipe input control [] result
  | resume {pauses : List Nat} {outcome : Outcome} {i : Nat} {result : Result} :
      Resumption registry recipe input control pauses (.ok outcome) → outcome.status = .paused i →
      registry.Resumes recipe outcome .default result →
      Resumption registry recipe input control (pauses ++ [i]) result

end Registry

/-! ## Runs that go on from a pause -/

section Runs

variable {plan : Plan} {control control' : Control} {state : State} {result : Result}

/-- The state may be that of a run over the whole plan. -/
structure Plan.Covers (plan : Plan) (state : State) : Prop where
  scopeStart : state.scopeStart = 0
  scopeEnd : state.scopeEnd = plan.steps.length
  progress : state.progress ≤ plan.steps.length

theorem Plan.covers_initial (plan : Plan) (input : Dish) (control : Control) :
    plan.Covers (plan.initial input control) :=
  ⟨rfl, rfl, Nat.min_le_right _ _⟩

theorem Plan.covers_resumed (plan : Plan) (i : Nat) (outcome : Outcome) :
    plan.Covers (plan.resumed i outcome) :=
  ⟨rfl, rfl, Nat.min_le_right _ _⟩

theorem Plan.Covers.aligned (h : plan.Covers state) :
    Aligned 0 plan.steps.length id state state :=
  ⟨Nat.zero_le _, h.scopeStart ▸ Nat.zero_le _, h.scopeEnd ▸ h.progress,
    Nat.le_of_eq h.scopeEnd, rfl, rfl, rfl, rfl, rfl, rfl⟩

/-- An end that is followed by an aligned one is no stop at a breakpoint. -/
private theorem pause?_toResult {first stop : Nat} {place : Nat → Nat}
    {finished finished' : SectionEnd} (h : finished.Aligned first stop place finished')
    (options : Options) : (finished.toResult options).pause? = none := by
  cases h with
  | @completed state _ log _ _ _ =>
    simp only [SectionEnd.toResult]
    cases options.serve .completed state with
    | error failure => rfl
    | ok dish => rfl
  | failed _ _ => rfl

/-- The result of a run that has stopped at a breakpoint. -/
private theorem toResult_paused (state : State) (i : Nat) (log : Log) (options : Options) :
    (SectionEnd.mk (.ok (.paused i)) state log).toResult options =
      .ok ⟨state.dish, .paused i, state.progress, state.registers, state.jumpsTaken⟩ := by
  simp only [SectionEnd.toResult, Options.serve]
  cases options.outputKind with
  | none => rfl
  | some kind => rfl

/-- A run of the plan may stop at a breakpoint, or it comes to the result of the run that ignores
them. Where it stopped, the plan goes on to that result. -/
private theorem Plan.Yields.results_cases (h : plan.Results control state result)
    (hb : plan.registry = .builtIn) (hc : control.Uncancelled) (hc' : control'.Unhindered)
    (hcovers : plan.Covers state) :
    (result.pause? = none ∧ plan.Results control' state result) ∨
      ∃ outcome i, result = .ok outcome ∧ outcome.status = .paused i ∧
        state.startFrom control < i ∧ i < plan.steps.length ∧
        ∀ control'' : Control, control''.Unhindered → ∀ result',
          plan.Results control'' (plan.resumed i outcome) result' ↔
            plan.Results control' state result' := by
  obtain ⟨finished, hends, rfl⟩ := h
  have hrunning := hcovers.aligned.inPhase .running .running
  have hfollows := hends.followed (.refl plan.steps) hb hb hc control' _ hc' hrunning
    (state.startFrom control') []
  cases hfollows with
  | ends hends' haligned =>
    refine .inl ⟨pause?_toResult haligned _, _, hends', ?_⟩
    rw [haligned.toResult, Result.moved_id]
  | @pauses paused paused' log₁ log₁' _ hlt hlt' hstart hend ha hiff =>
    have hlength : paused.progress < plan.steps.length := by
      rwa [hend.trans hcovers.scopeEnd] at hlt'
    refine .inr ⟨_, paused.progress, toResult_paused paused _ log₁ _, rfl, hlt, hlength, ?_⟩
    intro control'' hc'' result'
    generalize hout : Outcome.mk paused.dish (.paused paused.progress) paused.progress
      paused.registers paused.jumpsTaken = outcome
    have hresumed : Aligned 0 plan.steps.length id
        ((plan.resumed paused.progress outcome).inPhase .running) paused' := by
      have hprogress : (plan.resumed paused.progress outcome).progress = paused.progress :=
        Nat.min_eq_left (Nat.le_of_lt hlength)
      subst hout
      refine ⟨Nat.zero_le _, Nat.zero_le _, Nat.min_le_right _ _, Nat.le_refl _, ?_,
        ha.scopeStart.trans (hstart.trans hcovers.scopeStart),
        ha.scopeEnd.trans (hend.trans hcovers.scopeEnd), ha.dish, ha.jumpsTaken, ha.registers⟩
      exact ha.progress.trans hprogress.symm
    refine (Plan.yields_iff_of_aligned_id hb hc'' hc' hresumed _ (state.startFrom control') []
      log₁').trans ⟨?_, ?_⟩
    · rintro ⟨finished, hends, hresult⟩
      exact ⟨finished, (hiff finished).mpr hends, hresult⟩
    · rintro ⟨finished, hends, hresult⟩
      exact ⟨finished, (hiff finished).mp hends, hresult⟩

/-- Where the run that ignores breakpoints comes to a result, so does the run that stops at them. -/
private theorem Plan.Yields.exists_results (h : plan.Results control' state result)
    (hb : plan.registry = .builtIn) (hc : control.Uncancelled) (hc' : control'.Unhindered)
    (hcovers : plan.Covers state) : ∃ result', plan.Results control state result' := by
  obtain ⟨finished', hends', rfl⟩ := h
  have hrunning := hcovers.aligned.inPhase .running .running
  obtain ⟨finished, hends⟩ := hends'.led (.refl plan.steps) hb hb hc' control _ hc hrunning
    (state.startFrom control) []
  exact ⟨_, finished, hends, rfl⟩

end Runs

/-! ## Resumed bakes -/

namespace Registry

variable {recipe : Recipe} {plan : Plan} {input : Dish} {control : Control} {pauses : List Nat}
  {result : Result}

private theorem plan_control_uncancelled (plan : Plan) (hc : control.Uncancelled) :
    (plan.control control).Uncancelled := by
  unfold Plan.control
  split <;> exact hc

private theorem plan_control_startFrom (plan : Plan) (control : Control) :
    (plan.control control).startFrom = control.startFrom := by
  unfold Plan.control
  split <;> rfl

private theorem plan_control_unhindered (plan : Plan) (hc : control.Uncancelled) :
    (plan.control control.ignoringBreakpoints).Unhindered := by
  unfold Plan.control
  split <;> exact ⟨hc, rfl⟩

private theorem pause?_ok {outcome : Outcome} {i : Nat} (h : outcome.status = .paused i) :
    Result.pause? (.ok outcome) = some i := by
  obtain ⟨dish, status, progress, registers, jumpsTaken⟩ := outcome
  subst h
  rfl

private theorem pairwise_concat {i j : Nat} (h : (pauses ++ [i]).Pairwise (· < ·)) (hij : i < j) :
    (pauses ++ [i] ++ [j]).Pairwise (· < ·) := by
  refine List.pairwise_append.mpr ⟨h, List.pairwise_singleton _ _, fun a ha b hb => ?_⟩
  obtain rfl := List.mem_singleton.mp hb
  rcases List.mem_append.mp ha with ha | ha
  · exact Nat.lt_trans ((List.pairwise_append.mp h).2.2 a ha i (List.mem_singleton_self i)) hij
  · obtain rfl := List.mem_singleton.mp ha
    exact hij

/-- What a resumed bake has come to: its stops so far, and either the result of the bake that
ignores breakpoints or another stop from which the plan goes on to that result. -/
private theorem Resumption.cases (h : builtIn.Resumption recipe input control pauses result)
    (hp : builtIn.prepare recipe = .ok plan) (hc : control.Uncancelled) :
    (pauses ++ result.pause?.toList).Pairwise (· < ·) ∧
      (∀ i ∈ pauses ++ result.pause?.toList, i < plan.steps.length) ∧
      ((result.pause? = none ∧ plan.Results (plan.control control.ignoringBreakpoints)
          (plan.initial input control) result) ∨
        ∃ outcome i, result = .ok outcome ∧ outcome.status = .paused i ∧
          ∀ control' : Control, control'.Unhindered → ∀ result',
            plan.Results control' (plan.resumed i outcome) result' ↔
              plan.Results (plan.control control.ignoringBreakpoints) (plan.initial input control)
                result') := by
  obtain ⟨_, hb, _, _⟩ := prepare_eq_ok hp
  have hc' := plan_control_unhindered plan hc
  induction h with
  | @start result hbakes =>
    have hresults := (bakes_iff hp).mp hbakes
    rcases hresults.results_cases hb (plan_control_uncancelled plan hc) hc'
      (plan.covers_initial input control) with ⟨hnone, hresult⟩ |
      ⟨outcome, i, rfl, hstatus, _, hlt, hiff⟩
    · rw [hnone]
      exact ⟨.nil, by simp, .inl ⟨rfl, hresult⟩⟩
    · rw [pause?_ok hstatus]
      exact ⟨List.pairwise_singleton _ _, by simpa using hlt, .inr ⟨outcome, i, rfl, hstatus, hiff⟩⟩
  | @resume pauses outcome i result _ hstatus hresumes ih =>
    obtain ⟨hincreasing, hbound, hcases⟩ := ih
    rw [pause?_ok hstatus] at hincreasing hbound
    have hback : ∀ control' : Control, control'.Unhindered → ∀ result',
        plan.Results control' (plan.resumed i outcome) result' ↔
          plan.Results (plan.control control.ignoringBreakpoints) (plan.initial input control)
            result' := by
      rcases hcases with ⟨hnone, _⟩ | ⟨outcome', i', heq, hstatus', hiff⟩
      · rw [pause?_ok hstatus] at hnone
        exact absurd hnone (by simp)
      · obtain rfl := Except.ok.inj heq
        obtain rfl := Status.paused.inj (hstatus.symm.trans hstatus')
        exact hiff
    have hresults := (resumes_iff hp hstatus).mp hresumes
    have hcontrol : (plan.control { Control.default with startFrom := i }).Uncancelled :=
      plan_control_uncancelled plan rfl
    rcases hresults.results_cases hb hcontrol hc' (plan.covers_resumed i outcome) with
      ⟨hnone, hresult⟩ | ⟨next, j, rfl, hstatus', hlt, hlt', hiff⟩
    · rw [hnone]
      refine ⟨by simpa using hincreasing, by simpa using hbound, .inl ⟨rfl, ?_⟩⟩
      exact (hback _ hc' _).mp hresult
    · have hij : i < j := by
        have hstart := plan_control_startFrom plan { Control.default with startFrom := i }
        exact Nat.lt_of_le_of_lt (Nat.le_trans (Nat.le_of_eq hstart.symm) (Nat.le_max_right _ _)) hlt
      rw [pause?_ok hstatus']
      refine ⟨pairwise_concat hincreasing hij, ?_, .inr ⟨next, j, rfl, hstatus', ?_⟩⟩
      · intro k hk
        rcases List.mem_append.mp hk with hk | hk
        · exact hbound k hk
        · obtain rfl := List.mem_singleton.mp hk
          exact hlt'
      · intro control' hcontrol' result'
        exact (hiff control' hcontrol' result').trans (hback _ hc' _)

private theorem length_le_of_pairwise {l : List Nat} {m n : Nat} (h : l.Pairwise (· < ·))
    (hm : ∀ i ∈ l, m ≤ i) (hn : ∀ i ∈ l, i < n) : l.length ≤ n - m := by
  induction l generalizing m with
  | nil => exact Nat.zero_le _
  | cons i l ih =>
    rw [List.pairwise_cons] at h
    have htail := ih h.2 (fun j hj => h.1 j hj) fun j hj => hn j (List.mem_cons_of_mem i hj)
    have hi := hn i List.mem_cons_self
    have hi' := hm i List.mem_cons_self
    rw [List.length_cons]
    omega

/-- Resumed as long as it stops, a bake comes to the result of the bake that ignores breakpoints. -/
private theorem Resumption.exists_of_results {result₀ : Result}
    (h : builtIn.Resumption recipe input control pauses result₀)
    (hp : builtIn.prepare recipe = .ok plan) (hc : control.Uncancelled)
    (hresult : plan.Results (plan.control control.ignoringBreakpoints) (plan.initial input control)
      result) :
    ∃ pauses', builtIn.Resumption recipe input control pauses' result ∧ result.pause? = none := by
  obtain ⟨_, hb, _, _⟩ := prepare_eq_ok hp
  have hc' := plan_control_unhindered plan hc
  -- Every stop lengthens the list of stops, whose places are below the number of steps.
  induction hn : plan.steps.length - pauses.length generalizing pauses result₀ with
  | zero =>
    obtain ⟨hincreasing, hbound, hcases⟩ := h.cases hp hc
    rcases hcases with ⟨hnone, hresult₀⟩ | ⟨outcome, i, rfl, hstatus, _⟩
    · obtain rfl := hresult.unique hresult₀
      exact ⟨pauses, h, hnone⟩
    · have hlength := length_le_of_pairwise hincreasing (fun _ _ => Nat.zero_le _) hbound
      rw [pause?_ok hstatus, Option.toList_some, List.length_append, List.length_singleton]
        at hlength
      omega
  | succ n ih =>
    obtain ⟨_, _, hcases⟩ := h.cases hp hc
    rcases hcases with ⟨hnone, hresult₀⟩ | ⟨outcome, i, rfl, hstatus, hiff⟩
    · obtain rfl := hresult.unique hresult₀
      exact ⟨pauses, h, hnone⟩
    · have hcontrol : (plan.control { Control.default with startFrom := i }).Uncancelled :=
        plan_control_uncancelled plan rfl
      obtain ⟨next, hnext⟩ := ((hiff _ hc' result).mpr hresult).exists_results hb hcontrol hc'
        (plan.covers_resumed i outcome)
      refine ih (.resume h hstatus ((resumes_iff hp hstatus).mpr hnext)) ?_
      rw [List.length_append, List.length_singleton]
      omega

private theorem Resumption.of_unprepared {failure : Failure}
    (h : builtIn.Resumption recipe input control pauses result)
    (hp : builtIn.prepare recipe = .error failure) : pauses = [] ∧ result = .error failure := by
  induction h with
  | start hbakes =>
    obtain ⟨fuel, attempt, hbake, rfl⟩ := hbakes
    simp only [bake, hp, Option.some.injEq] at hbake
    exact ⟨rfl, by rw [← hbake]⟩
  | resume _ _ _ ih => exact absurd ih.2 (by simp)

/-- A bake that is resumed whenever it stops at a breakpoint stops later each time, at most once
for each step. When it stops no more it has come to the result of the bake that ignores breakpoints;
and if that bake comes to a result, the resumed bake gets there. -/
theorem resumption_transparent (recipe : Recipe) (input : Dish) (listening : Bool)
    (startFrom : Nat) :
    (∀ pauses result,
      builtIn.Resumption recipe input ⟨none, listening, true, startFrom⟩ pauses result →
        (pauses ++ result.pause?.toList).Pairwise (· < ·) ∧
        (pauses ++ result.pause?.toList).length ≤ recipe.steps.length ∧
        (result.pause? = none →
          builtIn.Bakes recipe input ⟨none, listening, false, startFrom⟩ result)) ∧
    ∀ result, builtIn.Bakes recipe input ⟨none, listening, false, startFrom⟩ result →
      ∃ pauses, builtIn.Resumption recipe input ⟨none, listening, true, startFrom⟩ pauses result ∧
        result.pause? = none := by
  have hc : Control.Uncancelled ⟨none, listening, true, startFrom⟩ := rfl
  cases hp : builtIn.prepare recipe with
  | error failure =>
    have hbakes (control : Control) : builtIn.Bakes recipe input control (.error failure) :=
      ⟨0, ⟨.error failure, [], true⟩, by rw [bake, hp], rfl⟩
    constructor
    · intro pauses result h
      obtain ⟨rfl, rfl⟩ := h.of_unprepared hp
      exact ⟨.nil, Nat.zero_le _, fun _ => hbakes _⟩
    · rintro result ⟨fuel, attempt, hbake, rfl⟩
      simp only [bake, hp, Option.some.injEq] at hbake
      rw [← hbake]
      exact ⟨[], .start (hbakes _), rfl⟩
  | ok plan =>
    obtain ⟨_, hb, _, hsteps⟩ := prepare_eq_ok hp
    constructor
    · intro pauses result h
      obtain ⟨hincreasing, hbound, hcases⟩ := h.cases hp hc
      refine ⟨hincreasing, ?_, fun hnone => ?_⟩
      · rw [← length_prepareSteps hsteps]
        exact length_le_of_pairwise hincreasing (fun _ _ => Nat.zero_le _) hbound
      · rcases hcases with ⟨_, hresult⟩ | ⟨outcome, i, rfl, hstatus, _⟩
        · exact (bakes_iff hp).mpr hresult
        · rw [pause?_ok hstatus] at hnone
          exact absurd hnone (by simp)
    · intro result hbakes
      have hresult := (bakes_iff hp).mp hbakes
      have hstart := plan.covers_initial input ⟨none, listening, true, startFrom⟩
      -- The first bake ends as well, at a breakpoint or with the result, and from there it is resumed.
      obtain ⟨first, hfirst⟩ := hresult.exists_results hb (plan_control_uncancelled plan hc)
        (plan_control_unhindered plan hc) hstart
      exact (Resumption.start ((bakes_iff hp).mpr hfirst)).exists_of_results hp hc hresult

end Registry
end Kitchen
