import Kitchen.Bake.Outcome
import Kitchen.Proofs.Run.Simulation

/-!
# Results of bakes

The result of a bake depends on how the run of its plan ends. A recipe and an input have at most one
result, and the results of aligned runs differ in the places of steps only.
-/

namespace Kitchen

/-! ## Bakes with a result -/

namespace Registry

/-- The bake of an input by a recipe comes to a result. -/
def Bakes (registry : Registry) (recipe : Recipe) (input : Dish) (control : Control)
    (result : Result) : Prop :=
  ∃ fuel attempt, registry.bake fuel recipe input control = some attempt ∧ attempt.result = result

/-- A bake that was left with an outcome, when it is resumed, comes to a result. -/
def Resumes (registry : Registry) (recipe : Recipe) (paused : Outcome) (control : Control)
    (result : Result) : Prop :=
  ∃ fuel attempt, registry.resume fuel recipe paused control = some attempt ∧
    attempt.result = result

end Registry

/-- A run of a plan comes to a result. -/
def Plan.Yields (plan : Plan) (control : Control) (startFrom : Nat) (state : State) (log : Log)
    (result : Result) : Prop :=
  ∃ finished, plan.Ends control startFrom state log finished ∧
    finished.toResult plan.options = result

/-- The run of a plan over the scope of a state comes to a result. -/
abbrev Plan.Results (plan : Plan) (control : Control) (state : State) (result : Result) : Prop :=
  plan.Yields control (state.startFrom control) (state.inPhase .running) [] result

theorem Plan.Yields.unique {plan : Plan} {control : Control} {startFrom : Nat} {state : State}
    {log : Log} {result result' : Result} (h : plan.Yields control startFrom state log result)
    (h' : plan.Yields control startFrom state log result') : result = result' := by
  obtain ⟨finished, hends, rfl⟩ := h
  obtain ⟨finished', hends', rfl⟩ := h'
  rw [hends.unique hends']

section Results

variable {registry : Registry} {recipe : Recipe} {plan : Plan} {control : Control}

private theorem results_iff_complete {state : State} {control : Control} {result : Result} :
    plan.Results (plan.control control) state result ↔
      ∃ fuel attempt, plan.complete fuel state control = some attempt ∧ attempt.result = result := by
  constructor
  · rintro ⟨finished, hends, rfl⟩
    obtain ⟨fuel, hf⟩ := Plan.sectionEnds_iff.mp hends
    exact ⟨fuel, _, by rw [Plan.complete, hf]; rfl, rfl⟩
  · rintro ⟨fuel, attempt, hcomplete, rfl⟩
    obtain ⟨finished, hf, rfl⟩ := Option.map_eq_some_iff.mp hcomplete
    exact ⟨finished, Plan.sectionEnds_iff.mpr ⟨fuel, hf⟩, rfl⟩

/-- A bake by a recipe that fits is a run of its plan. -/
theorem Registry.bakes_iff (h : registry.prepare recipe = .ok plan) {input : Dish}
    {result : Result} :
    registry.Bakes recipe input control result ↔
      plan.Results (plan.control control) (plan.initial input control) result := by
  rw [results_iff_complete, Registry.Bakes]
  simp only [Registry.bake, h]
  rfl

/-- Resumed at a breakpoint, a bake is a run of its plan from there. -/
theorem Registry.resumes_iff (h : registry.prepare recipe = .ok plan) {paused : Outcome} {i : Nat}
    (hi : paused.status = .paused i) {result : Result} :
    registry.Resumes recipe paused control result ↔
      plan.Results (plan.control { control with startFrom := i }) (plan.resumed i paused)
        result := by
  rw [results_iff_complete, Registry.Resumes]
  simp only [Registry.resume, h, hi]

end Results

/-! ## What a result tells -/

/-- A bake fails in the same step and in the same way as its run. -/
theorem Failure.ofBake_eq (failure : Failure) (dish : Dish) :
    (failure.ofBake dish).step = failure.step ∧
      (failure.ofBake dish).operation = failure.operation ∧
      (failure.ofBake dish).kind = failure.kind := by
  unfold Failure.ofBake
  split <;> exact ⟨rfl, rfl, rfl⟩

/-- Only the dish of a completed bake may lack the kind that is asked for. -/
theorem Options.serve_eq_error {options : Options} {status : Status} {state : State}
    {failure : Failure} (h : options.serve status state = .error failure) :
    status = .completed ∧
      ∃ message, failure = .plain state.progress "output" .dishConversion message := by
  unfold Options.serve at h
  split at h
  · simp at h
  · rename_i kind _
    split at h
    · simp at h
    · rename_i hcompleted
      refine ⟨Classical.not_not.mp hcompleted, ?_⟩
      cases hconvert : state.dish.convert kind with
      | error error =>
        rw [hconvert] at h
        exact ⟨_, (Except.error.inj h).symm⟩
      | ok dish => simp [hconvert] at h

theorem SectionEnd.toResult_eq_ok {options : Options} {finished : SectionEnd} {outcome : Outcome}
    (h : finished.toResult options = .ok outcome) : finished.result = .ok outcome.status := by
  obtain ⟨failure | status, state, log⟩ := finished
  · simp [toResult] at h
  · unfold toResult at h
    dsimp only at h
    split at h
    · simp at h
    · obtain rfl := Except.ok.inj h
      rfl

theorem SectionEnd.serve_of_toResult {options : Options} {finished : SectionEnd} {outcome : Outcome}
    (h : finished.toResult options = .ok outcome) :
    options.serve outcome.status finished.state = .ok outcome.dish := by
  obtain ⟨failure | status, state, log⟩ := finished
  · cases h
  · unfold toResult at h
    dsimp only at h
    split at h
    · cases h
    · rename_i dish hserve
      obtain rfl := Except.ok.inj h
      exact hserve

/-- A bake fails as its run does, or because its dish lacks the kind that is asked for. -/
theorem SectionEnd.toResult_eq_error {options : Options} {finished : SectionEnd}
    {failure : Failure} (h : finished.toResult options = .error failure) :
    ∃ raised, failure = raised.ofBake finished.state.dish ∧
      (finished.result = .error raised ∨
        finished.result = .ok .completed ∧
          options.serve .completed finished.state = .error raised) := by
  obtain ⟨raised | status, state, log⟩ := finished
  · exact ⟨raised, (Except.error.inj h).symm, .inl rfl⟩
  · unfold toResult at h
    dsimp only at h
    split at h
    · rename_i raised hserve
      obtain ⟨rfl, _⟩ := Options.serve_eq_error hserve
      exact ⟨raised, (Except.error.inj h).symm, .inr ⟨rfl, hserve⟩⟩
    · simp at h

/-! ## Results with other places -/

namespace Result

/-- The result with its steps at other places. -/
def moved (place : Nat → Nat) : Result → Result
  | .ok outcome => .ok { outcome with progress := place outcome.progress }
  | .error failure => .error { failure with step := place failure.step }

theorem moved_id (result : Result) : result.moved id = result := by
  cases result <;> rfl

end Result

/-- Aligned ends make results that differ in the places of steps only. -/
theorem SectionEnd.Aligned.toResult {first stop : Nat} {place : Nat → Nat}
    {finished finished' : SectionEnd} (h : finished.Aligned first stop place finished')
    (options : Options) :
    finished'.toResult options = (finished.toResult options).moved place := by
  cases h with
  | @completed state state' log log' ha hend =>
    simp only [SectionEnd.toResult, Options.serve, ha.dish]
    cases options.outputKind with
    | none => simp [Result.moved, ha.progress, ha.registers, ha.jumpsTaken]
    | some kind =>
      cases hconvert : state.dish.convert kind with
      | error error =>
        simp [hconvert, Result.moved, mapError_error, Failure.ofBake, Failure.plain,
          Failure.withDish, ha.progress]
      | ok dish =>
        simp [hconvert, Result.moved, mapError_ok, ha.progress, ha.registers, ha.jumpsTaken]
  | @failed failure failure' state state' log log' ha hf =>
    rw [hf.eq]
    simp only [SectionEnd.toResult, Result.moved, Failure.ofBake, ha.dish]
    split <;> rfl

/-- The result stands on a step that has been kept: it is complete at the end of the range, or a
failure in a kept step or behind the last one. -/
def Result.Kept (place : Nat → Nat) (stop : Nat) : Result → Prop
  | .ok outcome => outcome.status = .completed ∧ outcome.progress = stop
  | .error failure =>
    failure.step < stop ∧ place (failure.step + 1) = place failure.step + 1 ∨ failure.step = stop

private theorem SectionEnd.Aligned.kept {first stop : Nat} {place : Nat → Nat}
    {finished finished' : SectionEnd} (h : finished.Aligned first stop place finished')
    (hend : finished.state.scopeEnd = stop) (options : Options) :
    (finished.toResult options).Kept place stop := by
  cases h with
  | @completed state _ _ _ _ hprogress =>
    rw [← hend]
    simp only [SectionEnd.toResult, Options.serve]
    cases options.outputKind with
    | none => exact ⟨rfl, hprogress⟩
    | some kind =>
      cases hconvert : state.dish.convert kind with
      | error error =>
        simp only [hconvert, ne_eq, not_true_eq_false, if_false, mapError_error]
        exact .inr hprogress
      | ok dish =>
        simp only [hconvert, ne_eq, not_true_eq_false, if_false, mapError_ok]
        exact ⟨rfl, hprogress⟩
  | @failed failure _ state _ _ _ _ hf =>
    refine .inl ?_
    rw [(failure.ofBake_eq state.dish).1]
    exact ⟨hf.lt_stop, hf.kept⟩

section Moved

variable {plan plan' : Plan} {control control' : Control} {first stop : Nat} {place : Nat → Nat}
  {state state' : State}

/-- A run without pauses comes to a result that stands on a step which its thinnings keep. -/
theorem Plan.Yields.kept {startFrom : Nat} {log : Log} {result : Result}
    (h : plan.Yields control startFrom state log result)
    (T : Thinning plan.steps plan'.steps first stop place) (hr : plan.registry = .builtIn)
    (hr' : plan'.registry = .builtIn) (hc : control.Unhindered)
    (ha : Aligned first stop place state state') (hend : state.scopeEnd = stop) :
    result.Kept place stop := by
  obtain ⟨finished, hends, rfl⟩ := h
  have hfollows := hends.followed T hr hr' hc.uncancelled control _ hc ha startFrom log
  obtain ⟨_, _, haligned⟩ := hfollows.exists_aligned hc
  exact haligned.kept ((hends.scope hr).2.trans hend) _

/-- Aligned runs without pauses come to results that differ in the places of steps only. -/
theorem Plan.yields_iff_of_aligned (T : Thinning plan.steps plan'.steps first stop place)
    (hr : plan.registry = .builtIn) (hr' : plan'.registry = .builtIn)
    (ho : plan'.options = plan.options) (hc : control.Unhindered) (hc' : control'.Unhindered)
    (ha : Aligned first stop place state state') (startFrom startFrom' : Nat) (log log' : Log)
    {result' : Result} :
    plan'.Yields control' startFrom' state' log' result' ↔
      ∃ result, plan.Yields control startFrom state log result ∧ result' = result.moved place := by
  have hforward {finished : SectionEnd} (hends : plan.Ends control startFrom state log finished) :
      ∃ finished', plan'.Ends control' startFrom' state' log' finished' ∧
        finished.Aligned first stop place finished' :=
    (hends.followed T hr hr' hc.uncancelled control' _ hc' ha _ log').exists_aligned hc
  constructor
  · rintro ⟨finished', hends', rfl⟩
    obtain ⟨finished, hends⟩ := hends'.led T hr hr' hc' control _ hc.uncancelled ha startFrom log
    obtain ⟨_, hends'', haligned⟩ := hforward hends
    obtain rfl := hends'.unique hends''
    refine ⟨_, ⟨finished, hends, rfl⟩, ?_⟩
    rw [ho, haligned.toResult]
  · rintro ⟨_, ⟨finished, hends, rfl⟩, rfl⟩
    obtain ⟨finished', hends', haligned⟩ := hforward hends
    exact ⟨finished', hends', by rw [ho, haligned.toResult]⟩

/-- Runs of one plan without pauses from the same place come to the same result, whatever happened
before. -/
theorem Plan.yields_iff_of_aligned_id (hr : plan.registry = .builtIn) (hc : control.Unhindered)
    (hc' : control'.Unhindered) (ha : Aligned 0 plan.steps.length id state state')
    (startFrom startFrom' : Nat) (log log' : Log) {result : Result} :
    plan.Yields control startFrom state log result ↔
      plan.Yields control' startFrom' state' log' result := by
  have T := Thinning.refl plan.steps
  constructor
  · intro h
    obtain ⟨_, h, rfl⟩ := (yields_iff_of_aligned T hr hr rfl hc' hc ha.symm_id startFrom' startFrom
      log' log).mp h
    rwa [Result.moved_id]
  · intro h
    obtain ⟨_, h, rfl⟩ := (yields_iff_of_aligned T hr hr rfl hc hc' ha startFrom startFrom' log
      log').mp h
    rwa [Result.moved_id]

end Moved
end Kitchen
