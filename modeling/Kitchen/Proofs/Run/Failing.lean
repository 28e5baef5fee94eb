import Kitchen.Proofs.Run.Promptness

/-!
# Failing runs

Where the failure of a run comes from: from the step that was dispatched last, from a fork around it
that can make no text of a branch, or from a cancellation. A run fails without a dish; the bake
puts in the one that it holds.
-/

namespace Kitchen

/-! ## The last step -/

/-- The step that was dispatched last. -/
def Log.lastDispatched? : Log → Option (Nat × String)
  | [] => none
  | .dispatched step operation :: _ => some (step, operation)
  | .reported _ :: log => lastDispatched? log
  | .waited :: log => lastDispatched? log

theorem Log.Quiet.lastDispatched? {log log' : Log} (h : Quiet log log') :
    log'.lastDispatched? = log.lastDispatched? := by
  obtain ⟨events, rfl, hevents⟩ := h
  induction events with
  | nil => rfl
  | cons event events ih =>
    have hquiet := hevents event List.mem_cons_self
    have hrest := ih fun other hmem => hevents other (List.mem_cons_of_mem event hmem)
    cases event with
    | dispatched step operation => simp [operationOf?] at hquiet
    | reported update => exact hrest
    | waited => exact hrest

theorem Log.lastDispatched_announced (plan : Plan) (control : Control) (step : Step)
    (state : State) (log : Log) :
    (plan.announced control step state log).lastDispatched? =
      some (state.progress, step.operation) := rfl

theorem Log.mem_announced (plan : Plan) (control : Control) (step : Step) (state : State)
    (log : Log) :
    .dispatched state.progress step.operation ∈ plan.announced control step state log :=
  List.mem_cons_self

/-! ## Raised failures -/

/-- Where a run that has come to some events may have failed. -/
structure Failure.Raised (failure : Failure) (log : Log) : Prop where
  dish : failure.dish = none
  kind : failure.kind ≠ .configuration
  origin : failure.kind = .cancelled ∨
    log.lastDispatched? = some (failure.step, failure.operation) ∨
    failure.operation = Flow.fork.name ∧ failure.kind = .dishConversion ∧
      .dispatched failure.step failure.operation ∈ log

theorem Failure.raised_cancelled (step : Nat) (operation : String) (log : Log) :
    (Failure.cancelled step operation).Raised log :=
  ⟨rfl, by simp [Failure.cancelled, Failure.plain], .inl rfl⟩

/-- The fault of the step that was dispatched last. -/
theorem Failure.raised_ofFault {fault : Fault} (h : fault.IsOwn) {step : Nat} {operation : String}
    {log : Log} (hlast : log.lastDispatched? = some (step, operation)) :
    (Failure.ofFault step operation fault).Raised log := by
  obtain ⟨hstep, hoperation, hdish⟩ := Failure.ofFault_of_isOwn h step operation
  refine ⟨hdish, ?_, .inr (.inl ?_)⟩
  · rw [Failure.kind_ofFault]
    exact h.kind_ne_configuration
  · rw [hstep, hoperation]
    exact hlast

/-- The fault of a fork that is cancelled or can make no text of a branch. -/
theorem Failure.raised_ofFault_fork {fault : Fault} (h : fault.IsOwn)
    (hkind : fault.kind = .cancelled ∨ fault.kind = .dishConversion) {step : Nat} {log : Log}
    (hmem : .dispatched step Flow.fork.name ∈ log) :
    (Failure.ofFault step Flow.fork.name fault).Raised log := by
  obtain ⟨hstep, hoperation, hdish⟩ := Failure.ofFault_of_isOwn h step Flow.fork.name
  refine ⟨hdish, ?_, ?_⟩
  · rw [Failure.kind_ofFault]
    exact h.kind_ne_configuration
  · rw [Failure.kind_ofFault]
    rcases hkind with hkind | hkind
    · exact .inl hkind
    · exact .inr (.inr ⟨hoperation, hkind, by rwa [hstep, hoperation]⟩)

/-- The fault of a fork is its own, or that of the branch that was run last. -/
theorem Branches.fault_cases {run : State → Log → SectionEnd → Prop} {control : Control}
    {ignoreErrors : Bool} {branch : String → State} {pieces : List String} {log last : Log}
    {fault : Fault} {q : Failure → Log → Prop}
    (h : Branches run control ignoreErrors branch pieces log (.error fault) last)
    (hrun : ∀ piece log finished, run (branch piece) log finished →
      ∀ failure, finished.result = .error failure → q failure finished.log) :
    (fault.IsOwn ∧ (fault.kind = .cancelled ∨ fault.kind = .dishConversion)) ∨
      ∃ failure, fault = .branch failure ∧ q failure last := by
  generalize hended : (Except.error fault : Except Fault (List String)) = ended at h
  induction h with
  | nil log => simp at hended
  | cancelled =>
    obtain rfl := Except.error.inj hended
    exact .inl ⟨Fault.isOwn_cancelled, .inl rfl⟩
  | @text _ _ _ _ _ _ _ _ ended _ _ _ _ ih =>
    cases ended with
    | error other =>
      obtain rfl : fault = other := by simpa [Except.map] using hended
      exact ih rfl
    | ok outputs => simp [Except.map] at hended
  | noText _ _ ho =>
    obtain rfl := Except.error.inj hended
    exact .inl ⟨(Flow.plainFaults_branchOutput _ _ ho).isOwn, .inr (Flow.kind_branchOutput ho)⟩
  | skipped _ _ _ _ ih => exact ih hended
  | failed _ hr _ =>
    obtain rfl := Except.error.inj hended
    exact .inr ⟨_, rfl, hrun _ _ _ hr _ rfl⟩

namespace Plan

variable {plan : Plan} {control : Control} {startFrom : Nat} {state : State} {log : Log}
  {finished : SectionEnd}

/-- A run whose move comes to branches has dispatched a fork. -/
theorem move_fork_cases (hr : plan.registry = .builtIn) {step : Step} {split : Split} {log₁ : Log}
    (h : plan.move control startFrom state log = .fork step split log₁) :
    step.operation = Flow.fork.name ∧ log₁ = plan.announced control step state log := by
  have hmakes := makes_move hr control startFrom state log
  rw [h] at hmakes
  cases hmakes with
  | dispatches step _ hdispatched =>
    cases hdispatched with
    | forks split hfork => exact ⟨hfork, rfl⟩

/-- A run fails at the step that it dispatched last, in a fork around it, or by a cancellation. -/
theorem Ends.raised (h : plan.Ends control startFrom state log finished)
    (hr : plan.registry = .builtIn) {failure : Failure}
    (hfailure : finished.result = .error failure) : failure.Raised finished.log := by
  induction h using Plan.Ends.induct generalizing failure with
  | @stop control startFrom state log finished hmove =>
    have hmakes := makes_move hr control startFrom state log
    rw [hmove] at hmakes
    cases hmakes with
    | finishes => simp at hfailure
    | cancels step _ =>
      obtain rfl := Except.error.inj hfailure
      exact Failure.raised_cancelled _ _ _
    | pauses => simp at hfailure
    | dispatches step _ hdispatched =>
      cases hdispatched with
      | faults phase hown hquiet _ _ _ =>
        obtain rfl := Except.error.inj hfailure
        refine Failure.raised_ofFault hown (hquiet.lastDispatched?.trans ?_)
        exact Log.lastDispatched_announced plan control step state log
  | go _ _ ih => exact ih hfailure
  | @forkFails control startFrom state log step split log₁ fault log₂ hmove hbranches =>
    obtain ⟨hfork, rfl⟩ := move_fork_cases hr hmove
    obtain rfl := Except.error.inj hfailure
    rcases hbranches.fault_cases (fun _ _ _ ⟨_, ih⟩ _ => ih) with ⟨hown, hkind⟩ |
      ⟨failure, rfl, hraised⟩
    · have hsuffix : plan.announced control step state log <:+ log₂ :=
        hbranches.log_property (fun _ _ _ ⟨hends, _⟩ =>
          hends.log_property (keptByMoves_suffix hr _ _)) (List.suffix_refl _)
      have hmem := hsuffix.mem (Log.mem_announced plan control step state log)
      change (Failure.ofFault state.progress step.operation fault).Raised log₂
      rw [hfork] at hmem ⊢
      exact Failure.raised_ofFault_fork hown hkind hmem
    · exact hraised
  | forkJoins _ _ _ ih => exact ih hfailure

end Plan
end Kitchen
