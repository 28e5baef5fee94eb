import Kitchen.Proofs.Run.Charge
import Kitchen.Proofs.Run.Scope

/-!
# Origins of failures

Which step raised the failure of a run. A step raises a fault if its body does, if its dish does not
convert, or if it is a fork that cannot split its dish or gather the outputs of its branches. A fork
that hands on the failure of a branch raises nothing: the failure stays with the step in the branch.
-/

namespace Kitchen

/-- A fork ends by a fault of its own, or by the failure of a branch behind others that have been
passed. -/
theorem Branches.exists_failed {run : State → Log → SectionEnd → Prop} {control : Control}
    {ignoreErrors : Bool} {branch : String → State} {pieces : List String} {log last : Log}
    {fault : Fault}
    (h : Branches run control ignoreErrors branch pieces log (.error fault) last) :
    fault.IsOwn ∨
      ∃ before piece after outputs next failure left, pieces = before ++ piece :: after ∧
        Branches run control ignoreErrors branch before log (.ok outputs) next ∧
        control.isCancelled next = false ∧ run (branch piece) next ⟨.error failure, left, last⟩ ∧
        fault = .branch failure := by
  generalize hended : (Except.error fault : Except Fault (List String)) = ended at h
  induction h with
  | nil log => cases hended
  | cancelled =>
    obtain rfl := Except.error.inj hended
    exact .inl Fault.isOwn_cancelled
  | @text piece rest log next last status baked output ended hc hr ho _ ih =>
    cases ended with
    | ok outputs => cases hended
    | error other =>
      obtain rfl : fault = other := by simpa [Except.map] using hended
      rcases ih rfl with hown | ⟨before, other, after, outputs, log', failure, left, rfl, hbefore,
        hc', hfails, rfl⟩
      · exact .inl hown
      · exact .inr ⟨piece :: before, other, after, output :: outputs, log', failure, left, rfl,
          .text hc hr ho hbefore, hc', hfails, rfl⟩
  | noText _ _ ho =>
    obtain rfl := Except.error.inj hended
    exact .inl (Flow.plainFaults_branchOutput _ _ ho).isOwn
  | @skipped piece rest log next last skipped left ended hc hr hi _ ih =>
    rcases ih hended with hown | ⟨before, other, after, outputs, log', failure, left, rfl, hbefore,
      hc', hfails, rfl⟩
    · exact .inl hown
    · exact .inr ⟨piece :: before, other, after, outputs, log', failure, left, rfl,
        .skipped hc hr hi hbefore, hc', hfails, rfl⟩
  | @failed piece rest log next failure left hc hr hi =>
    obtain rfl := Except.error.inj hended
    exact .inr ⟨[], piece, rest, [], log, failure, left, rfl, .nil log, hc, hr, rfl⟩

namespace Plan

variable {plan : Plan} {root mid stage : Stage} {n m : Nat}

/-- The stages that a run comes to from a stage of it are its own. -/
theorem Reaches.trans (h : plan.Reaches root mid m) (h' : plan.Reaches mid stage n) :
    ∃ k, plan.Reaches root stage k := by
  induction h' with
  | start => exact ⟨m, h⟩
  | go _ hmove ih =>
    obtain ⟨k, hreaches⟩ := ih
    exact ⟨_, hreaches.go hmove⟩
  | join _ hmove hb ih =>
    obtain ⟨k, hreaches⟩ := ih
    exact ⟨_, hreaches.join hmove hb⟩
  | branch _ hmove hpieces hb hc ih =>
    obtain ⟨k, hreaches⟩ := ih
    exact ⟨_, hreaches.branch hmove hpieces hb hc⟩

/-- The step that is dispatched at a stage raises a fault. -/
inductive RaisesAt (plan : Plan) (stage : Stage) (step : Step) : Fault → Prop where
  /-- The body of a transformation faults or crashes, or a dish around it does not convert. -/
  | transform {fault : Fault} {last : Log} : plan.turnAt stage = .dispatch step →
      (plan.registry.operation step.operation).descriptor.flowControl = false →
      (plan.registry.operation step.operation).bake (context stage.control step stage.state)
        (stage.state.argsFor step) stage.state.dish
        (plan.announced stage.control step stage.state stage.log) = (.error fault, last) →
      RaisesAt plan stage step fault
  | act {action : List Step → List Argument → State → Except Fault State} {fault : Fault} :
      plan.turnAt stage = .dispatch step →
      (plan.registry.operation step.operation).descriptor.flowControl = true →
      (plan.registry.operation step.operation).flow = .act action →
      action plan.steps (stage.state.argsFor step) (stage.state.inPhase .branching) = .error fault →
      RaisesAt plan stage step fault
  | split {fault : Fault} : plan.turnAt stage = .dispatch step →
      (plan.registry.operation step.operation).descriptor.flowControl = true →
      (plan.registry.operation step.operation).flow = .fork →
      stage.state.forkParts (stage.state.argsFor step) = .error fault →
      RaisesAt plan stage step fault
  /-- The branches end by a fault that is not the failure of a branch. -/
  | gather {split : Split} {log last : Log} {fault : Fault} : plan.turnAt stage = .dispatch step →
      plan.moveAt stage = .fork step split log →
      plan.ForkEnds stage.control stage.state split log (.error fault) last → fault.IsOwn →
      RaisesAt plan stage step fault

/-- A step that raises a fault is an enabled step at the cursor. -/
theorem RaisesAt.turnAt_eq {step : Step} {fault : Fault} (h : plan.RaisesAt stage step fault) :
    plan.turnAt stage = .dispatch step := by
  cases h <;> assumption

/-- A step that fails at once raises its fault. -/
private theorem exists_raisesAt_of_dispatch (hr : plan.registry.Accountable) {step : Step}
    (hturn : plan.turnAt stage = .dispatch step) {failure : Failure} {left : State} {last : Log}
    (h : plan.dispatch stage.control step stage.state stage.log = .stop ⟨.error failure, left, last⟩) :
    ∃ fault, plan.RaisesAt stage step fault ∧ fault.IsOwn ∧
      failure = .ofFault stage.state.progress step.operation fault := by
  have haccountable := hr.operation step.operation
  cases hf : (plan.registry.operation step.operation).descriptor.flowControl with
  | false =>
    have hown : OwnFaults ((plan.registry.operation step.operation).bake
        (context stage.control step stage.state) (stage.state.argsFor step) stage.state.dish
        (plan.announced stage.control step stage.state stage.log)).1 :=
      Operation.ownFaults_bake (fun _ _ => haccountable.transform_isOwn hf) stage.state.dish
    rw [dispatch_transform stage.control stage.state stage.log hf] at h
    split at h
    · rename_i fault log hbake
      cases h
      rw [hbake] at hown
      exact ⟨fault, .transform hturn hf hbake, hown fault rfl, rfl⟩
    · cases h
  | true =>
    cases ha : (plan.registry.operation step.operation).flow with
    | act action =>
      rw [dispatch_act stage.control stage.state stage.log hf ha] at h
      split at h
      · rename_i fault hact
        cases h
        exact ⟨fault, .act hturn hf ha hact, haccountable.flow_isOwn hf ha _ _ _ fault hact, rfl⟩
      · cases h
    | fork =>
      rw [dispatch_fork stage.control stage.state stage.log hf ha] at h
      split at h
      · rename_i fault hparts
        cases h
        exact ⟨fault, .split hturn hf ha hparts, (Flow.plainFaults_forkParts _ _ fault hparts).isOwn,
          rfl⟩
      · cases h

/-- A step that the run comes to, in its own scope or in that of a branch, has raised the failure. -/
def Originates (plan : Plan) (root : Stage) (failure : Failure) : Prop :=
  ∃ stage n step fault, plan.Reaches root stage n ∧ plan.RaisesAt stage step fault ∧ fault.IsOwn ∧
    failure = .ofFault stage.state.progress step.operation fault

theorem Originates.of_reaches {failure : Failure} (h : plan.Originates mid failure)
    (hmid : plan.Reaches root mid m) : plan.Originates root failure := by
  obtain ⟨stage, n, step, fault, hreaches, horigin⟩ := h
  obtain ⟨k, hfrom⟩ := hmid.trans hreaches
  exact ⟨stage, k, step, fault, hfrom, horigin⟩

/-- A failure that no cancellation made is that of the step which raised it. -/
theorem Ends.originates {control : Control} {startFrom : Nat} {state : State} {log : Log}
    {finished : SectionEnd} (h : plan.Ends control startFrom state log finished)
    (hr : plan.registry.Accountable) {failure : Failure}
    (hfailure : finished.result = .error failure) (hkind : failure.kind ≠ .cancelled) :
    plan.Originates ⟨control, startFrom, state, log⟩ failure := by
  induction h using Plan.Ends.induct generalizing failure with
  | @stop control startFrom state log finished hmove =>
    obtain ⟨result, left, last⟩ := finished
    obtain rfl : result = .error failure := hfailure
    have hstops : plan.moveAt ⟨control, startFrom, state, log⟩ = .stop ⟨.error failure, left, last⟩ :=
      hmove
    rw [moveAt_eq] at hstops
    cases hturn : plan.turnAt ⟨control, startFrom, state, log⟩ with
    | finish => simp [hturn] at hstops
    | cancel step =>
      rw [hturn] at hstops
      cases hstops
      exact absurd rfl hkind
    | skip => simp [hturn] at hstops
    | pause => simp [hturn] at hstops
    | dispatch step =>
      rw [hturn] at hstops
      -- The step has failed by a fault of its own, since only a fork can hand on that of a branch.
      obtain ⟨fault, hraises, hown, heq⟩ := exists_raisesAt_of_dispatch hr hturn hstops
      exact ⟨_, 0, step, fault, .start, hraises, hown, heq⟩
  | @go control startFrom state log next log₁ finished hmove _ ih =>
    have hstart : plan.Reaches ⟨control, startFrom, state, log⟩ _ 0 := .start
    exact (ih hfailure hkind).of_reaches (hstart.go hmove)
  | @forkFails control startFrom state log step split log₁ fault log₂ hmove hbranches =>
    obtain rfl := Except.error.inj hfailure
    have hstart : plan.Reaches ⟨control, startFrom, state, log⟩ _ 0 := .start
    have hb : plan.ForkEnds control state split log₁ (.error fault) log₂ :=
      hbranches.mono fun _ _ _ h => h.1
    rcases hbranches.exists_failed with hown | ⟨before, piece, after, outputs, next, failure, left,
      hpieces, hbefore, hc, ⟨hends, ih⟩, rfl⟩
    · exact ⟨_, 0, step, fault, hstart, .gather (turnAt_of_fork hmove) hmove hb hown, hown, rfl⟩
    · -- The failure is that of the branch, and so is its origin.
      exact (ih rfl hkind).of_reaches
        (hstart.branch hmove hpieces (hbefore.mono fun _ _ _ h => h.1) hc)
  | @forkJoins control startFrom state log step split log₁ outputs log₂ finished hmove hbranches _
      ih =>
    have hstart : plan.Reaches ⟨control, startFrom, state, log⟩ _ 0 := .start
    exact (ih hfailure hkind).of_reaches (hstart.join hmove (hbranches.mono fun _ _ _ h => h.1))

end Plan
end Kitchen
