import Kitchen.Proofs.Operation.Accountable
import Kitchen.Proofs.Run.Cancellation
import Kitchen.Proofs.Run.Passage

/-!
# Threads

A run taken apart into steps, between which its host may do something else: a thread waits, takes the
turn at a stage, starts a branch of a fork, or goes on with what a branch has come to. The forks whose
branches run are stacked on each other. A call of an operation is posted when the operation returns,
so the calls of these forks are still owed. However a thread is stepped, it comes to the end of the
run, with one posting for each operation that the run has dispatched, and it does so if the run ends.
-/

namespace Kitchen

/-- A fork at a stage. -/
structure Fork where
  stage : Stage
  step : Step
  split : Split

/-- A fork whose branches run: the pieces that are still to be baked, and the outputs so far. -/
structure Frame where
  fork : Fork
  rest : List String
  outputs : List String

/-- What a thread stands at. -/
inductive Focus where
  /-- The turn at a stage, in which it has waited a number of times. -/
  | turn (stage : Stage) (waited : Nat)
  /-- A fork with pieces to be baked. -/
  | gather (frame : Frame) (log : Log)
  /-- A fork whose branches have come to a result. -/
  | settled (fork : Fork) (result : Except Fault (List String)) (log : Log)
  | ended (finished : SectionEnd)

/-- A run between two steps. -/
structure Thread where
  focus : Focus
  /-- The forks that wait for their branches, the innermost first. -/
  frames : List Frame

/-- The events so far. -/
def Focus.log : Focus → Log
  | turn stage _ => stage.log
  | gather _ log => log
  | settled _ _ log => log
  | ended finished => finished.log

/-- What a fork makes of the end of a branch. -/
def Frame.deliver (frame : Frame) (finished : SectionEnd) : Focus :=
  match finished.result with
  | .ok _ =>
    match Flow.branchOutput finished.state.dish with
    | .error fault => .settled frame.fork (.error fault) finished.log
    | .ok output => .gather { frame with outputs := frame.outputs ++ [output] } finished.log
  | .error failure =>
    if frame.fork.split.ignoreErrors && failure.kind != .cancelled then .gather frame finished.log
    else .settled frame.fork (.error (.branch failure)) finished.log

section Deliver

variable (frame : Frame) (status : Status) (state : State) (log : Log)

private theorem deliver_text {state : State} {output : String}
    (ho : Flow.branchOutput state.dish = .ok output) :
    frame.deliver ⟨.ok status, state, log⟩ =
      .gather { frame with outputs := frame.outputs ++ [output] } log := by
  simp only [Frame.deliver, ho]

private theorem deliver_noText {state : State} {fault : Fault}
    (ho : Flow.branchOutput state.dish = .error fault) :
    frame.deliver ⟨.ok status, state, log⟩ = .settled frame.fork (.error fault) log := by
  simp only [Frame.deliver, ho]

private theorem deliver_skipped {failure : Failure}
    (hi : (frame.fork.split.ignoreErrors && failure.kind != .cancelled) = true) :
    frame.deliver ⟨.error failure, state, log⟩ = .gather frame log := by
  simp only [Frame.deliver, hi, if_true]

private theorem deliver_failed {failure : Failure}
    (hi : (frame.fork.split.ignoreErrors && failure.kind != .cancelled) = false) :
    frame.deliver ⟨.error failure, state, log⟩ =
      .settled frame.fork (.error (.branch failure)) log := by
  simp only [Frame.deliver, hi, Bool.false_eq_true, if_false]

end Deliver

/-- The stage behind a fork whose branches gave some outputs. -/
def Fork.joined (fork : Fork) (steps : List Step) (outputs : List String) (log : Log) : Stage :=
  { fork.stage with state := fork.stage.state.joined steps fork.split outputs, log }

/-- The end of the run at a fork that fails. -/
def Fork.fault (fork : Fork) (fault : Fault) (log : Log) : SectionEnd :=
  (fork.stage.state.inPhase .branching).fault fork.step fault log

namespace Plan

/-- The name of the operation that the turn at a stage runs, if it runs one. -/
def callAt (plan : Plan) (stage : Stage) : Option String :=
  match plan.turnAt stage with
  | .dispatch step => some step.operation
  | _ => none

/-- How often the turn at a stage waits. -/
def waitsAt (plan : Plan) (stage : Stage) : Nat :=
  (plan.moveAt stage).log.waits - stage.log.waits

/-- What follows on the result of the branches of a fork. -/
def settle (plan : Plan) (fork : Fork) (log : Log) : Except Fault (List String) → Focus
  | .ok outputs => .turn (fork.joined plan.steps outputs log) 0
  | .error fault => .ended (fork.fault fault log)

/-- A step of a thread, with the name of the operation whose call it posts. -/
def advance (plan : Plan) : Thread → Option (Thread × Option String)
  | ⟨.turn stage waited, frames⟩ =>
    if waited < plan.waitsAt stage then some (⟨.turn stage (waited + 1), frames⟩, none)
    else match plan.moveAt stage with
      | .stop finished => some (⟨.ended finished, frames⟩, plan.callAt stage)
      | .go next log => some (⟨.turn { stage with state := next, log } 0, frames⟩, plan.callAt stage)
      | .fork step split log =>
        some (⟨.gather ⟨⟨stage, step, split⟩, split.pieces, []⟩ log, frames⟩, none)
  | ⟨.gather ⟨fork, [], outputs⟩ log, frames⟩ =>
    some (⟨.settled fork (.ok outputs) log, frames⟩, none)
  | ⟨.gather ⟨fork, piece :: rest, outputs⟩ log, frames⟩ =>
    if fork.stage.control.isCancelled log then
      some (⟨.settled fork (.error .cancelled) log, frames⟩, none)
    else
      some (⟨.turn (plan.branchStage fork.stage piece log) 0, ⟨fork, rest, outputs⟩ :: frames⟩, none)
  | ⟨.settled fork result log, frames⟩ =>
    some (⟨plan.settle fork log result, frames⟩, some fork.step.operation)
  | ⟨.ended finished, frame :: frames⟩ => some (⟨frame.deliver finished, frames⟩, none)
  | ⟨.ended _, []⟩ => none

/-- All that a step of a thread can do. -/
inductive Advances (plan : Plan) : Thread → Thread → Option String → Prop where
  | waits (stage : Stage) (waited : Nat) (frames : List Frame) :
      Advances plan ⟨.turn stage waited, frames⟩ ⟨.turn stage (waited + 1), frames⟩ none
  | stops {stage : Stage} {finished : SectionEnd} (waited : Nat) (frames : List Frame) :
      plan.moveAt stage = .stop finished →
      Advances plan ⟨.turn stage waited, frames⟩ ⟨.ended finished, frames⟩ (plan.callAt stage)
  | goes {stage : Stage} {next : State} {log : Log} (waited : Nat) (frames : List Frame) :
      plan.moveAt stage = .go next log →
      Advances plan ⟨.turn stage waited, frames⟩
        ⟨.turn { stage with state := next, log } 0, frames⟩ (plan.callAt stage)
  | forks {stage : Stage} {step : Step} {split : Split} {log : Log} (waited : Nat)
      (frames : List Frame) : plan.moveAt stage = .fork step split log →
      Advances plan ⟨.turn stage waited, frames⟩
        ⟨.gather ⟨⟨stage, step, split⟩, split.pieces, []⟩ log, frames⟩ none
  | gathered (fork : Fork) (outputs : List String) (log : Log) (frames : List Frame) :
      Advances plan ⟨.gather ⟨fork, [], outputs⟩ log, frames⟩
        ⟨.settled fork (.ok outputs) log, frames⟩ none
  | cancelled {fork : Fork} {log : Log} (piece : String) (rest outputs : List String)
      (frames : List Frame) : fork.stage.control.isCancelled log = true →
      Advances plan ⟨.gather ⟨fork, piece :: rest, outputs⟩ log, frames⟩
        ⟨.settled fork (.error .cancelled) log, frames⟩ none
  | branches {fork : Fork} {log : Log} (piece : String) (rest outputs : List String)
      (frames : List Frame) : fork.stage.control.isCancelled log = false →
      Advances plan ⟨.gather ⟨fork, piece :: rest, outputs⟩ log, frames⟩
        ⟨.turn (plan.branchStage fork.stage piece log) 0, ⟨fork, rest, outputs⟩ :: frames⟩ none
  | settles (fork : Fork) (result : Except Fault (List String)) (log : Log) (frames : List Frame) :
      Advances plan ⟨.settled fork result log, frames⟩ ⟨plan.settle fork log result, frames⟩
        (some fork.step.operation)
  | delivers (finished : SectionEnd) (frame : Frame) (frames : List Frame) :
      Advances plan ⟨.ended finished, frame :: frames⟩ ⟨frame.deliver finished, frames⟩ none

variable {plan : Plan} {thread next : Thread} {call : Option String} {stage : Stage}
  {final finished : SectionEnd} {frames : List Frame}

theorem advances_of_advance (h : plan.advance thread = some (next, call)) :
    plan.Advances thread next call := by
  obtain ⟨focus, frames⟩ := thread
  cases focus with
  | turn stage waited =>
    simp only [advance] at h
    split at h
    · cases h
      exact .waits stage waited frames
    · split at h <;> rename_i hmove <;> cases h
      · exact .stops waited frames hmove
      · exact .goes waited frames hmove
      · exact .forks waited frames hmove
  | gather frame log =>
    obtain ⟨fork, _ | ⟨piece, rest⟩, outputs⟩ := frame
    · cases h
      exact .gathered fork outputs log frames
    · simp only [advance] at h
      split at h <;> rename_i hc <;> cases h
      · exact .cancelled piece rest outputs frames hc
      · exact .branches piece rest outputs frames (Bool.eq_false_iff.mpr hc)
  | settled fork result log =>
    cases h
    exact .settles fork result log frames
  | ended finished =>
    cases frames with
    | nil => simp [advance] at h
    | cons frame frames =>
      cases h
      exact .delivers finished frame frames

/-- A thread goes on until its run has ended. -/
theorem exists_advance (plan : Plan) (thread : Thread) :
    (∃ finished, thread = ⟨.ended finished, []⟩) ∨
      ∃ next call, plan.advance thread = some (next, call) := by
  obtain ⟨focus, frames⟩ := thread
  cases focus with
  | turn stage waited =>
    refine .inr ?_
    simp only [advance]
    split
    · exact ⟨_, _, rfl⟩
    · split <;> exact ⟨_, _, rfl⟩
  | gather frame log =>
    refine .inr ?_
    obtain ⟨fork, _ | ⟨piece, rest⟩, outputs⟩ := frame
    · exact ⟨_, _, rfl⟩
    · simp only [advance]
      split <;> exact ⟨_, _, rfl⟩
  | settled fork result log => exact .inr ⟨_, _, rfl⟩
  | ended finished =>
    cases frames with
    | nil => exact .inl ⟨finished, rfl⟩
    | cons frame frames => exact .inr ⟨_, _, rfl⟩

/-! ## What threads come to -/

/-- The run ends so behind a fork. -/
def SettledEnds (plan : Plan) (fork : Fork) (log : Log) (finished : SectionEnd) :
    Except Fault (List String) → Prop
  | .ok outputs => plan.EndsAt (fork.joined plan.steps outputs log) finished
  | .error fault => finished = fork.fault fault log

/-- The run in which a thread stands, up to the innermost fork that waits for it, ends so. -/
def FocusEnds (plan : Plan) (finished : SectionEnd) : Focus → Prop
  | .turn stage _ => plan.EndsAt stage finished
  | .gather ⟨fork, rest, outputs⟩ log => ∃ result last,
      plan.ForkEnds fork.stage.control fork.stage.state { fork.split with pieces := rest } log
        result last ∧
      plan.SettledEnds fork last finished (result.map (outputs ++ ·))
  | .settled fork result log => plan.SettledEnds fork log finished result
  | .ended other => finished = other

/-- What a thread whose innermost run has ended comes to. -/
def FramesEnd (plan : Plan) : List Frame → SectionEnd → SectionEnd → Prop
  | [], finished, final => finished = final
  | frame :: frames, finished, final =>
    ∃ next, plan.FocusEnds next (frame.deliver finished) ∧ plan.FramesEnd frames next final

/-- What a thread comes to. -/
def ThreadEnds (plan : Plan) (thread : Thread) (final : SectionEnd) : Prop :=
  ∃ finished, plan.FocusEnds finished thread.focus ∧ plan.FramesEnd thread.frames finished final

private theorem map_append_cons (outputs : List String) (output : String)
    (result : Except Fault (List String)) :
    (result.map (output :: ·)).map (outputs ++ ·) = result.map (outputs ++ [output] ++ ·) := by
  cases result with
  | ok others => exact congrArg Except.ok (List.append_cons outputs output others)
  | error fault => rfl

/-- What a fork comes to with the end of its next branch. -/
private theorem focusEnds_gather {fork : Fork} {piece : String} {rest outputs : List String}
    {log : Log} {final : SectionEnd} (hc : fork.stage.control.isCancelled log = false)
    (hbranch : plan.EndsAt (plan.branchStage fork.stage piece log) finished)
    (h : plan.FocusEnds final (Frame.deliver ⟨fork, rest, outputs⟩ finished)) :
    plan.FocusEnds final (.gather ⟨fork, piece :: rest, outputs⟩ log) := by
  have hrun : plan.SectionEnds fork.stage.control.forBranch
      (fork.stage.state.branchOn plan.steps piece) log finished := hbranch
  obtain ⟨result, baked, next⟩ := finished
  cases result with
  | ok status =>
    cases ho : Flow.branchOutput baked.dish with
    | error fault =>
      rw [deliver_noText _ status next ho] at h
      exact ⟨_, _, .noText hc hrun ho, h⟩
    | ok output =>
      rw [deliver_text _ status next ho] at h
      obtain ⟨result, last, hrest, hafter⟩ := h
      refine ⟨_, last, .text hc hrun ho hrest, ?_⟩
      rw [map_append_cons]
      exact hafter
  | error failure =>
    cases hi : fork.split.ignoreErrors && failure.kind != .cancelled with
    | true =>
      rw [deliver_skipped _ baked next hi] at h
      obtain ⟨result, last, hrest, hafter⟩ := h
      exact ⟨result, last, .skipped hc hrun hi hrest, hafter⟩
    | false =>
      rw [deliver_failed _ baked next hi] at h
      exact ⟨_, _, .failed hc hrun hi, h⟩

private theorem focusEnds_settle {fork : Fork} {log : Log} {result : Except Fault (List String)}
    (h : plan.FocusEnds finished (plan.settle fork log result)) :
    plan.FocusEnds finished (.settled fork result log) := by
  cases result with
  | ok outputs => exact h
  | error fault => exact h

/-- What a thread comes to after a step, it comes to. -/
theorem Advances.threadEnds (h : plan.Advances thread next call)
    (hends : plan.ThreadEnds next final) : plan.ThreadEnds thread final := by
  obtain ⟨finished, hfocus, hframes⟩ := hends
  cases h with
  | waits => exact ⟨finished, hfocus, hframes⟩
  | stops _ _ hmove =>
    obtain rfl : finished = _ := hfocus
    exact ⟨_, Ends.of_stop hmove, hframes⟩
  | goes _ _ hmove => exact ⟨finished, Ends.of_go hmove hfocus, hframes⟩
  | forks _ _ hmove =>
    obtain ⟨result, last, hb, hafter⟩ := hfocus
    refine ⟨finished, ?_, hframes⟩
    cases result with
    | ok outputs => exact Ends.of_forkJoins hmove hb hafter
    | error fault =>
      obtain rfl : finished = _ := hafter
      exact Ends.of_forkFails hmove hb
  | gathered fork outputs log =>
    refine ⟨finished, ⟨.ok [], log, .nil log, ?_⟩, hframes⟩
    change plan.SettledEnds fork log finished (.ok (outputs ++ []))
    rw [List.append_nil]
    exact hfocus
  | cancelled _ _ _ _ hc => exact ⟨finished, ⟨_, _, .cancelled hc, hfocus⟩, hframes⟩
  | branches _ _ _ _ hc =>
    obtain ⟨after, hafter, hframes⟩ := hframes
    exact ⟨after, focusEnds_gather hc hfocus hafter, hframes⟩
  | settles => exact ⟨finished, focusEnds_settle hfocus, hframes⟩
  | delivers other => exact ⟨other, rfl, finished, hfocus, hframes⟩

end Plan

/-! ## Calls that are owed -/

/-- The operation of the fork that a thread stands at, whose call is still to be posted. -/
def Focus.owed : Focus → List String
  | turn _ _ => []
  | gather frame _ => [frame.fork.step.operation]
  | settled fork _ _ => [fork.step.operation]
  | ended _ => []

/-- The operations that the thread has dispatched and whose calls are still to be posted. -/
def Thread.owed (thread : Thread) : List String :=
  thread.focus.owed ++ thread.frames.map (·.fork.step.operation)

/-- A transformation that a step runs dispatches nothing. -/
def Registry.Quiet (registry : Registry) : Prop :=
  ∀ operation ∈ registry.operations, operation.descriptor.flowControl = false →
    ∀ context args dish log, Log.Quiet log (operation.transform context args dish log).2

theorem Registry.Accountable.quiet {registry : Registry} (h : registry.Accountable) :
    registry.Quiet := fun operation hmem => (h operation hmem).quiet

namespace Log

theorem Quiet.operations_eq {log log' : Log} (h : Quiet log log') :
    log'.operations = log.operations := by
  obtain ⟨events, rfl, hevents⟩ := h
  have hnone : events.filterMap operationOf? = [] := by
    rw [List.filterMap_eq_nil_iff]
    exact hevents
  rw [operations, operations, List.filterMap_append, hnone, List.nil_append]

theorem operations_announced (plan : Plan) (control : Control) (step : Step) (state : State)
    (log : Log) :
    (plan.announced control step state log).operations = log.operations ++ [step.operation] := by
  have hreport := quiet_report (Plan.context control step state)
    (announcement step state.progress plan.steps.length) none log
  have hsame := hreport.operations_eq
  unfold operations at hsame ⊢
  rw [Plan.announced, Context.announce, List.filterMap_cons]
  simp only [operationOf?, List.reverse_cons]
  rw [← hsame]
  rfl

end Log

theorem Registry.Quiet.operation {registry : Registry} (h : registry.Quiet) (name : String)
    (hf : (registry.operation name).descriptor.flowControl = false) (context : Context)
    (args : List Argument) (dish : Dish) (log : Log) :
    Log.Quiet log ((registry.operation name).transform context args dish log).2 := by
  unfold Registry.operation at hf ⊢
  cases hfound : registry.get? name with
  | none => exact .refl log
  | some found =>
    rw [hfound] at hf
    exact h found (List.mem_of_find?_eq_some hfound) hf context args dish log

namespace Plan

variable {plan : Plan} {thread next : Thread} {call : Option String} {stage : Stage}
  {final finished : SectionEnd} {frames : List Frame}

/-- A step that is dispatched adds its operation to those dispatched, and nothing else does. -/
theorem operations_dispatch (hq : plan.registry.Quiet) (control : Control) (step : Step)
    (state : State) (log : Log) :
    (plan.dispatch control step state log).log.operations =
      log.operations ++ [step.operation] := by
  rw [← Log.operations_announced plan control step state log]
  cases hf : (plan.registry.operation step.operation).descriptor.flowControl with
  | true =>
    cases ha : (plan.registry.operation step.operation).flow with
    | act action =>
      rw [dispatch_act control state log hf ha]
      split <;> rfl
    | fork =>
      rw [dispatch_fork control state log hf ha]
      split <;> rfl
  | false =>
    rw [dispatch_transform control state log hf]
    have hquiet : Log.Quiet (plan.announced control step state log) _ :=
      Operation.quiet_bake (hq.operation step.operation hf (context control step state)
        (state.argsFor step) · _) state.dish
    rw [← hquiet.operations_eq]
    split <;> rename_i hbaked <;> rw [hbaked] <;> rfl

theorem operations_moveAt (hq : plan.registry.Quiet) (stage : Stage) :
    (plan.moveAt stage).log.operations = stage.log.operations ++ (plan.callAt stage).toList := by
  rw [moveAt_eq, callAt]
  cases hturn : plan.turnAt stage with
  | dispatch step => exact operations_dispatch hq stage.control step stage.state stage.log
  | finish => exact (List.append_nil _).symm
  | cancel step => exact (List.append_nil _).symm
  | skip => exact (List.append_nil _).symm
  | pause => exact (List.append_nil _).symm

theorem callAt_of_fork {step : Step} {split : Split} {log : Log}
    (h : plan.moveAt stage = .fork step split log) : plan.callAt stage = some step.operation := by
  rw [callAt, turnAt_of_fork h]

private theorem owed_deliver (frame : Frame) (finished : SectionEnd) :
    (frame.deliver finished).owed = [frame.fork.step.operation] := by
  unfold Frame.deliver
  split <;> split <;> rfl

private theorem log_deliver (frame : Frame) (finished : SectionEnd) :
    (frame.deliver finished).log = finished.log := by
  unfold Frame.deliver
  split <;> split <;> rfl

private theorem owed_settle (fork : Fork) (log : Log) (result : Except Fault (List String)) :
    (plan.settle fork log result).owed = [] := by
  cases result <;> rfl

private theorem log_settle (fork : Fork) (log : Log) (result : Except Fault (List String)) :
    (plan.settle fork log result).log = log := by
  cases result <;> rfl

/-- What a step dispatches is posted by it or owed after it. -/
theorem Advances.operations (hq : plan.registry.Quiet) (h : plan.Advances thread next call) :
    (next.focus.log.operations ++ thread.owed).Perm
      (thread.focus.log.operations ++ next.owed ++ call.toList) := by
  cases h with
  | waits stage waited frames =>
    rw [Option.toList_none, List.append_nil]
    exact .refl _
  | @stops stage finished waited frames hmove =>
    have hlog : finished.log.operations = _ := hmove ▸ operations_moveAt hq stage
    change (finished.log.operations ++ _).Perm (stage.log.operations ++ _ ++ _)
    rw [hlog, List.append_assoc, List.append_assoc]
    exact List.perm_append_comm.append_left _
  | @goes stage next log waited frames hmove =>
    have hlog : log.operations = _ := hmove ▸ operations_moveAt hq stage
    change (log.operations ++ _).Perm (stage.log.operations ++ _ ++ _)
    rw [hlog, List.append_assoc, List.append_assoc]
    exact List.perm_append_comm.append_left _
  | @forks stage step split log waited frames hmove =>
    have hlog : log.operations = _ := hmove ▸ operations_moveAt hq stage
    rw [callAt_of_fork hmove] at hlog
    change (log.operations ++ _).Perm (stage.log.operations ++ _ ++ [])
    rw [hlog, List.append_nil, List.append_assoc]
    exact .refl _
  | gathered fork outputs log frames => simp [Focus.log, Thread.owed, Focus.owed]
  | cancelled piece rest outputs frames hc => simp [Focus.log, Thread.owed, Focus.owed]
  | branches piece rest outputs frames hc =>
    simp [Focus.log, Thread.owed, Focus.owed, branchStage]
  | settles fork result log frames =>
    rw [Thread.owed, Thread.owed, log_settle, owed_settle, List.append_assoc]
    exact List.perm_append_comm.append_left _
  | delivers finished frame frames =>
    rw [Thread.owed, Thread.owed, log_deliver, owed_deliver, Option.toList_none, List.append_nil]
    exact .refl _

/-! ## How long threads last -/

/-- The thread comes to the end of its run in a number of steps. -/
inductive Lasts (plan : Plan) : Nat → Thread → Prop where
  | ended (finished : SectionEnd) : Lasts plan 0 ⟨.ended finished, []⟩
  | step {n : Nat} {thread next : Thread} {call : Option String} :
      plan.advance thread = some (next, call) → Lasts plan n next → Lasts plan (n + 1) thread

/-- From the start of a run the thread comes to an end if it does behind the end of the run. -/
def Returns (plan : Plan) (stage : Stage) (finished : SectionEnd) : Prop :=
  ∀ frames n, plan.Lasts n ⟨.ended finished, frames⟩ → ∃ m, plan.Lasts m ⟨.turn stage 0, frames⟩

/-- A turn that waits comes to its end. -/
private theorem exists_lasts_of_waited {n : Nat}
    (h : plan.Lasts n ⟨.turn stage (plan.waitsAt stage), frames⟩) :
    ∃ m, plan.Lasts m ⟨.turn stage 0, frames⟩ := by
  have hwaits : ∀ left waited, waited + left = plan.waitsAt stage →
      ∃ m, plan.Lasts m ⟨.turn stage waited, frames⟩ := by
    intro left
    induction left with
    | zero =>
      rintro waited rfl
      exact ⟨n, h⟩
    | succ left ih =>
      intro waited hsum
      obtain ⟨m, hm⟩ := ih (waited + 1) (by omega)
      have hstep : plan.advance ⟨.turn stage waited, frames⟩ =
          some (⟨.turn stage (waited + 1), frames⟩, none) := by
        rw [advance, if_pos (by omega)]
      exact ⟨m + 1, .step hstep hm⟩
  exact hwaits (plan.waitsAt stage) 0 (Nat.zero_add _)

private theorem advance_waited (plan : Plan) (stage : Stage) (frames : List Frame) :
    plan.advance ⟨.turn stage (plan.waitsAt stage), frames⟩ =
      match plan.moveAt stage with
      | .stop finished => some (⟨.ended finished, frames⟩, plan.callAt stage)
      | .go next log => some (⟨.turn { stage with state := next, log } 0, frames⟩, plan.callAt stage)
      | .fork step split log =>
        some (⟨.gather ⟨⟨stage, step, split⟩, split.pieces, []⟩ log, frames⟩, none) := by
  rw [advance, if_neg (Nat.lt_irrefl _)]

private theorem returns_of_stop (hmove : plan.moveAt stage = .stop finished) :
    plan.Returns stage finished := by
  intro frames n h
  have hstep := plan.advance_waited stage frames
  rw [hmove] at hstep
  exact exists_lasts_of_waited (.step hstep h)

private theorem returns_of_go {state : State} {log : Log}
    (hmove : plan.moveAt stage = .go state log)
    (hnext : plan.Returns { stage with state, log } finished) : plan.Returns stage finished := by
  intro frames n h
  obtain ⟨m, hm⟩ := hnext frames n h
  have hstep := plan.advance_waited stage frames
  rw [hmove] at hstep
  exact exists_lasts_of_waited (.step hstep hm)

/-- A fork comes to an end if its next branch returns and it does behind that branch. -/
private theorem exists_lasts_of_branch {fork : Fork} {piece : String} {rest outputs : List String}
    {log : Log} {n : Nat} (hc : fork.stage.control.isCancelled log = false)
    (hbranch : plan.Returns (plan.branchStage fork.stage piece log) finished)
    (h : plan.Lasts n ⟨Frame.deliver ⟨fork, rest, outputs⟩ finished, frames⟩) :
    ∃ m, plan.Lasts m ⟨.gather ⟨fork, piece :: rest, outputs⟩ log, frames⟩ := by
  have hdeliver : plan.Lasts (n + 1) ⟨.ended finished, ⟨fork, rest, outputs⟩ :: frames⟩ :=
    .step rfl h
  obtain ⟨m, hm⟩ := hbranch _ _ hdeliver
  have hstep : plan.advance ⟨.gather ⟨fork, piece :: rest, outputs⟩ log, frames⟩ =
      some (⟨.turn (plan.branchStage fork.stage piece log) 0, ⟨fork, rest, outputs⟩ :: frames⟩,
        none) := by
    simp only [advance, hc, Bool.false_eq_true, if_false]
  exact ⟨m + 1, .step hstep hm⟩

/-- The branches of a fork return. -/
abbrev BranchesReturn (plan : Plan) (fork : Fork) (pieces : List String) (log : Log)
    (result : Except Fault (List String)) (last : Log) : Prop :=
  Branches (fun branch log finished =>
      plan.Returns ⟨fork.stage.control.forBranch, branch.startFrom fork.stage.control.forBranch,
        branch.inPhase .running, log⟩ finished)
    fork.stage.control fork.split.ignoreErrors (fork.stage.state.branchOn plan.steps) pieces log
    result last

/-- A fork whose branches return comes to an end if it does behind them. -/
private theorem exists_lasts_gather {fork : Fork} {rest outputs : List String} {log last : Log}
    {result : Except Fault (List String)} (hb : plan.BranchesReturn fork rest log result last)
    {n : Nat} (h : plan.Lasts n ⟨.settled fork (result.map (outputs ++ ·)) last, frames⟩) :
    ∃ m, plan.Lasts m ⟨.gather ⟨fork, rest, outputs⟩ log, frames⟩ := by
  induction hb generalizing outputs with
  | nil log =>
    change plan.Lasts n ⟨.settled fork (.ok (outputs ++ [])) log, frames⟩ at h
    rw [List.append_nil] at h
    exact ⟨n + 1, .step rfl h⟩
  | @cancelled piece rest log hc =>
    have hstep : plan.advance ⟨.gather ⟨fork, piece :: rest, outputs⟩ log, frames⟩ =
        some (⟨.settled fork (.error .cancelled) log, frames⟩, none) := by
      simp only [advance, hc, if_true]
    exact ⟨n + 1, .step hstep h⟩
  | @text piece rest log next last status baked output result hc hrun ho _ ih =>
    rw [map_append_cons] at h
    obtain ⟨m, hm⟩ := ih h
    exact exists_lasts_of_branch hc hrun ((deliver_text ⟨fork, rest, outputs⟩ status next ho) ▸ hm)
  | @noText piece rest log next status baked fault hc hrun ho =>
    exact exists_lasts_of_branch hc hrun ((deliver_noText ⟨fork, rest, outputs⟩ status next ho) ▸ h)
  | @skipped piece rest log next last failure left result hc hrun hi _ ih =>
    obtain ⟨m, hm⟩ := ih h
    exact exists_lasts_of_branch hc hrun ((deliver_skipped ⟨fork, rest, outputs⟩ left next hi) ▸ hm)
  | @failed piece rest log next failure left hc hrun hi =>
    exact exists_lasts_of_branch hc hrun ((deliver_failed ⟨fork, rest, outputs⟩ left next hi) ▸ h)

private theorem returns_of_fork {step : Step} {split : Split} {log last : Log}
    {result : Except Fault (List String)} (hmove : plan.moveAt stage = .fork step split log)
    (hb : plan.BranchesReturn ⟨stage, step, split⟩ split.pieces log result last)
    (h : ∀ frames n, plan.Lasts n ⟨.ended finished, frames⟩ →
      ∃ m, plan.Lasts m ⟨plan.settle ⟨stage, step, split⟩ last result, frames⟩) :
    plan.Returns stage finished := by
  intro frames n hn
  obtain ⟨m, hm⟩ := h frames n hn
  have hsettled : plan.Lasts (m + 1)
      ⟨.settled ⟨stage, step, split⟩ (result.map ([] ++ ·)) last, frames⟩ := by
    have hmap : result.map (([] : List String) ++ ·) = result := by cases result <;> rfl
    rw [hmap]
    exact .step rfl hm
  obtain ⟨k, hk⟩ := exists_lasts_gather hb hsettled
  have hstep := plan.advance_waited stage frames
  rw [hmove] at hstep
  exact exists_lasts_of_waited (.step hstep hk)

/-- The thread of a run that ends comes to an end. -/
theorem Ends.returns {control : Control} {startFrom : Nat} {state : State} {log : Log}
    (h : plan.Ends control startFrom state log finished) :
    plan.Returns ⟨control, startFrom, state, log⟩ finished := by
  induction h using Plan.Ends.induct with
  | stop hmove => exact returns_of_stop hmove
  | go hmove _ ih => exact returns_of_go hmove ih
  | forkFails hmove hbranches =>
    exact returns_of_fork hmove (hbranches.mono fun _ _ _ hr => hr.2) fun frames n hn => ⟨n, hn⟩
  | forkJoins hmove hbranches _ ih =>
    exact returns_of_fork hmove (hbranches.mono fun _ _ _ hr => hr.2) ih

/-! ## Whole runs -/

/-- The thread that stands at the first stage of the bake of an input. -/
def firstThread (plan : Plan) (input : Dish) (control : Control) : Thread :=
  ⟨.turn (plan.firstStage input control) 0, []⟩

theorem exists_lasts_firstThread {input : Dish} {control : Control}
    (h : plan.EndsAt (plan.firstStage input control) finished) :
    ∃ n, plan.Lasts n (plan.firstThread input control) :=
  Ends.returns h [] 0 (.ended finished)

end Plan
end Kitchen
