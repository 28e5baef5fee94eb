import Kitchen.Proofs.Run.Dispatch
import Kitchen.Proofs.Run.Stage

/-!
# Cancellation of runs

A run under another moment of cancellation goes the same way unless one of the two is cancelled. Once
it is cancelled, a run ends, and a cancelled branch ends the run of the whole recipe.
-/

namespace Kitchen

/-! ## Cancelled ends -/

/-- The end is a cancellation. -/
def SectionEnd.IsCancelled (finished : SectionEnd) : Prop :=
  ∃ failure, finished.result = .error failure ∧ failure.kind = .cancelled

@[simp] theorem SectionEnd.isCancelled_error {failure : Failure} {left : State} {log : Log} :
    (SectionEnd.mk (.error failure) left log).IsCancelled ↔ failure.kind = .cancelled := by
  simp [IsCancelled]

@[simp] theorem SectionEnd.not_isCancelled_ok {status : Status} {baked : State} {log : Log} :
    ¬ (SectionEnd.mk (.ok status) baked log).IsCancelled := by
  simp [IsCancelled]

@[simp] theorem State.isCancelled_fault {state : State} {step : Step} {fault : Fault} {log : Log} :
    (state.fault step fault log).IsCancelled ↔ fault.kind = .cancelled := by
  simp [State.fault]

/-- The result is a fault by cancellation, of the fork itself or of a branch. -/
def CancelledBranches (result : Except Fault (List String)) : Prop :=
  ∃ fault, result = .error fault ∧ fault.kind = .cancelled

@[simp] theorem cancelledBranches_error {fault : Fault} :
    CancelledBranches (.error fault) ↔ fault.kind = .cancelled := by
  simp [CancelledBranches]

@[simp] theorem cancelledBranches_map {result : Except Fault (List String)}
    {f : List String → List String} :
    CancelledBranches (result.map f) ↔ CancelledBranches result := by
  cases result <;> simp [CancelledBranches, Except.map]

/-- A branch output without text is no cancellation. -/
theorem Flow.kind_branchOutput {dish : Dish} {fault : Fault}
    (h : branchOutput dish = .error fault) : fault.kind = .dishConversion := by
  unfold branchOutput at h
  split at h
  · simp at h
  · split at h
    · rename_i value _
      cases hv : value.asText with
      | error error =>
        rw [hv] at h
        obtain rfl : Fault.dish error = fault := by simpa using h
        rfl
      | ok text => simp [hv] at h
    · rename_i error _
      obtain rfl : Fault.dish error = fault := by simpa using h
      rfl

/-! ## Turns -/

/-- The moment of cancellation has no bearing on a turn at which no host has cancelled. -/
theorem State.turn_cancelledAt (state : State) (steps : List Step) (control : Control)
    (startFrom : Nat) (log : Log) (moment : Option Moment) :
    (∃ step, state.turn steps control startFrom log = .cancel step) ∨
      (∃ step, state.turn steps (control.cancelledAt moment) startFrom log = .cancel step) ∨
      state.turn steps (control.cancelledAt moment) startFrom log =
        state.turn steps control startFrom log := by
  unfold turn
  by_cases hend : state.scopeEnd ≤ state.progress
  · exact .inr (.inr (by rw [if_pos hend, if_pos hend]))
  · rw [if_neg hend, if_neg hend]
    cases steps[state.progress]? with
    | none => exact .inr (.inr rfl)
    | some step =>
      by_cases hc : control.isCancelled log = true
      · exact .inl ⟨step, if_pos hc⟩
      · by_cases hc' : (control.cancelledAt moment).isCancelled log = true
        · exact .inr (.inl ⟨step, if_pos hc'⟩)
        · right
          right
          dsimp only
          rw [if_neg hc, if_neg hc']
          rfl

/-! ## Moves -/

/-- The events by the end of a move. -/
def Move.log : Move → Log
  | .stop finished => finished.log
  | .go _ log => log
  | .fork _ _ log => log

/-- The move ends the run by a cancellation. -/
def Move.IsCancelled (move : Move) : Prop := ∃ finished, move = .stop finished ∧ finished.IsCancelled

namespace Plan

variable {plan : Plan} {control : Control} {startFrom : Nat} {state : State} {log : Log}
  {finished : SectionEnd}

private theorem isCancelled_of_turn_cancel {step : Step}
    (h : state.turn plan.steps control startFrom log = .cancel step) :
    (plan.move control startFrom state log).IsCancelled := by
  rw [move, h]
  exact ⟨_, rfl, SectionEnd.isCancelled_error.mpr rfl⟩

private theorem isCancelled_baked {step : Step} {baked : Except Fault Dish × Log}
    (h : baked.1 = .error .cancelled) : (state.baked step baked).IsCancelled := by
  obtain ⟨fault | dish, last⟩ := baked
  · obtain rfl : fault = .cancelled := by simpa using h
    exact ⟨_, rfl, State.isCancelled_fault.mpr rfl⟩
  · simp at h

private theorem dispatch_cancelledAt (hr : plan.registry = .builtIn) (moment : Option Moment)
    (step : Step) :
    (plan.dispatch control step state log).IsCancelled ∨
      (plan.dispatch (control.cancelledAt moment) step state log).IsCancelled ∨
      plan.dispatch (control.cancelledAt moment) step state log =
        plan.dispatch control step state log := by
  cases hf : (plan.registry.operation step.operation).descriptor.flowControl with
  | true =>
    right
    right
    rw [dispatch, dispatch, hf, if_pos rfl, if_pos rfl]
    rfl
  | false =>
    have hwatchful : (plan.registry.operation step.operation).Watchful := by
      rw [hr] at hf ⊢
      exact Registry.watchful_builtIn hf
    rw [dispatch_baked hf, dispatch_baked hf]
    have hbake := hwatchful.bake_cancelledAt (context control step state) moment
      (state.argsFor step) state.dish (plan.announced control step state log)
    rcases hbake with hc | hc | hsame
    · exact .inl (isCancelled_baked hc)
    · exact .inr (.inl (isCancelled_baked hc))
    · exact .inr (.inr (congrArg (state.baked step) hsame))

/-- Under another moment of cancellation a run makes the same move, unless one of the two runs is
cancelled. -/
theorem move_cancelledAt (hr : plan.registry = .builtIn) (control : Control) (startFrom : Nat)
    (state : State) (log : Log) (moment : Option Moment) :
    (plan.move control startFrom state log).IsCancelled ∨
      (plan.move (control.cancelledAt moment) startFrom state log).IsCancelled ∨
      plan.move (control.cancelledAt moment) startFrom state log =
        plan.move control startFrom state log := by
  rcases state.turn_cancelledAt plan.steps control startFrom log moment with ⟨step, h⟩ | ⟨step, h⟩ |
    hturn
  · exact .inl (isCancelled_of_turn_cancel h)
  · exact .inr (.inl (isCancelled_of_turn_cancel h))
  · rw [move, move, hturn]
    cases state.turn plan.steps control startFrom log with
    | finish => exact .inr (.inr rfl)
    | cancel step => exact .inr (.inr rfl)
    | skip => exact .inr (.inr rfl)
    | pause => exact .inr (.inr rfl)
    | dispatch step => exact dispatch_cancelledAt hr moment step

/-- Once it is cancelled, a run stops. -/
theorem move_of_isCancelled (plan : Plan) (h : control.isCancelled log = true) (startFrom : Nat)
    (state : State) :
    ∃ finished, plan.move control startFrom state log = .stop finished ∧ finished.log = log := by
  rw [move]
  rcases state.turn_of_isCancelled h plan.steps startFrom with hturn | ⟨step, hturn⟩
  · rw [hturn]
    exact ⟨_, rfl, rfl⟩
  · rw [hturn]
    exact ⟨_, rfl, rfl⟩

/-- A run that stops by a cancellation has been cancelled. -/
theorem isCancelled_of_move_stop (hr : plan.registry = .builtIn)
    (h : plan.move control startFrom state log = .stop finished) (hc : finished.IsCancelled) :
    control.isCancelled finished.log = true := by
  have hmakes := makes_move hr control startFrom state log
  rw [h] at hmakes
  cases hmakes with
  | finishes => exact absurd hc SectionEnd.not_isCancelled_ok
  | cancels step hcancelled => exact hcancelled
  | pauses => exact absurd hc SectionEnd.not_isCancelled_ok
  | dispatches step _ hdispatched =>
    cases hdispatched with
    | faults phase hown _ _ hcancelled _ =>
      rw [State.isCancelled_fault, hown.kind_eq_cancelled] at hc
      exact hcancelled hc

/-- A run that stops at a breakpoint has not been cancelled. -/
theorem isCancelled_of_move_pause (hr : plan.registry = .builtIn) {i : Nat}
    (h : plan.move control startFrom state log = .stop finished)
    (hpaused : finished.result = .ok (.paused i)) : control.isCancelled finished.log = false := by
  have hmakes := makes_move hr control startFrom state log
  rw [h] at hmakes
  cases hmakes with
  | finishes => simp at hpaused
  | cancels => simp at hpaused
  | pauses hcancelled => exact hcancelled
  | dispatches step _ hdispatched =>
    cases hdispatched with
    | faults => simp [State.fault] at hpaused

end Plan

/-! ## Branches -/

section Branches

variable {run run' : State → Log → SectionEnd → Prop} {control : Control} {ignoreErrors : Bool}
  {branch : String → State} {pieces : List String} {log last : Log}
  {result : Except Fault (List String)}

/-- A fork that ends by a cancellation has been cancelled, if this is true of its branches. -/
theorem Branches.isCancelled_log (h : Branches run control ignoreErrors branch pieces log result last)
    (hrun : ∀ piece log finished, run (branch piece) log finished → finished.IsCancelled →
      control.isCancelled finished.log = true)
    (hc : CancelledBranches result) : control.isCancelled last = true := by
  induction h with
  | nil log => simp [CancelledBranches] at hc
  | cancelled hcancelled => exact hcancelled
  | text _ _ _ _ ih => exact ih (cancelledBranches_map.mp hc)
  | noText _ _ ho => simp [Flow.kind_branchOutput ho] at hc
  | skipped _ _ _ _ ih => exact ih hc
  | failed _ hr _ =>
    exact hrun _ _ _ hr (SectionEnd.isCancelled_error.mpr (cancelledBranches_error.mp hc))

/-- Under another moment of cancellation a fork comes to the same end of its next branch, unless one
of the two forks is cancelled by then. -/
private theorem Branches.head_cancelledAt (moment : Option Moment) {piece : String}
    {rest : List String} {finished : SectionEnd} (hr : run (branch piece) log finished)
    (hrun : ∀ piece log finished, run (branch piece) log finished →
      finished.IsCancelled ∨ run' (branch piece) log finished ∨
        ∃ other, run' (branch piece) log other ∧ other.IsCancelled) :
    (∃ result' last', Branches run' (control.cancelledAt moment) ignoreErrors branch
        (piece :: rest) log result' last' ∧ CancelledBranches result') ∨
      (control.cancelledAt moment).isCancelled log = false ∧
        (finished.IsCancelled ∨ run' (branch piece) log finished) := by
  cases hc : (control.cancelledAt moment).isCancelled log with
  | true => exact .inl ⟨_, _, .cancelled hc, cancelledBranches_error.mpr rfl⟩
  | false =>
    rcases hrun piece log finished hr with hcancelled | hsame | ⟨⟨result, left, next⟩, hother, failure,
      rfl, hkind⟩
    · exact .inr ⟨rfl, .inl hcancelled⟩
    · exact .inr ⟨rfl, .inr hsame⟩
    · exact .inl ⟨_, _, .failed hc hother (by simp [hkind]), cancelledBranches_error.mpr hkind⟩

/-- Under another moment of cancellation a fork comes to the same, unless one of the two forks is
cancelled, if this is true of its branches. -/
theorem Branches.cancelledAt (h : Branches run control ignoreErrors branch pieces log result last)
    (moment : Option Moment) (run' : State → Log → SectionEnd → Prop)
    (hrun : ∀ piece log finished, run (branch piece) log finished →
      finished.IsCancelled ∨ run' (branch piece) log finished ∨
        ∃ other, run' (branch piece) log other ∧ other.IsCancelled) :
    CancelledBranches result ∨
      Branches run' (control.cancelledAt moment) ignoreErrors branch pieces log result last ∨
      ∃ result' last', Branches run' (control.cancelledAt moment) ignoreErrors branch pieces log
        result' last' ∧ CancelledBranches result' := by
  induction h with
  | nil log => exact .inr (.inl (.nil log))
  | cancelled => exact .inl (cancelledBranches_error.mpr rfl)
  | @text piece rest log next last status baked output result _ hr ho _ ih =>
    rcases head_cancelledAt moment hr hrun with hother | ⟨hc', hcancelled | hr'⟩
    · exact .inr (.inr hother)
    · exact absurd hcancelled SectionEnd.not_isCancelled_ok
    · rcases ih with hcancelled | hsame | ⟨result', last', hother, hcancelled⟩
      · exact .inl (cancelledBranches_map.mpr hcancelled)
      · exact .inr (.inl (.text hc' hr' ho hsame))
      · exact .inr (.inr ⟨_, _, .text hc' hr' ho hother, cancelledBranches_map.mpr hcancelled⟩)
  | @noText piece rest log next status baked fault _ hr ho =>
    rcases head_cancelledAt moment hr hrun with hother | ⟨hc', hcancelled | hr'⟩
    · exact .inr (.inr hother)
    · exact absurd hcancelled SectionEnd.not_isCancelled_ok
    · exact .inr (.inl (.noText hc' hr' ho))
  | @skipped piece rest log next last failure left result _ hr hi _ ih =>
    rcases head_cancelledAt moment hr hrun with hother | ⟨hc', hcancelled | hr'⟩
    · exact .inr (.inr hother)
    · simp [SectionEnd.isCancelled_error.mp hcancelled] at hi
    · rcases ih with hcancelled | hsame | ⟨result', last', hother, hcancelled⟩
      · exact .inl hcancelled
      · exact .inr (.inl (.skipped hc' hr' hi hsame))
      · exact .inr (.inr ⟨_, _, .skipped hc' hr' hi hother, hcancelled⟩)
  | @failed piece rest log next failure left _ hr hi =>
    rcases head_cancelledAt moment hr hrun with hother | ⟨hc', hcancelled | hr'⟩
    · exact .inr (.inr hother)
    · exact .inl (cancelledBranches_error.mpr (SectionEnd.isCancelled_error.mp hcancelled))
    · exact .inr (.inl (.failed hc' hr' hi))

end Branches

/-! ## Ends -/

namespace Plan

variable {plan : Plan} {control : Control} {startFrom : Nat} {state : State} {log : Log}
  {finished : SectionEnd}

/-- A run that ends by a cancellation has been cancelled. -/
theorem Ends.isCancelled_log (h : plan.Ends control startFrom state log finished)
    (hr : plan.registry = .builtIn) (hc : finished.IsCancelled) :
    control.isCancelled finished.log = true := by
  induction h using Plan.Ends.induct with
  | stop hmove => exact isCancelled_of_move_stop hr hmove hc
  | go _ _ ih => exact ih hc
  | forkFails _ hbranches =>
    rw [State.isCancelled_fault, ← cancelledBranches_error] at hc
    exact hbranches.isCancelled_log (fun _ _ _ ⟨_, ih⟩ => ih) hc
  | forkJoins _ _ _ ih => exact ih hc

/-- A run that pauses has not been cancelled. -/
theorem Ends.isCancelled_of_paused (h : plan.Ends control startFrom state log finished)
    (hr : plan.registry = .builtIn) {i : Nat} (hpaused : finished.result = .ok (.paused i)) :
    control.isCancelled finished.log = false := by
  induction h using Plan.Ends.induct with
  | stop hmove => exact isCancelled_of_move_pause hr hmove hpaused
  | go _ _ ih => exact ih hpaused
  | forkFails => simp [State.fault] at hpaused
  | forkJoins _ _ _ ih => exact ih hpaused

/-- Under another moment of cancellation a run comes to the same end, unless one of the two runs ends
by a cancellation. -/
theorem Ends.cancelledAt (h : plan.Ends control startFrom state log finished)
    (hr : plan.registry = .builtIn) (moment : Option Moment) :
    finished.IsCancelled ∨
      plan.Ends (control.cancelledAt moment) startFrom state log finished ∨
      ∃ other, plan.Ends (control.cancelledAt moment) startFrom state log other ∧
        other.IsCancelled := by
  induction h using Plan.Ends.induct with
  | @stop control startFrom state log finished hmove =>
    rcases move_cancelledAt hr control startFrom state log moment with ⟨other, hstop, hc⟩ |
      ⟨other, hstop, hc⟩ | hsame
    · obtain rfl := Move.stop.inj (hmove.symm.trans hstop)
      exact .inl hc
    · exact .inr (.inr ⟨other, .of_stop hstop, hc⟩)
    · exact .inr (.inl (.of_stop (hsame.trans hmove)))
  | @go control startFrom state log next log₁ finished hmove _ ih =>
    rcases move_cancelledAt hr control startFrom state log moment with ⟨other, hstop, hc⟩ |
      ⟨other, hstop, hc⟩ | hsame
    · simp [hmove] at hstop
    · exact .inr (.inr ⟨other, .of_stop hstop, hc⟩)
    · rcases ih with hc | hends | ⟨other, hends, hc⟩
      · exact .inl hc
      · exact .inr (.inl (.of_go (hsame.trans hmove) hends))
      · exact .inr (.inr ⟨other, .of_go (hsame.trans hmove) hends, hc⟩)
  | @forkFails control startFrom state log step split log₁ fault log₂ hmove hbranches =>
    rcases move_cancelledAt hr control startFrom state log moment with ⟨other, hstop, hc⟩ |
      ⟨other, hstop, hc⟩ | hsame
    · simp [hmove] at hstop
    · exact .inr (.inr ⟨other, .of_stop hstop, hc⟩)
    · have hcases := hbranches.cancelledAt moment
        (plan.SectionEnds (control.cancelledAt moment).forBranch) fun _ _ _ ⟨_, ih⟩ => ih
      rcases hcases with hc | hb | ⟨_, last', hb, fault', rfl, hkind⟩
      · exact .inl (State.isCancelled_fault.mpr (cancelledBranches_error.mp hc))
      · exact .inr (.inl (.of_forkFails (hsame.trans hmove) hb))
      · exact .inr (.inr ⟨_, .of_forkFails (hsame.trans hmove) hb,
          State.isCancelled_fault.mpr hkind⟩)
  | @forkJoins control startFrom state log step split log₁ outputs log₂ finished hmove hbranches _
      ih =>
    rcases move_cancelledAt hr control startFrom state log moment with ⟨other, hstop, hc⟩ |
      ⟨other, hstop, hc⟩ | hsame
    · simp [hmove] at hstop
    · exact .inr (.inr ⟨other, .of_stop hstop, hc⟩)
    · have hcases := hbranches.cancelledAt moment
        (plan.SectionEnds (control.cancelledAt moment).forBranch) fun _ _ _ ⟨_, ih⟩ => ih
      rcases hcases with hc | hb | ⟨_, last', hb, fault', rfl, hkind⟩
      · simp [CancelledBranches] at hc
      · rcases ih with hc | hends | ⟨other, hends, hc⟩
        · exact .inl hc
        · exact .inr (.inl (.of_forkJoins (hsame.trans hmove) hb hends))
        · exact .inr (.inr ⟨other, .of_forkJoins (hsame.trans hmove) hb hends, hc⟩)
      · exact .inr (.inr ⟨_, .of_forkFails (hsame.trans hmove) hb,
          State.isCancelled_fault.mpr hkind⟩)

/-- A run that has not been cancelled ends the same where nobody cancels. -/
theorem Ends.uncancelled (h : plan.Ends control startFrom state log finished)
    (hr : plan.registry = .builtIn) (hc : ¬ finished.IsCancelled) :
    plan.Ends (control.cancelledAt none) startFrom state log finished := by
  rcases h.cancelledAt hr none with hcancelled | hsame | ⟨other, hends, hcancelled⟩
  · exact absurd hcancelled hc
  · exact hsame
  · have hlog := hends.isCancelled_log hr hcancelled
    exact absurd hlog (by simp [Control.isCancelled, Control.cancelledAt])

end Plan

/-! ## Stages -/

/-- The stage of a run whose host cancels at another moment, or never. -/
def Stage.cancelledAt (stage : Stage) (moment : Option Moment) : Stage :=
  { stage with control := stage.control.cancelledAt moment }

/-- Once it is cancelled, a fork takes up no piece. -/
theorem Branches.exists_of_isCancelled (run : State → Log → SectionEnd → Prop) {control : Control}
    {log : Log} (hc : control.isCancelled log = true) (ignoreErrors : Bool)
    (branch : String → State) (pieces : List String) :
    ∃ result, Branches run control ignoreErrors branch pieces log result log := by
  cases pieces with
  | nil => exact ⟨_, .nil log⟩
  | cons piece rest => exact ⟨_, .cancelled hc⟩

/-- Once a branch of it is cancelled, a fork ends. -/
theorem Branches.exists_of_run_isCancelled {run : State → Log → SectionEnd → Prop}
    {control : Control} {log : Log} {branch : String → State} {piece : String}
    {finished : SectionEnd} (hc : control.isCancelled log = false)
    (hrun : run (branch piece) log finished) (hc' : control.isCancelled finished.log = true)
    (ignoreErrors : Bool) (rest : List String) :
    ∃ result, Branches run control ignoreErrors branch (piece :: rest) log result finished.log := by
  obtain ⟨result, hrest⟩ := exists_of_isCancelled run hc' ignoreErrors branch rest
  obtain ⟨failure | status, left, next⟩ := finished
  · cases hi : ignoreErrors && failure.kind != .cancelled with
    | false => exact ⟨_, .failed hc hrun hi⟩
    | true => exact ⟨result, .skipped hc hrun hi hrest⟩
  · cases ho : Flow.branchOutput left.dish with
    | error fault => exact ⟨_, .noText hc hrun ho⟩
    | ok output => exact ⟨_, .text hc hrun ho hrest⟩

namespace Plan

variable {plan : Plan} {root stage : Stage} {n : Nat}

private theorem exists_endsAt_of_fork {step : Step} {split : Split} {log last : Log}
    {result : Except Fault (List String)} (hmove : plan.moveAt stage = .fork step split log)
    (hb : plan.ForkEnds stage.control stage.state split log result last)
    (hc : stage.control.isCancelled last = true) :
    ∃ finished, plan.EndsAt stage finished ∧ stage.control.isCancelled finished.log = true := by
  cases result with
  | error fault => exact ⟨_, .of_forkFails hmove hb, hc⟩
  | ok outputs =>
    obtain ⟨finished, hstop, hlog⟩ := plan.move_of_isCancelled hc stage.startFrom
      (stage.state.joined plan.steps split outputs)
    exact ⟨finished, .of_forkJoins hmove hb (.of_stop hstop), hlog ▸ hc⟩

/-- Once it is cancelled, a run ends. -/
theorem exists_endsAt_of_isCancelled
    (hc : stage.control.isCancelled (plan.moveAt stage).log = true) :
    ∃ finished, plan.EndsAt stage finished ∧ stage.control.isCancelled finished.log = true := by
  cases hmove : plan.moveAt stage with
  | stop finished =>
    rw [hmove] at hc
    exact ⟨finished, .of_stop hmove, hc⟩
  | go next log =>
    rw [hmove] at hc
    obtain ⟨finished, hstop, hlog⟩ := plan.move_of_isCancelled hc stage.startFrom next
    exact ⟨finished, .of_go hmove (.of_stop hstop), hlog ▸ hc⟩
  | fork step split log =>
    rw [hmove] at hc
    obtain ⟨result, hb⟩ := Branches.exists_of_isCancelled
      (plan.SectionEnds stage.control.forBranch) hc split.ignoreErrors
      (stage.state.branchOn plan.steps) split.pieces
    exact exists_endsAt_of_fork hmove hb hc

/-- Once it is cancelled at some stage, a whole run ends. -/
theorem Reaches.exists_endsAt_of_isCancelled (h : plan.Reaches root stage n)
    (hc : stage.control.isCancelled (plan.moveAt stage).log = true) :
    ∃ finished, plan.EndsAt root finished ∧ root.control.isCancelled finished.log = true := by
  have hends := Plan.exists_endsAt_of_isCancelled hc
  clear hc
  induction h with
  | start => exact hends
  | go _ hmove ih =>
    obtain ⟨finished, hnext, hc⟩ := hends
    exact ih ⟨finished, .of_go hmove hnext, hc⟩
  | join _ hmove hb ih =>
    obtain ⟨finished, hnext, hc⟩ := hends
    exact ih ⟨finished, .of_forkJoins hmove hb hnext, hc⟩
  | @branch stage n step split log last outputs before after piece _ hmove hpieces hb hc ih =>
    obtain ⟨finished, hbranch, hc'⟩ := hends
    have hrun : plan.SectionEnds stage.control.forBranch (stage.state.branchOn plan.steps piece) last
      finished := hbranch
    obtain ⟨result, hrest⟩ := Branches.exists_of_run_isCancelled hc hrun hc' split.ignoreErrors after
    have hall := hb.append hrest
    rw [← hpieces] at hall
    exact ih (exists_endsAt_of_fork hmove hall hc')

/-- A cancellation at some stage is the end of the whole run, whatever the forks around it ignore. -/
theorem Reaches.endsAt_of_isCancelled (h : plan.Reaches root stage n) {failure : Failure}
    {left : State} {last : Log} (hends : plan.EndsAt stage ⟨.error failure, left, last⟩)
    (hkind : failure.kind = .cancelled) : ∃ left', plan.EndsAt root ⟨.error failure, left', last⟩ := by
  induction h generalizing left with
  | start => exact ⟨left, hends⟩
  | go _ hmove ih => exact ih (.of_go hmove hends)
  | join _ hmove hb ih => exact ih (.of_forkJoins hmove hb hends)
  | @branch stage n step split log next outputs before after piece _ hmove hpieces hb hc ih =>
    have hrest : plan.ForkEnds stage.control stage.state { split with pieces := piece :: after } next
      (.error (.branch failure)) last := .failed hc hends (by simp [hkind])
    have hall := hb.append hrest
    rw [← hpieces] at hall
    exact ih (.of_forkFails hmove hall)

/-- The run from a stage ends by a cancellation. -/
def EndsCancelled (plan : Plan) (stage : Stage) : Prop :=
  ∃ finished, plan.EndsAt stage finished ∧ finished.IsCancelled

theorem Reaches.endsCancelled (h : plan.Reaches root stage n) (hc : plan.EndsCancelled stage) :
    plan.EndsCancelled root := by
  obtain ⟨⟨result, left, last⟩, hends, failure, rfl, hkind⟩ := hc
  obtain ⟨left', hroot⟩ := h.endsAt_of_isCancelled hends hkind
  exact ⟨_, hroot, SectionEnd.isCancelled_error.mpr hkind⟩

theorem EndsCancelled.of_forkFails {step : Step} {split : Split} {log last : Log} {fault : Fault}
    (hmove : plan.moveAt stage = .fork step split log)
    (hb : plan.ForkEnds stage.control stage.state split log (.error fault) last)
    (hkind : fault.kind = .cancelled) : plan.EndsCancelled stage :=
  ⟨_, .of_forkFails hmove hb, State.isCancelled_fault.mpr hkind⟩

/-- Under another moment of cancellation a run goes on as it does, unless it is cancelled. -/
theorem moveAt_cancelledAt (hr : plan.registry = .builtIn) (moment : Option Moment) {move : Move}
    (hmove : plan.moveAt stage = move) (hstop : ¬ move.IsCancelled) :
    plan.EndsCancelled (stage.cancelledAt moment) ∨
      plan.moveAt (stage.cancelledAt moment) = move := by
  rcases move_cancelledAt hr stage.control stage.startFrom stage.state stage.log moment with hother |
    ⟨other, hother, hc⟩ | hsame
  · exact absurd (hmove ▸ hother) hstop
  · exact .inl ⟨other, .of_stop hother, hc⟩
  · exact .inr (hsame.trans hmove)

private theorem forkEnds_cancelledAt (hr : plan.registry = .builtIn) (moment : Option Moment)
    {split : Split} {log last : Log} {outputs : List String}
    (hb : plan.ForkEnds stage.control stage.state split log (.ok outputs) last) :
    plan.ForkEnds (stage.cancelledAt moment).control stage.state split log (.ok outputs) last ∨
      ∃ fault last', plan.ForkEnds (stage.cancelledAt moment).control stage.state split log
        (.error fault) last' ∧ fault.kind = .cancelled := by
  rcases hb.cancelledAt moment (plan.SectionEnds (stage.control.cancelledAt moment).forBranch)
    (fun _ _ _ h => h.cancelledAt hr moment) with hc | hb' | ⟨_, last', hb', fault, rfl, hkind⟩
  · simp [CancelledBranches] at hc
  · exact .inl hb'
  · exact .inr ⟨fault, last', hb', hkind⟩

/-- Under another moment of cancellation a run comes to the same stages, unless it ends by a
cancellation. -/
theorem Reaches.cancelledAt (h : plan.Reaches root stage n) (hr : plan.registry = .builtIn)
    (moment : Option Moment) :
    plan.EndsCancelled (root.cancelledAt moment) ∨
      plan.Reaches (root.cancelledAt moment) (stage.cancelledAt moment) n := by
  induction h with
  | start => exact .inr .start
  | @go stage n next log _ hmove ih =>
    rcases ih with hcancelled | hreach
    · exact .inl hcancelled
    · rcases moveAt_cancelledAt hr moment hmove (by simp [Move.IsCancelled]) with hc | hmove'
      · exact .inl (hreach.endsCancelled hc)
      · exact .inr (hreach.go hmove')
  | @join stage n step split log last outputs _ hmove hb ih =>
    rcases ih with hcancelled | hreach
    · exact .inl hcancelled
    · rcases moveAt_cancelledAt hr moment hmove (by simp [Move.IsCancelled]) with hc | hmove'
      · exact .inl (hreach.endsCancelled hc)
      · rcases forkEnds_cancelledAt hr moment hb with hb' | ⟨fault, last', hb', hkind⟩
        · exact .inr (hreach.join hmove' hb')
        · exact .inl (hreach.endsCancelled (.of_forkFails hmove' hb' hkind))
  | @branch stage n step split log last outputs before after piece _ hmove hpieces hb hc ih =>
    rcases ih with hcancelled | hreach
    · exact .inl hcancelled
    · rcases moveAt_cancelledAt hr moment hmove (by simp [Move.IsCancelled]) with hc' | hmove'
      · exact .inl (hreach.endsCancelled hc')
      · rcases forkEnds_cancelledAt hr moment hb with hb' | ⟨fault, last', hb', hkind⟩
        · cases hc' : (stage.cancelledAt moment).control.isCancelled last with
          | false => exact .inr (hreach.branch hmove' hpieces hb' hc')
          | true =>
            -- Cancelled before the piece, the fork ends there, whatever pieces come behind it.
            have hrest : plan.ForkEnds (stage.cancelledAt moment).control stage.state
              { split with pieces := piece :: after } last (.error .cancelled) last := .cancelled hc'
            have hall := hb'.append hrest
            rw [← hpieces] at hall
            exact .inl (hreach.endsCancelled (.of_forkFails hmove' hall rfl))
        · have hall := hb'.append_of_error (piece :: after)
          rw [← hpieces] at hall
          exact .inl (hreach.endsCancelled (.of_forkFails hmove' hall hkind))

end Plan
end Kitchen
