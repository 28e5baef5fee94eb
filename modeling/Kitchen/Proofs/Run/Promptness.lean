import Kitchen.Proofs.Run.Cancellation

/-!
# Promptness

What every move does to the events, a whole run does with all branches in it: it only adds to them,
and behind the moment of cancellation it dispatches no step but the one whose announcement was being
delivered at that moment.
-/

namespace Kitchen

/-! ## Properties of events -/

section LogProperties

variable {run : State → Log → SectionEnd → Prop} {plan : Plan} {control : Control}
  {ignoreErrors : Bool} {branch : String → State} {pieces : List String} {startFrom n : Nat}
  {state : State} {log last : Log} {result : Except Fault (List String)} {finished : SectionEnd}
  {root stage : Stage} {q : Log → Prop}

/-- Every move of a run and of its branches keeps the property of events. -/
def Plan.KeptByMoves (plan : Plan) (moment : Option Moment) (q : Log → Prop) : Prop :=
  ∀ (control : Control) (startFrom : Nat) (state : State) (log : Log), control.cancelAt = moment →
    q log → q (plan.move control startFrom state log).log

theorem Branches.log_property (h : Branches run control ignoreErrors branch pieces log result last)
    (hrun : ∀ piece log finished, run (branch piece) log finished → q log → q finished.log)
    (hq : q log) : q last := by
  induction h with
  | nil log => exact hq
  | cancelled => exact hq
  | text _ hr _ _ ih => exact ih (hrun _ _ _ hr hq)
  | noText _ hr _ => exact hrun _ _ _ hr hq
  | skipped _ hr _ _ ih => exact ih (hrun _ _ _ hr hq)
  | failed _ hr _ => exact hrun _ _ _ hr hq

/-- A property of events that every move keeps, a run keeps. -/
theorem Plan.Ends.log_property (h : plan.Ends control startFrom state log finished)
    (hmove : plan.KeptByMoves control.cancelAt q) (hq : q log) : q finished.log := by
  induction h using Plan.Ends.induct with
  | @stop control startFrom state log finished hstop =>
    have hlast := hmove control startFrom state log rfl hq
    rwa [hstop] at hlast
  | @go control startFrom state log next log₁ finished hgo _ ih =>
    have hnext := hmove control startFrom state log rfl hq
    rw [hgo] at hnext
    exact ih hmove hnext
  | @forkFails control startFrom state log step split log₁ fault log₂ hfork hbranches =>
    have hnext := hmove control startFrom state log rfl hq
    rw [hfork] at hnext
    exact hbranches.log_property (fun _ _ _ ⟨_, ih⟩ => ih hmove) hnext
  | @forkJoins control startFrom state log step split log₁ outputs log₂ finished hfork hbranches _
      ih =>
    have hnext := hmove control startFrom state log rfl hq
    rw [hfork] at hnext
    exact ih hmove (hbranches.log_property (fun _ _ _ ⟨_, ih⟩ => ih hmove) hnext)

theorem Plan.ForkEnds.log_property {split : Split}
    (h : plan.ForkEnds control state split log result last)
    (hmove : plan.KeptByMoves control.cancelAt q) (hq : q log) : q last :=
  Branches.log_property h (fun _ _ _ hends => hends.log_property hmove) hq

/-- The host of a branch cancels when the host of the whole run does. -/
theorem Plan.Reaches.cancelAt_eq (h : plan.Reaches root stage n) :
    stage.control.cancelAt = root.control.cancelAt := by
  induction h with
  | start => rfl
  | go _ _ ih => exact ih
  | join _ _ _ ih => exact ih
  | branch _ _ _ _ _ ih => exact ih

/-- A property of events that every move keeps holds at every stage of a run. -/
theorem Plan.Reaches.log_property (h : plan.Reaches root stage n)
    (hmove : plan.KeptByMoves root.control.cancelAt q) (hq : q root.log) : q stage.log := by
  induction h with
  | start => exact hq
  | @go stage n next log hreach hgo ih =>
    have hnext := hmove stage.control stage.startFrom stage.state stage.log hreach.cancelAt_eq ih
    rwa [show plan.move _ _ _ _ = _ from hgo] at hnext
  | @join stage n step split log last outputs hreach hfork hb ih =>
    have hnext := hmove stage.control stage.startFrom stage.state stage.log hreach.cancelAt_eq ih
    rw [show plan.move _ _ _ _ = _ from hfork] at hnext
    exact hb.log_property (hreach.cancelAt_eq ▸ hmove) hnext
  | @branch stage n step split log last outputs before after piece hreach hfork _ hb _ ih =>
    have hnext := hmove stage.control stage.startFrom stage.state stage.log hreach.cancelAt_eq ih
    rw [show plan.move _ _ _ _ = _ from hfork] at hnext
    exact hb.log_property (hreach.cancelAt_eq ▸ hmove) hnext

end LogProperties

/-! ## Events of a move -/

namespace Log

variable {log log' : Log}

theorem Quiet.suffix (h : Quiet log log') : log <:+ log' := by
  obtain ⟨events, rfl, _⟩ := h
  exact List.suffix_append events log

/-- Events that dispatch nothing leave the dispatched steps where they are. -/
theorem Quiet.of_dispatched_suffix (h : Quiet log log') {i : Nat} {operation : String}
    {earlier : Log} (hsuffix : .dispatched i operation :: earlier <:+ log') :
    .dispatched i operation :: earlier <:+ log := by
  obtain ⟨events, rfl, hevents⟩ := h
  induction events with
  | nil => exact hsuffix
  | cons event events ih =>
    rcases List.suffix_cons_iff.mp hsuffix with hhead | htail
    · obtain rfl := (List.cons.inj hhead).1
      have hquiet := hevents _ List.mem_cons_self
      simp [operationOf?] at hquiet
    · exact ih (fun other hmem => hevents other (List.mem_cons_of_mem event hmem)) htail

end Log

namespace Plan

variable {plan : Plan} {control : Control} {step : Step} {state : State} {log : Log}

/-- The announcement of a step is delivered to a host that listens, and then the step runs. -/
theorem announced_cases (plan : Plan) (control : Control) (step : Step) (state : State) (log : Log) :
    plan.announced control step state log = .dispatched state.progress step.operation :: log ∨
      ∃ update, update.step = state.progress ∧ update.operation = step.operation ∧
        plan.announced control step state log =
          .dispatched state.progress step.operation :: .reported update :: log := by
  rw [announced, Context.announce]
  cases hl : control.listening with
  | false =>
    left
    simp [Context.report, context, hl]
  | true =>
    right
    refine ⟨⟨state.progress, step.operation, announcement step state.progress plan.steps.length,
      none⟩, rfl, rfl, ?_⟩
    simp [Context.report, context, hl]

/-- A move dispatches at most the step at the cursor, and not once it is cancelled. -/
theorem log_move_cases (hr : plan.registry = .builtIn) (control : Control) (startFrom : Nat)
    (state : State) (log : Log) :
    (plan.move control startFrom state log).log = log ∨
      ∃ step, control.isCancelled log = false ∧
        Log.Quiet (plan.announced control step state log)
          (plan.move control startFrom state log).log := by
  have hmakes := makes_move hr control startFrom state log
  generalize plan.move control startFrom state log = move at hmakes
  cases hmakes with
  | finishes => exact .inl rfl
  | cancels => exact .inl rfl
  | skips => exact .inl rfl
  | pauses => exact .inl rfl
  | dispatches step hc hdispatched =>
    refine .inr ⟨step, hc, ?_⟩
    cases hdispatched with
    | acts next => exact .refl _
    | bakes dish hquiet _ _ => exact hquiet
    | forks split _ => exact .refl _
    | faults phase _ hquiet _ _ _ => exact hquiet

/-- The wait at which its host cancels is the last of a run. -/
theorem waits_move (hr : plan.registry = .builtIn) {n : Nat}
    (hmoment : control.cancelAt = some (.wait n)) (startFrom : Nat) (state : State)
    (hlt : log.waits < n) :
    (plan.move control startFrom state log).IsCancelled ∨
      (plan.move control startFrom state log).log.waits < n := by
  have hmakes := makes_move hr control startFrom state log
  generalize plan.move control startFrom state log = move at hmakes
  cases hmakes with
  | finishes => exact .inr hlt
  | cancels => exact .inr hlt
  | skips => exact .inr hlt
  | pauses => exact .inr hlt
  | dispatches step _ hdispatched =>
    cases hdispatched with
    | acts next => exact .inr (by simpa [Move.log] using hlt)
    | bakes dish _ _ hwait => exact .inr (hwait n hmoment hlt)
    | forks split _ => exact .inr (by simpa [Move.log] using hlt)
    | faults phase _ _ _ _ hwait =>
      rcases hwait n hmoment hlt with rfl | hlt
      · exact .inl ⟨_, rfl, State.isCancelled_fault.mpr rfl⟩
      · exact .inr hlt

/-- A run takes no wait behind the one at which its host cancels. -/
theorem keptByMoves_waits (hr : plan.registry = .builtIn) {n : Nat} (hpos : 0 < n) :
    plan.KeptByMoves (some (.wait n)) (Log.waits · ≤ n) := by
  intro control startFrom state log hmoment hle
  have hmakes := makes_move hr control startFrom state log
  generalize plan.move control startFrom state log = move at hmakes
  cases hmakes with
  | finishes => exact hle
  | cancels => exact hle
  | skips => exact hle
  | pauses => exact hle
  | dispatches step _ hdispatched =>
    cases hdispatched with
    | acts next => simpa [Move.log] using hle
    | bakes dish _ hkeeps _ => exact hkeeps n hmoment hpos hle
    | forks split _ => simpa [Move.log] using hle
    | faults phase _ _ hkeeps _ _ => exact hkeeps n hmoment hpos hle

theorem suffix_announced (plan : Plan) (control : Control) (step : Step) (state : State)
    (log : Log) : log <:+ plan.announced control step state log := by
  rcases plan.announced_cases control step state log with h | ⟨update, _, _, h⟩
  · rw [h]
    exact List.suffix_cons _ _
  · rw [h]
    exact (List.suffix_cons _ _).trans (List.suffix_cons _ _)

/-- A move adds to the events. -/
theorem keptByMoves_suffix (hr : plan.registry = .builtIn) (earlier : Log)
    (moment : Option Moment) : plan.KeptByMoves moment (earlier <:+ ·) := by
  intro control startFrom state log _ hq
  rcases log_move_cases hr control startFrom state log with hsame | ⟨step, _, hquiet⟩
  · rwa [hsame]
  · exact (hq.trans (plan.suffix_announced control step state log)).trans hquiet.suffix

end Plan

/-! ## Promptness -/

/-- No step has been dispatched behind the moment of cancellation, but for one whose announcement was
being delivered at that moment. -/
def Log.Prompt (control : Control) (log : Log) : Prop :=
  ∀ i operation earlier, .dispatched i operation :: earlier <:+ log →
    control.isCancelled earlier = true →
    ∃ update before, earlier = .reported update :: before ∧ update.step = i ∧
      update.operation = operation ∧ control.isCancelled before = false

theorem Log.prompt_nil (control : Control) : Log.Prompt control [] := by
  intro i operation earlier hsuffix
  simp at hsuffix

namespace Plan

variable {plan : Plan}

private theorem prompt_announced {control control' : Control} {log : Log} (step : Step)
    (state : State) (hc : control.isCancelled log = false) (h : Log.Prompt control log) :
    Log.Prompt control (plan.announced control' step state log) := by
  intro i operation earlier hsuffix hcancelled
  rcases plan.announced_cases control' step state log with hlog | ⟨update, hstep, hoperation, hlog⟩
  · rw [hlog] at hsuffix
    rcases List.suffix_cons_iff.mp hsuffix with hhead | htail
    · obtain ⟨_, rfl⟩ := List.cons.inj hhead
      rw [hc] at hcancelled
      exact absurd hcancelled (by simp)
    · exact h i operation earlier htail hcancelled
  · rw [hlog] at hsuffix
    rcases List.suffix_cons_iff.mp hsuffix with hhead | htail
    · obtain ⟨hevent, rfl⟩ := List.cons.inj hhead
      obtain ⟨rfl, rfl⟩ := Event.dispatched.inj hevent
      exact ⟨update, log, rfl, hstep, hoperation, hc⟩
    · have hquiet : Log.Quiet log (.reported update :: log) := (Log.Quiet.refl log).cons rfl
      exact h i operation earlier (hquiet.of_dispatched_suffix htail) hcancelled

/-- A move dispatches no step behind the moment of cancellation. -/
theorem keptByMoves_prompt (hr : plan.registry = .builtIn) (control : Control) :
    plan.KeptByMoves control.cancelAt (Log.Prompt control) := by
  intro control' startFrom state log hmoment hq
  rcases log_move_cases hr control' startFrom state log with hsame | ⟨step, hc, hquiet⟩
  · rwa [hsame]
  · have hc' : control.isCancelled log = false := by
      rw [← hc, Control.isCancelled, Control.isCancelled, hmoment]
    intro i operation earlier hsuffix
    exact prompt_announced step state hc' hq i operation earlier (hquiet.of_dispatched_suffix hsuffix)

end Plan
end Kitchen
