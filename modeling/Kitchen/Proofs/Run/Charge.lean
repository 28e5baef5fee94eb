import Kitchen.Proofs.Operation.Accountable
import Kitchen.Proofs.Run.Failing

/-!
# Charges

A run with accountable operations fails by a cancellation or in a step that it has dispatched, also
where the step stands in the branch of a fork, however deep. So the events of a run name the
operation to which its failure is charged.
-/

namespace Kitchen

/-! ## Dispatched names -/

namespace Log

/-- A step has been dispatched under the name. -/
def Names (name : String) (log : Log) : Prop := name ∈ log.operations

theorem names_iff {name : String} {log : Log} :
    Names name log ↔ ∃ event ∈ log, operationOf? event = some name := by
  simp [Names, operations]

theorem Names.suffix {name : String} {log log' : Log} (h : Names name log) (hs : log <:+ log') :
    Names name log' := by
  obtain ⟨event, hmem, hname⟩ := names_iff.mp h
  exact names_iff.mpr ⟨event, hs.mem hmem, hname⟩

theorem names_announced (plan : Plan) (control : Control) (step : Step) (state : State) (log : Log) :
    Names step.operation (plan.announced control step state log) :=
  names_iff.mpr ⟨_, mem_announced plan control step state log, rfl⟩

end Log

/-- The failure is charged to a step that was dispatched, if it is charged at all. -/
def Failure.Charged (failure : Failure) (log : Log) : Prop :=
  failure.kind = .cancelled ∨ Log.Names failure.operation log

theorem Failure.charged_ofFault {fault : Fault} (h : fault.IsOwn) (step : Nat) {operation : String}
    {log : Log} (hnames : Log.Names operation log) :
    (Failure.ofFault step operation fault).Charged log := by
  obtain ⟨_, hoperation, _⟩ := Failure.ofFault_of_isOwn h step operation
  exact .inr (hoperation.symm ▸ hnames)

/-! ## Moves -/

/-- What a step of an accountable operation comes to: the events grow from its announcement on, and
a fault is its own. -/
inductive Plan.Accounts (plan : Plan) (control : Control) (step : Step) (state : State) (log : Log) :
    Move → Prop where
  | goes (next : State) {last : Log} : Log.Quiet (plan.announced control step state log) last →
      Accounts plan control step state log (.go next last)
  | forks (split : Split) :
      Accounts plan control step state log
        (.fork step split (plan.announced control step state log))
  | faults {fault : Fault} (left : State) {last : Log} : fault.IsOwn →
      Log.Quiet (plan.announced control step state log) last →
      Accounts plan control step state log (.stop (left.fault step fault last))

/-- The move dispatches nothing. -/
inductive Move.Idles (log : Log) : Move → Prop where
  | goes (next : State) : Idles log (.go next log)
  | ends (status : Status) (left : State) : Idles log (.stop ⟨.ok status, left, log⟩)
  | cancels (step : Nat) (operation : String) (left : State) :
      Idles log (.stop ⟨.error (.cancelled step operation), left, log⟩)

theorem Move.Idles.log_eq {log : Log} {move : Move} (h : move.Idles log) : move.log = log := by
  cases h <;> rfl

namespace Plan

variable {plan : Plan} {control : Control} {startFrom : Nat} {state : State} {log : Log}
  {finished : SectionEnd}

theorem accounts_dispatch (hr : plan.registry.Accountable) (control : Control) (step : Step)
    (state : State) (log : Log) :
    plan.Accounts control step state log (plan.dispatch control step state log) := by
  have haccountable := hr.operation step.operation
  cases hf : (plan.registry.operation step.operation).descriptor.flowControl with
  | false =>
    rw [dispatch_baked hf]
    generalize hlast : (plan.registry.operation step.operation).bake (context control step state)
      (state.argsFor step) state.dish (plan.announced control step state log) = last
    have hquiet : Log.Quiet (plan.announced control step state log) last.2 :=
      hlast ▸ Operation.quiet_bake (fun input => haccountable.quiet hf _ _ input _) state.dish
    have hown : OwnFaults last.1 :=
      hlast ▸ Operation.ownFaults_bake (fun _ _ => haccountable.transform_isOwn hf) state.dish
    obtain ⟨fault | dish, last⟩ := last
    · exact .faults state (hown fault rfl) hquiet
    · exact .goes _ hquiet
  | true =>
    cases hbody : (plan.registry.operation step.operation).flow with
    | fork =>
      rw [dispatch_fork control state log hf hbody]
      cases hparts : state.forkParts (state.argsFor step) with
      | error fault =>
        have hplain := Flow.plainFaults_forkParts state (state.argsFor step) fault hparts
        exact .faults _ hplain.isOwn (.refl _)
      | ok parts => exact .forks _
    | act action =>
      rw [dispatch_act control state log hf hbody]
      cases hn : action plan.steps (state.argsFor step) (state.inPhase .branching) with
      | error fault => exact .faults _ (haccountable.flow_isOwn hf hbody _ _ _ fault hn) (.refl _)
      | ok steered => exact .goes _ (.refl _)

/-- A move leaves the events as they are, or it is that of a dispatched step. -/
theorem accounts_move (hr : plan.registry.Accountable) (control : Control) (startFrom : Nat)
    (state : State) (log : Log) :
    (plan.move control startFrom state log).Idles log ∨
      ∃ step, plan.Accounts control step state log (plan.move control startFrom state log) := by
  rw [move]
  cases state.turn plan.steps control startFrom log with
  | finish => exact .inl (.ends _ _)
  | cancel step => exact .inl (.cancels _ _ _)
  | skip => exact .inl (.goes _)
  | pause => exact .inl (.ends _ _)
  | dispatch step => exact .inr ⟨step, accounts_dispatch hr control step state log⟩

theorem Accounts.suffix {step : Step} {move : Move}
    (h : plan.Accounts control step state log move) : log <:+ move.log := by
  have hannounced := plan.suffix_announced control step state log
  cases h with
  | goes next hquiet => exact hannounced.trans hquiet.suffix
  | forks split => exact hannounced
  | faults left _ hquiet => exact hannounced.trans hquiet.suffix

theorem keptByMoves_names (hr : plan.registry.Accountable) (name : String)
    (moment : Option Moment) : plan.KeptByMoves moment (Log.Names name) := by
  intro control startFrom state log _ hnames
  rcases accounts_move hr control startFrom state log with hidles | ⟨step, haccounts⟩
  · rwa [hidles.log_eq]
  · exact hnames.suffix haccounts.suffix

theorem charged_of_move_stop (hr : plan.registry.Accountable)
    (h : plan.move control startFrom state log = .stop finished) {failure : Failure}
    (hfailure : finished.result = .error failure) : failure.Charged finished.log := by
  rcases accounts_move hr control startFrom state log with hidles | ⟨step, haccounts⟩
  · rw [h] at hidles
    cases hidles with
    | ends status left => simp at hfailure
    | cancels step operation left =>
      obtain rfl := Except.error.inj hfailure
      exact .inl rfl
  · rw [h] at haccounts
    cases haccounts with
    | faults left hown hquiet =>
      obtain rfl := Except.error.inj hfailure
      have hnames := Log.names_announced plan control step state log
      exact Failure.charged_ofFault hown _ (hnames.suffix hquiet.suffix)

theorem names_of_move_fork (hr : plan.registry.Accountable) {step : Step} {split : Split}
    {log₁ : Log} (h : plan.move control startFrom state log = .fork step split log₁) :
    Log.Names step.operation log₁ := by
  rcases accounts_move hr control startFrom state log with hidles | ⟨step, haccounts⟩
  · rw [h] at hidles
    cases hidles
  · rw [h] at haccounts
    cases haccounts with
    | forks split => exact Log.names_announced plan control _ state log

/-! ## Runs -/

/-- The failure of a run is charged to a step that the run has dispatched: the step itself, or the
fork that can make no text of a branch. -/
theorem Ends.charged (h : plan.Ends control startFrom state log finished)
    (hr : plan.registry.Accountable) {failure : Failure}
    (hfailure : finished.result = .error failure) : failure.Charged finished.log := by
  induction h using Plan.Ends.induct generalizing failure with
  | stop hmove => exact charged_of_move_stop hr hmove hfailure
  | go _ _ ih => exact ih hfailure
  | @forkFails control startFrom state log step split log₁ fault log₂ hmove hbranches =>
    obtain rfl := Except.error.inj hfailure
    rcases hbranches.fault_cases (fun _ _ _ ⟨_, ih⟩ _ => ih) with ⟨hown, _⟩ | ⟨raised, rfl, hraised⟩
    · have hnames : Log.Names step.operation log₂ :=
        hbranches.log_property (fun _ _ _ ⟨hends, _⟩ =>
          hends.log_property (keptByMoves_names hr _ _)) (names_of_move_fork hr hmove)
      exact Failure.charged_ofFault hown _ hnames
    · exact hraised
  | forkJoins _ _ _ ih => exact ih hfailure

end Plan
end Kitchen
