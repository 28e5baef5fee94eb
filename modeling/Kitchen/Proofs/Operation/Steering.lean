import Kitchen.Proofs.Operation.Steady

/-!
# Steering

What the built-in flow-control operations do to the state of a bake. But for forks each of them acts
in one of five ways, and all that such an action can do to the state is said here once.
-/

namespace Kitchen

/-- A change of the state by a flow-control step, in view of the steps and the arguments. -/
abbrev FlowAction := List Step → List Argument → State → Except Fault State

namespace Flow

/-- The action of a marker. -/
def stay : FlowAction := fun _ _ state => .ok state

/-- The action of a jump without a condition. -/
def jumpAction : FlowAction := fun steps args state =>
  .ok (jumpTo steps (textAt args 0) (maxJumpsAt args 1) state)

/-- The actions of the built-in operations. -/
inductive IsAction : FlowAction → Prop where
  | stay : IsAction stay
  | jump : IsAction jumpAction
  | conditionalJump : IsAction conditionalJumpAction
  | register : IsAction registerAction
  | leave : IsAction returnAction

theorem mem_operations_cases {operation : Operation} (h : operation ∈ operations) :
    operation.descriptor.flowControl = true ∧
      (operation = fork ∨ ∃ action, operation.flow = .act action ∧ IsAction action) := by
  simp only [operations, List.mem_cons, List.not_mem_nil, or_false] at h
  rcases h with rfl | rfl | rfl | rfl | rfl | rfl | rfl | rfl
  · exact ⟨rfl, .inr ⟨_, rfl, .stay⟩⟩
  · exact ⟨rfl, .inr ⟨_, rfl, .stay⟩⟩
  · exact ⟨rfl, .inr ⟨_, rfl, .stay⟩⟩
  · exact ⟨rfl, .inr ⟨_, rfl, .jump⟩⟩
  · exact ⟨rfl, .inr ⟨_, rfl, .conditionalJump⟩⟩
  · exact ⟨rfl, .inr ⟨_, rfl, .register⟩⟩
  · exact ⟨rfl, .inl rfl⟩
  · exact ⟨rfl, .inr ⟨_, rfl, .leave⟩⟩

private theorem plainFaults_text (state : State) : PlainFaults state.text := by
  unfold State.text
  split <;> simp

private theorem plainFaults_compile (flags : Regex.Flags) (pattern : String) :
    PlainFaults (compile flags pattern) :=
  plainFaults_mapError (fun _ => Fault.isPlain_invalid _) _

/-- The faults of an action are plain. -/
theorem IsAction.plainFaults {action : FlowAction} (h : IsAction action) (steps : List Step)
    (args : List Argument) (state : State) : PlainFaults (action steps args state) := by
  cases h with
  | stay => exact plainFaults_ok _
  | jump => exact plainFaults_ok _
  | conditionalJump =>
    unfold conditionalJumpAction
    dsimp only
    split
    · exact plainFaults_pure _
    · refine (plainFaults_text state).bind fun text => ?_
      refine (plainFaults_compile _ _).bind fun matcher => ?_
      split <;> exact plainFaults_pure _
  | register =>
    unfold registerAction
    refine (plainFaults_compile _ _).bind fun matcher => ?_
    refine (plainFaults_text state).bind fun text => ?_
    split <;> exact plainFaults_pure _
  | leave => exact plainFaults_ok _

/-! ## What actions change -/

private theorem exists_of_bind_eq_ok {α β : Type} {result : Except Fault α}
    {f : α → Except Fault β} {b : β} (h : result >>= f = .ok b) :
    ∃ a, result = .ok a ∧ f a = .ok b := by
  cases result with
  | error fault => simp [Bind.bind, Except.bind] at h
  | ok a => exact ⟨a, rfl, h⟩

theorem conditionalJumpAction_cases {steps : List Step} {args : List Argument}
    {state next : State} (h : conditionalJumpAction steps args state = .ok next) :
    next = fallThrough state ∨ next = jumpTo steps (textAt args 2) (maxJumpsAt args 3) state := by
  unfold conditionalJumpAction at h
  dsimp only at h
  split at h
  · exact .inl (Except.ok.inj h).symm
  · obtain ⟨text, _, h⟩ := exists_of_bind_eq_ok h
    obtain ⟨matcher, _, h⟩ := exists_of_bind_eq_ok h
    split at h
    · exact .inr (Except.ok.inj h).symm
    · exact .inl (Except.ok.inj h).symm

theorem registerAction_cases {steps : List Step} {args : List Argument} {state next : State}
    (h : registerAction steps args state = .ok next) :
    ∃ registers, next = { state with registers } := by
  unfold registerAction at h
  obtain ⟨matcher, _, h⟩ := exists_of_bind_eq_ok h
  obtain ⟨text, _, h⟩ := exists_of_bind_eq_ok h
  split at h
  · exact ⟨state.registers, (Except.ok.inj h).symm⟩
  · exact ⟨_, (Except.ok.inj h).symm⟩

/-- The place of the name of a label among the arguments of a jump. -/
def labelPosition? (operation : String) : Option Nat :=
  if operation = jump.name then some 0
  else if operation = conditionalJump.name then some 2
  else none

/-- What a step does to the cursor and to the count of jumps, where `label` is the name of the label
that it may jump to. -/
inductive Effect (steps : List Step) (state : State) (label : Option String) : State → Prop where
  /-- The cursor does not go back, and the count stays. -/
  | onward {next : State} : label = none → state.progress ≤ next.progress →
      next.progress ≤ max (state.scopeEnd - 1) state.progress →
      next.jumpsTaken = state.jumpsTaken → next.scopeStart = state.scopeStart →
      next.scopeEnd = state.scopeEnd → Effect steps state label next
  /-- A jump is not taken. -/
  | fallsThrough {name : String} : label = some name → Effect steps state label (fallThrough state)
  /-- A jump is taken and counted. -/
  | jumpsTo {name : String} {target maxJumps : Nat} : label = some name →
      state.findLabel? steps name = some target →
      state.jumpsTaken < maxJumps → maxJumps ≤ twoTo 32 - 1 →
      Effect steps state label
        { state with progress := target, jumpsTaken := state.jumpsTaken + 1 }

private theorem maxJumpsAt_le (args : List Argument) (i : Nat) : maxJumpsAt args i ≤ twoTo 32 - 1 := by
  unfold maxJumpsAt
  split
  · unfold Binary64.toNatClamped
    split
    · exact Nat.zero_le _
    · split <;> simp
    · split
      · exact Nat.zero_le _
      · exact Nat.min_le_right _ _
  · decide

private theorem jumpTo_effect {label : Option String} {name : String} (h : label = some name)
    (steps : List Step) (args : List Argument) (i : Nat) (state : State) :
    Effect steps state label (jumpTo steps name (maxJumpsAt args i) state) := by
  unfold jumpTo
  split
  · rename_i target hl
    split
    · exact .jumpsTo h hl ‹_› (maxJumpsAt_le args i)
    · exact .fallsThrough h
  · exact .fallsThrough h

/-- An operation that acts on the state has one of three effects. -/
theorem effect_of_mem {operation : Operation} (h : operation ∈ operations) {action : FlowAction}
    (ha : operation.flow = .act action) {steps : List Step} {args : List Argument}
    {state next : State} (hn : action steps args state = .ok next) :
    Effect steps state ((labelPosition? operation.name).map (textAt args)) next := by
  have stays {name : String} (hname : labelPosition? name = none)
      (hstay : stay steps args state = .ok next) :
      Effect steps state ((labelPosition? name).map (textAt args)) next := by
    obtain rfl := Except.ok.inj hstay
    exact .onward (by rw [hname]; rfl) (Nat.le_refl _) (Nat.le_max_right _ _) rfl rfl rfl
  simp only [operations, List.mem_cons, List.not_mem_nil, or_false] at h
  rcases h with rfl | rfl | rfl | rfl | rfl | rfl | rfl | rfl
  · obtain rfl := FlowBody.act.inj ha
    exact stays (by decide) hn
  · obtain rfl := FlowBody.act.inj ha
    exact stays (by decide) hn
  · obtain rfl := FlowBody.act.inj ha
    exact stays (by decide) hn
  · obtain rfl := FlowBody.act.inj ha
    obtain rfl := Except.ok.inj hn
    have hlabel : labelPosition? jump.name = some 0 := by decide
    rw [hlabel]
    exact jumpTo_effect rfl steps args 1 state
  · obtain rfl := FlowBody.act.inj ha
    have hlabel : labelPosition? conditionalJump.name = some 2 := by decide
    rw [hlabel]
    rcases conditionalJumpAction_cases hn with rfl | rfl
    · exact .fallsThrough rfl
    · exact jumpTo_effect rfl steps args 3 state
  · obtain rfl := FlowBody.act.inj ha
    obtain ⟨registers, rfl⟩ := registerAction_cases hn
    have hlabel : labelPosition? register.name = none := by decide
    exact .onward (by rw [hlabel]; rfl) (Nat.le_refl _) (Nat.le_max_right _ _) rfl rfl rfl
  · simp [fork, Operation.ofFlow] at ha
  · obtain rfl := FlowBody.act.inj ha
    obtain rfl := Except.ok.inj hn
    have hlabel : labelPosition? leave.name = none := by decide
    exact .onward (by rw [hlabel]; rfl) (Nat.le_max_right _ _) (Nat.le_refl _) rfl rfl rfl

/-! ## Forks -/

/-- A fork that does not come to its branches fails by a plain fault. -/
theorem plainFaults_forkParts (state : State) (args : List Argument) :
    PlainFaults (state.forkParts args) := by
  have hd (text : String) : PlainFaults (delimiterOf text) :=
    plainFaults_mapError (fun _ => Fault.isPlain_invalid _) _
  refine (hd _).bind fun split => (hd _).bind fun join => ?_
  exact (plainFaults_text state).bind fun text => plainFaults_pure _

theorem plainFaults_branchOutput (dish : Dish) : PlainFaults (branchOutput dish) := by
  unfold branchOutput
  split
  · exact plainFaults_ok _
  · split
    · exact plainFaults_mapError Fault.isPlain_dish _
    · exact plainFaults_error.mpr (Fault.isPlain_dish _)

end Flow

/-- The operation of a name in the built-in registry is a fork, acts on the state, or is a steady
transformation. -/
theorem Registry.builtIn_cases (name : String) :
    builtIn.operation name = Flow.fork ∨
      ((builtIn.operation name).descriptor.flowControl = true ∧
        ∃ action, (builtIn.operation name).flow = .act action ∧ Flow.IsAction action) ∨
      ((builtIn.operation name).descriptor.flowControl = false ∧
        (builtIn.operation name).Steady) := by
  rcases operation_builtIn name with ⟨hmem, _⟩ | hnone
  · rcases mem_builtIn_cases hmem with hflow | hsteady
    · obtain ⟨hf, hfork | hact⟩ := Flow.mem_operations_cases hflow
      · exact .inl hfork
      · exact .inr (.inl ⟨hf, hact⟩)
    · exact .inr (.inr hsteady)
  · rw [hnone]
    exact .inr (.inr ⟨rfl, steady_bodiless name⟩)

/-- A step that acts on the state has one of three effects. -/
theorem Registry.effect_builtIn {name : String} {action : FlowAction}
    (hf : (builtIn.operation name).descriptor.flowControl = true)
    (ha : (builtIn.operation name).flow = .act action) {steps : List Step} {args : List Argument}
    {state next : State} (hn : action steps args state = .ok next) :
    Flow.Effect steps state ((Flow.labelPosition? name).map (textAt args)) next := by
  rcases operation_builtIn name with ⟨hmem, hname⟩ | hnone
  · rcases mem_builtIn_cases hmem with hflow | ⟨hnoFlow, _⟩
    · have heffect := Flow.effect_of_mem hflow ha hn
      rwa [hname] at heffect
    · rw [hf] at hnoFlow
      exact absurd hnoFlow (by simp)
  · rw [hnone] at hf
    exact absurd hf (by simp [bodiless, Operation.ofTransform, Descriptor.plain])

end Kitchen
