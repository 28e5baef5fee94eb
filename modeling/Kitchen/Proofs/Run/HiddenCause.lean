import Kitchen.Proofs.Recipe.Preparation
import Kitchen.Proofs.Run.Result
import Kitchen.Proofs.Run.Stage
import Mathlib.Data.List.Forall2

/-!
# Hidden causes

Two registries whose operations differ in the causes of their defects only, or in the texts of their
crashes, bake alike: whatever the recipe, the runs make the same moves, raise the same events and come
to the same end, but for the cause that a failure keeps to itself.
-/

namespace Kitchen

/-! ## What is shown -/

/-- The failure without its hidden cause. -/
def Failure.shown (failure : Failure) : Failure := { failure with source := none }

/-- The fault without hidden causes. -/
def Fault.shown : Fault → Fault
  | .invalid message => .invalid message
  | .dish error => .dish error
  | .cancelled => .cancelled
  | .branch failure => .branch failure.shown
  | .defect _ => .defect (.of "")

/-- The end of a run without hidden causes. -/
def SectionEnd.shown (finished : SectionEnd) : SectionEnd :=
  { finished with result := finished.result.mapError Failure.shown }

/-- The results show the same. -/
def SameShown {α ε β : Type} (shown : ε → β) (result result' : Except ε α) : Prop :=
  result.mapError shown = result'.mapError shown

section SameShown

variable {α ε β : Type} {shown : ε → β}

theorem SameShown.cases {result result' : Except ε α} (h : SameShown shown result result') :
    (∃ a, result = .ok a ∧ result' = .ok a) ∨
      ∃ e e', result = .error e ∧ result' = .error e' ∧ shown e = shown e' := by
  cases result with
  | ok a =>
    cases result' with
    | ok b =>
      cases h
      exact .inl ⟨a, rfl, rfl⟩
    | error e => cases h
  | error e =>
    cases result' with
    | ok b => cases h
    | error e' => exact .inr ⟨e, e', rfl, rfl, Except.error.inj h⟩

end SameShown

theorem Failure.shown_ofFault {fault fault' : Fault} (h : fault.shown = fault'.shown) (step : Nat)
    (operation : String) :
    (Failure.ofFault step operation fault).shown = (Failure.ofFault step operation fault').shown := by
  have hshown (fault : Fault) : (Failure.ofFault step operation fault).shown =
      (Failure.ofFault step operation fault.shown).shown := by
    cases fault <;> rfl
  rw [hshown, h, ← hshown]

theorem Failure.kind_of_shown {failure failure' : Failure} (h : failure.shown = failure'.shown) :
    failure.kind = failure'.kind := by
  change failure.shown.kind = failure'.shown.kind
  rw [h]

theorem State.shown_fault {state : State} {fault fault' : Fault} (h : fault.shown = fault'.shown)
    (step : Step) (log : Log) : (state.fault step fault log).shown = (state.fault step fault' log).shown := by
  simp only [State.fault, SectionEnd.shown, mapError_error,
    Failure.shown_ofFault h state.progress step.operation]

/-! ## Operations -/

/-- The bodies differ in hidden causes only. -/
inductive FlowBody.Alike : FlowBody → FlowBody → Prop where
  | act {action action' : List Step → List Argument → State → Except Fault State} :
      (∀ steps args state,
        SameShown Fault.shown (action steps args state) (action' steps args state)) →
      Alike (.act action) (.act action')
  | fork : Alike .fork .fork

/-- The operations differ in hidden causes only: in those of their defects, and in the texts of their
crashes. -/
structure Operation.Alike (operation operation' : Operation) : Prop where
  descriptor : operation.descriptor = operation'.descriptor
  transform : ∀ context args dish log,
    SameShown (fun halt : Halt => halt.contained.shown)
        (operation.transform context args dish log).1
        (operation'.transform context args dish log).1 ∧
      (operation.transform context args dish log).2 = (operation'.transform context args dish log).2
  flow : operation.flow.Alike operation'.flow

theorem Operation.Alike.refl (operation : Operation) : operation.Alike operation where
  descriptor := rfl
  transform _ _ _ _ := ⟨rfl, rfl⟩
  flow := by
    cases operation.flow with
    | act action => exact .act fun _ _ _ => rfl
    | fork => exact .fork

theorem Operation.Alike.bake {operation operation' : Operation} (h : operation.Alike operation')
    (context : Context) (args : List Argument) (dish : Dish) (log : Log) :
    SameShown Fault.shown (operation.bake context args dish log).1
        (operation'.bake context args dish log).1 ∧
      (operation.bake context args dish log).2 = (operation'.bake context args dish log).2 := by
  unfold Operation.bake
  rw [h.descriptor]
  cases dish.convert operation'.descriptor.input with
  | error error => exact ⟨rfl, rfl⟩
  | ok input =>
    obtain ⟨hresult, hlog⟩ := h.transform context args input log
    dsimp only
    generalize operation.transform context args input log = baked at hresult hlog ⊢
    generalize operation'.transform context args input log = baked' at hresult hlog ⊢
    obtain ⟨result, last⟩ := baked
    obtain ⟨result', last'⟩ := baked'
    obtain rfl : last = last' := hlog
    rcases hresult.cases with ⟨output, rfl, rfl⟩ | ⟨halt, halt', rfl, rfl, hshown⟩
    · exact ⟨rfl, rfl⟩
    · exact ⟨congrArg Except.error hshown, rfl⟩

namespace Registry

/-- The registries have the same names, and their operations differ in hidden causes only. -/
def Alike (registry registry' : Registry) : Prop :=
  List.Forall₂ Operation.Alike registry.operations registry'.operations

variable {registry registry' : Registry}

theorem Alike.refl (registry : Registry) : registry.Alike registry :=
  List.forall₂_same.mpr fun operation _ => .refl operation

private theorem alike_insertByName {operation operation' : Operation}
    {operations operations' : List Operation} (ho : operation.Alike operation')
    (h : List.Forall₂ Operation.Alike operations operations') :
    List.Forall₂ Operation.Alike (insertByName operation operations)
      (insertByName operation' operations') := by
  have hname {a b : Operation} (h : a.Alike b) : a.name = b.name :=
    congrArg Descriptor.name h.descriptor
  induction h with
  | nil => exact .cons ho .nil
  | cons hfirst hrest ih =>
    rw [insertByName, insertByName, hname ho, hname hfirst]
    split
    · exact .cons ho hrest
    · split
      · exact .cons ho (.cons hfirst hrest)
      · exact .cons hfirst ih

theorem Alike.registerAll (h : registry.Alike registry') {operations operations' : List Operation}
    (ho : List.Forall₂ Operation.Alike operations operations') :
    (registry.registerAll operations).Alike (registry'.registerAll operations') := by
  induction ho generalizing registry registry' with
  | nil => exact h
  | cons hfirst _ ih => exact ih (alike_insertByName hfirst h)

private theorem find?_alike {operations operations' : List Operation}
    (h : List.Forall₂ Operation.Alike operations operations') (name : String) :
    (operations.find? (·.name == name) = none ∧ operations'.find? (·.name == name) = none) ∨
      ∃ operation operation', operations.find? (·.name == name) = some operation ∧
        operations'.find? (·.name == name) = some operation' ∧ operation.Alike operation' := by
  induction h with
  | nil => exact .inl ⟨rfl, rfl⟩
  | @cons operation operation' rest rest' hfirst _ ih =>
    have hname : operation.name = operation'.name := congrArg Descriptor.name hfirst.descriptor
    rw [List.find?_cons, List.find?_cons, hname]
    cases operation'.name == name with
    | true => exact .inr ⟨operation, operation', rfl, rfl, hfirst⟩
    | false => exact ih

theorem Alike.names_eq (h : registry.Alike registry') : registry.names = registry'.names := by
  obtain ⟨operations⟩ := registry
  obtain ⟨operations'⟩ := registry'
  change List.Forall₂ Operation.Alike operations operations' at h
  change operations.map Operation.name = operations'.map Operation.name
  induction h with
  | nil => rfl
  | cons hfirst _ ih =>
    rw [List.map_cons, List.map_cons, ih]
    exact congrArg (· :: _) (congrArg Descriptor.name hfirst.descriptor)

theorem Alike.operation (h : registry.Alike registry') (name : String) :
    (registry.operation name).Alike (registry'.operation name) := by
  unfold Registry.operation get?
  rcases find?_alike h name with ⟨hnone, hnone'⟩ | ⟨operation, operation', hsome, hsome', halike⟩
  · rw [hnone, hnone']
    exact .refl _
  · rw [hsome, hsome']
    exact halike

theorem Alike.prepareStep_eq (h : registry.Alike registry') (i : Nat) (step : RecipeStep) :
    registry'.prepareStep i step = registry.prepareStep i step := by
  unfold prepareStep resolve unknownMessage get?
  rw [h.names_eq]
  rcases find?_alike h step.operation with ⟨hnone, hnone'⟩ |
    ⟨operation, operation', hsome, hsome', halike⟩
  · rw [hnone, hnone']
  · rw [hsome, hsome']
    dsimp only
    rw [halike.descriptor]

theorem Alike.prepareSteps_eq (h : registry.Alike registry') (i : Nat) (steps : List RecipeStep) :
    registry'.prepareSteps i steps = registry.prepareSteps i steps := by
  induction steps generalizing i with
  | nil => rfl
  | cons step steps ih => rw [prepareSteps, prepareSteps, h.prepareStep_eq, ih]

/-- A recipe fits both registries or neither. -/
theorem Alike.prepare_eq (h : registry.Alike registry') (recipe : Recipe) :
    registry'.prepare recipe =
      (registry.prepare recipe).map fun plan => { plan with registry := registry' } := by
  unfold prepare
  rw [h.prepareSteps_eq]
  split
  · rfl
  · cases registry.prepareSteps 0 recipe.steps <;> rfl

end Registry

/-! ## Runs -/

/-- The moves differ in hidden causes only. -/
inductive Move.Alike : Move → Move → Prop where
  | stop {finished finished' : SectionEnd} : finished.shown = finished'.shown →
      Alike (.stop finished) (.stop finished')
  | go (state : State) (log : Log) : Alike (.go state log) (.go state log)
  | fork (step : Step) (split : Split) (log : Log) : Alike (.fork step split log) (.fork step split log)

/-- The plans are of the same steps, from registries that differ in hidden causes only. -/
structure Plan.Alike (plan plan' : Plan) : Prop where
  registry : plan.registry.Alike plan'.registry
  steps : plan.steps = plan'.steps
  options : plan.options = plan'.options

namespace Plan

variable {plan plan' : Plan}

theorem Alike.dispatch (h : plan.Alike plan') (control : Control) (step : Step) (state : State)
    (log : Log) : (plan.dispatch control step state log).Alike
      (plan'.dispatch control step state log) := by
  have halike := h.registry.operation step.operation
  have hannounced : plan.announced control step state log = plan'.announced control step state log := by
    rw [announced, announced, h.steps]
  have hflow := halike.flow
  cases hf : (plan.registry.operation step.operation).descriptor.flowControl with
  | false =>
    have hf' := halike.descriptor ▸ hf
    rw [dispatch_transform control state log hf, dispatch_transform control state log hf',
      ← hannounced]
    obtain ⟨hresult, hlog⟩ := halike.bake (context control step state) (state.argsFor step)
      state.dish (plan.announced control step state log)
    generalize Operation.bake _ _ _ _ _ = baked at hresult hlog ⊢
    generalize Operation.bake _ _ _ _ _ = baked' at hresult hlog ⊢
    obtain ⟨result, last⟩ := baked
    obtain ⟨result', last'⟩ := baked'
    obtain rfl : last = last' := hlog
    -- The results are the same dish, or faults that show the same.
    rcases hresult.cases with ⟨dish, rfl, rfl⟩ | ⟨fault, fault', rfl, rfl, hshown⟩
    · exact .go _ _
    · exact .stop (State.shown_fault hshown step last)
  | true =>
    have hf' := halike.descriptor ▸ hf
    generalize ha : (plan.registry.operation step.operation).flow = body at hflow
    generalize ha' : (plan'.registry.operation step.operation).flow = body' at hflow
    cases hflow with
    | fork =>
      rw [dispatch_fork control state log hf ha, dispatch_fork control state log hf' ha', ← hannounced]
      cases state.forkParts (state.argsFor step) with
      | error fault => exact .stop rfl
      | ok parts => exact .fork _ _ _
    | act hact =>
      rw [dispatch_act control state log hf ha, dispatch_act control state log hf' ha', ← hannounced,
        ← h.steps]
      rcases (hact plan.steps (state.argsFor step) (state.inPhase .branching)).cases with
        ⟨steered, hok, hok'⟩ | ⟨fault, fault', herror, herror', hshown⟩
      · rw [hok, hok']
        exact .go _ _
      · rw [herror, herror']
        exact .stop (State.shown_fault hshown step _)

theorem Alike.move (h : plan.Alike plan') (control : Control) (startFrom : Nat) (state : State)
    (log : Log) :
    (plan.move control startFrom state log).Alike (plan'.move control startFrom state log) := by
  rw [Plan.move, Plan.move, h.steps]
  cases state.turn plan'.steps control startFrom log with
  | finish => exact .stop rfl
  | cancel step => exact .stop rfl
  | skip => exact .go _ _
  | pause => exact .stop rfl
  | dispatch step => exact h.dispatch control step state log

/-- Two runs that show the same have both run out of turns, or come to ends that show the same. -/
def ShowSame (last? last?' : Option SectionEnd) : Prop :=
  last?.map SectionEnd.shown = last?'.map SectionEnd.shown

theorem ShowSame.cases {last? last?' : Option SectionEnd} (h : ShowSame last? last?') :
    (last? = none ∧ last?' = none) ∨ ∃ result result' state log, last? = some ⟨result, state, log⟩ ∧
      last?' = some ⟨result', state, log⟩ ∧ SameShown Failure.shown result result' := by
  cases last? with
  | none => exact .inl ⟨rfl, by simpa [ShowSame] using h.symm⟩
  | some finished =>
    cases last?' with
    | none => simp [ShowSame] at h
    | some finished' =>
      have hshown : finished.shown = finished'.shown := by simpa [ShowSame] using h
      obtain ⟨result, state, log⟩ := finished
      obtain ⟨result', state', log'⟩ := finished'
      obtain ⟨hresult, rfl, rfl⟩ := SectionEnd.mk.inj hshown
      exact .inr ⟨result, result', state, log, rfl, rfl, hresult⟩

/-- What the branches of a fork come to, without hidden causes. -/
private def shownOutputs (outputs : Except Fault (List String) × Log) :
    Except Fault (List String) × Log := (outputs.1.mapError Fault.shown, outputs.2)

private theorem map_shownOutputs (outputs? : Option (Except Fault (List String) × Log))
    (f : List String → List String) :
    (outputs?.map fun (result, log) => (result.map f, log)).map shownOutputs =
      (outputs?.map shownOutputs).map fun (result, log) => (result.map f, log) := by
  rcases outputs? with _ | ⟨_ | outputs, log⟩ <;> rfl

/-- Branches whose runs show the same show the same. -/
private theorem bakePieces_alike {run run' : State → Log → Option SectionEnd}
    (hrun : ∀ state log, ShowSame (run state log) (run' state log)) (control : Control)
    (ignoreErrors : Bool) (branch : String → State) (pieces : List String) (log : Log) :
    (bakePieces run control ignoreErrors branch pieces log).map shownOutputs =
      (bakePieces run' control ignoreErrors branch pieces log).map shownOutputs := by
  induction pieces generalizing log with
  | nil => rfl
  | cons piece rest ih =>
    rw [bakePieces, bakePieces]
    split
    · rfl
    · rcases (hrun (branch piece) log).cases with ⟨hnone, hnone'⟩ |
        ⟨result, result', baked, last, hend, hend', hshown⟩
      · rw [hnone, hnone']
      · rw [hend, hend']
        rcases hshown.cases with ⟨status, rfl, rfl⟩ | ⟨failure, failure', rfl, rfl, hfailure⟩
        · dsimp only
          cases Flow.branchOutput baked.dish with
          | error fault => rfl
          | ok output => rw [map_shownOutputs, map_shownOutputs, ih last]
        · dsimp only
          rw [Failure.kind_of_shown hfailure]
          split
          · exact ih last
          · exact congrArg (fun failure => some (Except.error (Fault.branch failure), last)) hfailure

/-- Runs of plans that differ in hidden causes only show the same. -/
theorem Alike.runFrom (h : plan.Alike plan') (fuel : Nat) (control : Control) (startFrom : Nat)
    (state : State) (log : Log) :
    ShowSame (plan.runFrom fuel control startFrom state log)
      (plan'.runFrom fuel control startFrom state log) := by
  induction fuel generalizing control startFrom state log with
  | zero => rfl
  | succ fuel ih =>
    rw [runFrom_succ, runFrom_succ]
    have hmove := h.move control startFrom state log
    generalize plan.move control startFrom state log = move at hmove ⊢
    generalize plan'.move control startFrom state log = move' at hmove ⊢
    cases hmove with
    | stop hshown => exact congrArg some hshown
    | go next log => exact ih control startFrom next log
    | fork step split log =>
      dsimp only
      rw [← h.steps]
      have hbranches := bakePieces_alike (fun branch log =>
        ih control.forBranch (branch.startFrom control.forBranch) (branch.inPhase .running) log)
        control split.ignoreErrors (state.branchOn plan.steps) split.pieces log
      change (bakePieces (plan.runSection fuel control.forBranch) _ _ _ _ _).map _ =
        (bakePieces (plan'.runSection fuel control.forBranch) _ _ _ _ _).map _ at hbranches
      generalize bakePieces _ _ _ _ _ _ = baked at hbranches ⊢
      generalize bakePieces _ _ _ _ _ _ = baked' at hbranches ⊢
      -- Forks of alike branches end both or neither, and before the same events.
      rcases baked with _ | ⟨result, last⟩ <;> rcases baked' with _ | ⟨result', last'⟩
      · rfl
      · cases hbranches
      · cases hbranches
      · obtain ⟨hresult, rfl⟩ := Prod.mk.inj (Option.some.inj hbranches)
        have hsame : SameShown Fault.shown result result' := hresult
        rcases hsame.cases with ⟨outputs, rfl, rfl⟩ | ⟨fault, fault', rfl, rfl, hshown⟩
        · change ShowSame
            (plan.runFrom fuel control startFrom (state.joined plan.steps split outputs) last)
            (plan'.runFrom fuel control startFrom (state.joined plan'.steps split outputs) last)
          rw [← h.steps]
          exact ih control startFrom _ last
        · exact congrArg some (State.shown_fault hshown step last)

end Plan

/-! ## Bakes -/

/-- Ends that show the same come to results that show the same. -/
theorem SectionEnd.toResult_alike {result result' : Except Failure Status} {state : State} {log : Log}
    (h : SameShown Failure.shown result result') (options : Options) :
    SameShown Failure.shown ((SectionEnd.mk result state log).toResult options)
      ((SectionEnd.mk result' state log).toResult options) := by
  rcases h.cases with ⟨status, rfl, rfl⟩ | ⟨failure, failure', rfl, rfl, hshown⟩
  · rfl
  · obtain ⟨step, operation, kind, message, dish, source⟩ := failure
    obtain ⟨step', operation', kind', message', dish', source'⟩ := failure'
    obtain ⟨rfl, rfl, rfl, rfl, rfl, _⟩ := Failure.mk.inj hshown
    change Except.error _ = Except.error _
    refine congrArg Except.error ?_
    unfold Failure.ofBake
    dsimp only
    split <;> rfl

/-- A bake from a registry that differs in hidden causes only comes to a result that shows the same,
with the same events. -/
theorem Registry.Alike.exists_attempts {registry registry' : Registry} (h : registry.Alike registry')
    {recipe : Recipe} {input : Dish} {control : Control} {attempt : Attempt}
    (hattempt : registry.Attempts recipe input control attempt) :
    ∃ attempt', registry'.Attempts recipe input control attempt' ∧
      SameShown Failure.shown attempt.result attempt'.result ∧ attempt'.log = attempt.log ∧
      attempt'.counted = attempt.counted := by
  have hprepare := h.prepare_eq recipe
  cases hp : registry.prepare recipe with
  | error failure =>
    rw [hp] at hprepare
    obtain rfl := (attempts_iff_of_error hp).mp hattempt
    exact ⟨_, (attempts_iff_of_error hprepare).mpr rfl, rfl, rfl, rfl⟩
  | ok plan =>
    rw [hp] at hprepare
    obtain ⟨finished, ⟨fuel, hends⟩, rfl⟩ := (attempts_iff hp).mp hattempt
    have halike : plan.Alike { plan with registry := registry' } :=
      ⟨(prepare_eq_ok hp).2.1 ▸ h, rfl, rfl⟩
    rcases (halike.runFrom fuel _ _ _ _).cases with ⟨hnone, _⟩ |
      ⟨result, result', state, log, hsome, hsome', hshown⟩
    · rw [hends] at hnone
      cases hnone
    · obtain rfl := Option.some.inj (hends.symm.trans hsome)
      exact ⟨_, (attempts_iff hprepare).mpr ⟨_, ⟨fuel, hsome'⟩, rfl⟩,
        SectionEnd.toResult_alike hshown plan.options, rfl, rfl⟩

end Kitchen
