import Kitchen.Proofs.Run.Move

/-!
# Ends of runs

A run ends if some number of turns suffices for it. More turns change nothing then, so the end is
unique, and it is reached by moves and by forks whose branches end in the same sense. The induction
principle for ends follows that structure and reaches into the branches.
-/

namespace Kitchen

/-! ## Branches -/

/-- What the branches on some pieces come to, one after another, where `run` says how a branch
ends. -/
inductive Branches (run : State → Log → SectionEnd → Prop) (control : Control)
    (ignoreErrors : Bool) (branch : String → State) :
    List String → Log → Except Fault (List String) → Log → Prop where
  | nil (log : Log) : Branches run control ignoreErrors branch [] log (.ok []) log
  | cancelled {piece : String} {rest : List String} {log : Log} :
      control.isCancelled log = true →
      Branches run control ignoreErrors branch (piece :: rest) log (.error .cancelled) log
  | text {piece : String} {rest : List String} {log next last : Log} {status : Status}
      {baked : State} {output : String} {result : Except Fault (List String)} :
      control.isCancelled log = false → run (branch piece) log ⟨.ok status, baked, next⟩ →
      Flow.branchOutput baked.dish = .ok output →
      Branches run control ignoreErrors branch rest next result last →
      Branches run control ignoreErrors branch (piece :: rest) log (result.map (output :: ·)) last
  | noText {piece : String} {rest : List String} {log next : Log} {status : Status}
      {baked : State} {fault : Fault} :
      control.isCancelled log = false → run (branch piece) log ⟨.ok status, baked, next⟩ →
      Flow.branchOutput baked.dish = .error fault →
      Branches run control ignoreErrors branch (piece :: rest) log (.error fault) next
  | skipped {piece : String} {rest : List String} {log next last : Log} {failure : Failure}
      {left : State} {result : Except Fault (List String)} :
      control.isCancelled log = false → run (branch piece) log ⟨.error failure, left, next⟩ →
      (ignoreErrors && failure.kind != .cancelled) = true →
      Branches run control ignoreErrors branch rest next result last →
      Branches run control ignoreErrors branch (piece :: rest) log result last
  | failed {piece : String} {rest : List String} {log next : Log} {failure : Failure}
      {left : State} :
      control.isCancelled log = false → run (branch piece) log ⟨.error failure, left, next⟩ →
      (ignoreErrors && failure.kind != .cancelled) = false →
      Branches run control ignoreErrors branch (piece :: rest) log (.error (.branch failure)) next

section Branches

variable {control : Control} {ignoreErrors : Bool} {branch : String → State}
  {pieces : List String} {log last : Log} {result : Except Fault (List String)}

theorem Branches.mono {run run' : State → Log → SectionEnd → Prop}
    (h : Branches run control ignoreErrors branch pieces log result last)
    (hrun : ∀ piece log finished, run (branch piece) log finished →
      run' (branch piece) log finished) :
    Branches run' control ignoreErrors branch pieces log result last := by
  induction h with
  | nil log => exact .nil log
  | cancelled hc => exact .cancelled hc
  | text hc hr ho _ ih => exact .text hc (hrun _ _ _ hr) ho ih
  | noText hc hr ho => exact .noText hc (hrun _ _ _ hr) ho
  | skipped hc hr hi _ ih => exact .skipped hc (hrun _ _ _ hr) hi ih
  | failed hc hr hi => exact .failed hc (hrun _ _ _ hr) hi

/-- Behind pieces that have been passed a fork goes on with the others. -/
theorem Branches.append {run : State → Log → SectionEnd → Prop} {before after : List String}
    {outputs : List String} {next : Log}
    (h : Branches run control ignoreErrors branch before log (.ok outputs) next)
    (h' : Branches run control ignoreErrors branch after next result last) :
    Branches run control ignoreErrors branch (before ++ after) log (result.map (outputs ++ ·))
      last := by
  generalize hpassed : (Except.ok outputs : Except Fault (List String)) = passed at h
  induction h generalizing outputs with
  | nil log =>
    obtain rfl := Except.ok.inj hpassed
    have hmap : result.map (([] : List String) ++ ·) = result := by cases result <;> rfl
    rwa [hmap]
  | cancelled => simp at hpassed
  | noText => simp at hpassed
  | failed => simp at hpassed
  | @text piece rest log next last status baked output passed hc hr ho _ ih =>
    cases passed with
    | error fault => simp [Except.map] at hpassed
    | ok others =>
      obtain rfl := Except.ok.inj hpassed
      have htext := Branches.text hc hr ho (ih h' rfl)
      have hmap : (result.map (others ++ ·)).map (output :: ·) =
          result.map (output :: others ++ ·) := by cases result <;> rfl
      rwa [hmap] at htext
  | skipped hc hr hi _ ih => exact .skipped hc hr hi (ih h' hpassed)

/-- A fork that ends on some pieces ends so whatever pieces come behind them. -/
theorem Branches.append_of_error {run : State → Log → SectionEnd → Prop} {before : List String}
    {fault : Fault} (h : Branches run control ignoreErrors branch before log (.error fault) last)
    (after : List String) :
    Branches run control ignoreErrors branch (before ++ after) log (.error fault) last := by
  generalize hended : (Except.error fault : Except Fault (List String)) = ended at h ⊢
  induction h with
  | nil log => simp at hended
  | cancelled hc => exact .cancelled hc
  | @text piece rest log next last status baked output ended hc hr ho _ ih =>
    cases ended with
    | error other =>
      obtain rfl : fault = other := by simpa [Except.map] using hended
      exact .text hc hr ho (ih rfl)
    | ok outputs => simp [Except.map] at hended
  | noText hc hr ho => exact .noText hc hr ho
  | skipped hc hr hi _ ih => exact .skipped hc hr hi (ih hended)
  | failed hc hr hi => exact .failed hc hr hi

/-- Where `run` is a function, the relation is the graph of `bakePieces`. -/
theorem branches_iff {run : State → Log → Option SectionEnd} :
    Branches (fun state log finished => run state log = some finished) control ignoreErrors branch
        pieces log result last ↔
      bakePieces run control ignoreErrors branch pieces log = some (result, last) := by
  constructor
  · intro h
    induction h with
    | nil log => rfl
    | cancelled hc => simp [bakePieces, hc]
    | text hc hr ho _ ih => simp [bakePieces, hc, hr, ho, ih]
    | noText hc hr ho => simp [bakePieces, hc, hr, ho]
    | skipped hc hr hi _ ih =>
      simp only [bakePieces, hc, Bool.false_eq_true, if_false, hr, hi, if_true, ih]
    | failed hc hr hi => simp only [bakePieces, hc, Bool.false_eq_true, if_false, hr, hi]
  · intro h
    induction pieces generalizing log result with
    | nil =>
      obtain ⟨rfl, rfl⟩ : .ok [] = result ∧ log = last := by simpa [bakePieces] using h
      exact .nil log
    | cons piece rest ih =>
      simp only [bakePieces] at h
      by_cases hc : control.isCancelled log = true
      · rw [if_pos hc] at h
        obtain ⟨rfl, rfl⟩ : .error .cancelled = result ∧ log = last := by simpa using h
        exact .cancelled hc
      · rw [if_neg hc] at h
        replace hc := Bool.eq_false_iff.mpr hc
        cases hr : run (branch piece) log with
        | none => rw [hr] at h; simp at h
        | some finished =>
          rw [hr] at h
          obtain ⟨failure | status, baked, next⟩ := finished
          · dsimp only at h
            by_cases hi : (ignoreErrors && failure.kind != .cancelled) = true
            · rw [if_pos hi] at h
              exact .skipped hc hr hi (ih h)
            · rw [if_neg hi] at h
              obtain ⟨rfl, rfl⟩ : .error (.branch failure) = result ∧ next = last := by
                simpa using h
              exact .failed hc hr (Bool.eq_false_iff.mpr hi)
          · cases ho : Flow.branchOutput baked.dish with
            | error fault =>
              simp only [ho] at h
              obtain ⟨rfl, rfl⟩ : .error fault = result ∧ next = last := by simpa using h
              exact .noText hc hr ho
            | ok output =>
              simp only [ho, Option.map_eq_some_iff] at h
              obtain ⟨⟨tail, log'⟩, ht, heq⟩ := h
              obtain ⟨rfl, rfl⟩ : tail.map (output :: ·) = result ∧ log' = last := by
                simpa using heq
              exact .text hc hr ho (ih ht)

theorem bakePieces_mono {run run' : State → Log → Option SectionEnd}
    (hrun : ∀ state log finished, run state log = some finished → run' state log = some finished)
    (h : bakePieces run control ignoreErrors branch pieces log = some (result, last)) :
    bakePieces run' control ignoreErrors branch pieces log = some (result, last) :=
  branches_iff.mp ((branches_iff.mpr h).mono fun _ => hrun _)

/-- Finitely many branches that each end within some bound end within a common one. -/
theorem Branches.exists_bound {run : Nat → State → Log → Option SectionEnd}
    (hmono : ∀ {n m}, n ≤ m → ∀ state log finished,
      run n state log = some finished → run m state log = some finished)
    (h : Branches (fun state log finished => ∃ n, run n state log = some finished) control
      ignoreErrors branch pieces log result last) :
    ∃ n, Branches (fun state log finished => run n state log = some finished) control ignoreErrors
      branch pieces log result last := by
  induction h with
  | nil log => exact ⟨0, .nil log⟩
  | cancelled hc => exact ⟨0, .cancelled hc⟩
  | text hc hr ho _ ih =>
    obtain ⟨n, hn⟩ := hr
    obtain ⟨m, hm⟩ := ih
    exact ⟨max n m, .text hc (hmono (Nat.le_max_left n m) _ _ _ hn) ho
      (hm.mono fun _ => hmono (Nat.le_max_right n m) _)⟩
  | noText hc hr ho =>
    obtain ⟨n, hn⟩ := hr
    exact ⟨n, .noText hc hn ho⟩
  | skipped hc hr hi _ ih =>
    obtain ⟨n, hn⟩ := hr
    obtain ⟨m, hm⟩ := ih
    exact ⟨max n m, .skipped hc (hmono (Nat.le_max_left n m) _ _ _ hn) hi
      (hm.mono fun _ => hmono (Nat.le_max_right n m) _)⟩
  | failed hc hr hi =>
    obtain ⟨n, hn⟩ := hr
    exact ⟨n, .failed hc hn hi⟩

end Branches

/-! ## Ends -/

namespace Plan

/-- The run from a state ends. -/
def Ends (plan : Plan) (control : Control) (startFrom : Nat) (state : State) (log : Log)
    (finished : SectionEnd) : Prop :=
  ∃ fuel, plan.runFrom fuel control startFrom state log = some finished

/-- The run of the scope of a state from its cursor ends. -/
def SectionEnds (plan : Plan) (control : Control) (state : State) (log : Log)
    (finished : SectionEnd) : Prop :=
  plan.Ends control (state.startFrom control) (state.inPhase .running) log finished

/-- The branches of a fork at the cursor. -/
abbrev ForkEnds (plan : Plan) (control : Control) (state : State) (split : Split) (log : Log)
    (result : Except Fault (List String)) (last : Log) : Prop :=
  Branches (plan.SectionEnds control.forBranch) control split.ignoreErrors
    (state.branchOn plan.steps) split.pieces log result last

theorem sectionEnds_iff {plan : Plan} {control : Control} {state : State} {log : Log}
    {finished : SectionEnd} : plan.SectionEnds control state log finished ↔
      ∃ fuel, plan.runSection fuel control state log = some finished := Iff.rfl

variable {plan : Plan} {control : Control} {startFrom : Nat} {state next : State}
  {log log₁ log₂ : Log} {step : Step} {split : Split} {fault : Fault} {outputs : List String}
  {finished : SectionEnd}

/-- More turns than suffice change nothing. -/
theorem runFrom_mono (plan : Plan) {fuel fuel' : Nat} (hle : fuel ≤ fuel') {control : Control}
    {startFrom : Nat} {state : State} {log : Log} {finished : SectionEnd}
    (h : plan.runFrom fuel control startFrom state log = some finished) :
    plan.runFrom fuel' control startFrom state log = some finished := by
  induction fuel generalizing fuel' control startFrom state log finished with
  | zero => simp [runFrom] at h
  | succ fuel ih =>
    obtain ⟨fuel', rfl⟩ : ∃ n, fuel' = n + 1 := ⟨fuel' - 1, by omega⟩
    have hle' : fuel ≤ fuel' := Nat.le_of_succ_le_succ hle
    rw [runFrom_succ] at h ⊢
    revert h
    cases plan.move control startFrom state log with
    | stop finished => exact id
    | go next log => exact ih hle'
    | fork step split log =>
      intro h
      obtain ⟨⟨result, log⟩, hbaked, hafter⟩ := Option.bind_eq_some_iff.mp h
      refine Option.bind_eq_some_iff.mpr ⟨(result, log), ?_, ?_⟩
      · exact bakePieces_mono (fun _ _ _ hr => ih hle' hr) hbaked
      · cases result with
        | error fault => exact hafter
        | ok outputs => exact ih hle' hafter

/-- A run that has ended took a turn. -/
theorem exists_of_runFrom_eq_some {fuel : Nat}
    (h : plan.runFrom fuel control startFrom state log = some finished) : ∃ left, fuel = left + 1 := by
  cases fuel with
  | zero => simp [runFrom] at h
  | succ left => exact ⟨left, rfl⟩

/-- A run has one end. -/
theorem Ends.unique {other : SectionEnd} (h : plan.Ends control startFrom state log finished)
    (h' : plan.Ends control startFrom state log other) : finished = other := by
  obtain ⟨n, hn⟩ := h
  obtain ⟨m, hm⟩ := h'
  have hn' := runFrom_mono plan (Nat.le_max_left n m) hn
  have hm' := runFrom_mono plan (Nat.le_max_right n m) hm
  exact Option.some.inj (hn'.symm.trans hm')

theorem Ends.of_stop (h : plan.move control startFrom state log = .stop finished) :
    plan.Ends control startFrom state log finished :=
  ⟨1, by rw [runFrom_succ, h]⟩

theorem Ends.of_go (h : plan.move control startFrom state log = .go next log₁)
    (hn : plan.Ends control startFrom next log₁ finished) :
    plan.Ends control startFrom state log finished := by
  obtain ⟨fuel, hf⟩ := hn
  exact ⟨fuel + 1, by rw [runFrom_succ, h]; exact hf⟩

theorem ForkEnds.exists_bakePieces {result : Except Fault (List String)}
    (h : plan.ForkEnds control state split log result log₁) :
    ∃ fuel, ∀ fuel', fuel ≤ fuel' →
      bakePieces (plan.runSection fuel' control.forBranch) control split.ignoreErrors
        (state.branchOn plan.steps) split.pieces log = some (result, log₁) := by
  have hmono : ∀ {n m}, n ≤ m → ∀ state log finished,
      plan.runSection n control.forBranch state log = some finished →
      plan.runSection m control.forBranch state log = some finished :=
    fun hle _ _ _ => runFrom_mono plan hle
  obtain ⟨fuel, hb⟩ := Branches.exists_bound hmono h
  exact ⟨fuel, fun fuel' hle => bakePieces_mono (hmono hle) (branches_iff.mp hb)⟩

/-- Branches come to one end, within any number of turns that suffices for them. -/
theorem ForkEnds.bakePieces_eq {result result' : Except Fault (List String)} {fuel : Nat}
    {log' : Log} (hb : plan.ForkEnds control state split log result log₁)
    (h : bakePieces (plan.runSection fuel control.forBranch) control split.ignoreErrors
      (state.branchOn plan.steps) split.pieces log = some (result', log')) :
    result' = result ∧ log' = log₁ := by
  obtain ⟨bound, hbound⟩ := hb.exists_bakePieces
  have hmax := bakePieces_mono (fun _ _ _ hr => runFrom_mono plan (Nat.le_max_left fuel bound) hr) h
  have hsame := hmax.symm.trans (hbound _ (Nat.le_max_right fuel bound))
  simpa only [Option.some.injEq, Prod.mk.injEq] using hsame

/-- With turns enough for its branches, a fork is what comes after them. -/
theorem ForkEnds.exists_runFrom {result : Except Fault (List String)}
    (hb : plan.ForkEnds control state split log₁ result log₂)
    (h : plan.move control startFrom state log = .fork step split log₁) :
    ∃ bound, ∀ fuel, bound ≤ fuel →
      plan.runFrom (fuel + 1) control startFrom state log =
        plan.afterBranches fuel control startFrom state step split (result, log₂) := by
  obtain ⟨bound, hbound⟩ := hb.exists_bakePieces
  refine ⟨bound, fun fuel hle => ?_⟩
  rw [runFrom_succ, h]
  simp only [hbound fuel hle, Option.bind_some]

theorem Ends.of_forkFails (h : plan.move control startFrom state log = .fork step split log₁)
    (hb : plan.ForkEnds control state split log₁ (.error fault) log₂) :
    plan.Ends control startFrom state log ((state.inPhase .branching).fault step fault log₂) := by
  obtain ⟨bound, hbound⟩ := hb.exists_runFrom h
  exact ⟨bound + 1, hbound bound (Nat.le_refl _)⟩

theorem Ends.of_forkJoins (h : plan.move control startFrom state log = .fork step split log₁)
    (hb : plan.ForkEnds control state split log₁ (.ok outputs) log₂)
    (hn : plan.Ends control startFrom (state.joined plan.steps split outputs) log₂ finished) :
    plan.Ends control startFrom state log finished := by
  obtain ⟨bound, hbound⟩ := hb.exists_runFrom h
  obtain ⟨fuel, hf⟩ := hn
  refine ⟨max bound fuel + 1, ?_⟩
  rw [hbound _ (Nat.le_max_left _ _)]
  exact runFrom_mono plan (Nat.le_max_right _ _) hf

/-- A run that moves on ends as it ends from where it has moved. -/
theorem ends_iff_of_go (h : plan.move control startFrom state log = .go next log₁) :
    plan.Ends control startFrom state log finished ↔
      plan.Ends control startFrom next log₁ finished := by
  constructor
  · rintro ⟨_, hf⟩
    obtain ⟨left, rfl⟩ := exists_of_runFrom_eq_some hf
    rw [runFrom_succ, h] at hf
    exact ⟨left, hf⟩
  · exact .of_go h

/-- A run whose fork has been joined ends as it ends behind the fork. -/
theorem ends_iff_of_forkJoins (h : plan.move control startFrom state log = .fork step split log₁)
    (hb : plan.ForkEnds control state split log₁ (.ok outputs) log₂) :
    plan.Ends control startFrom state log finished ↔
      plan.Ends control startFrom (state.joined plan.steps split outputs) log₂ finished := by
  constructor
  · rintro ⟨_, hf⟩
    obtain ⟨left, rfl⟩ := exists_of_runFrom_eq_some hf
    rw [runFrom_succ, h] at hf
    obtain ⟨⟨result, log₃⟩, hbaked, hafter⟩ := Option.bind_eq_some_iff.mp hf
    obtain ⟨rfl, rfl⟩ := hb.bakePieces_eq hbaked
    exact ⟨left, hafter⟩
  · exact .of_forkJoins h hb

/-- Induction on how a run ends. Of a fork the hypothesis also speaks about the runs of its
branches. -/
theorem Ends.induct {plan : Plan}
    {motive : (control : Control) → (startFrom : Nat) → (state : State) → (log : Log) →
      (finished : SectionEnd) → plan.Ends control startFrom state log finished → Prop}
    (stop : ∀ {control startFrom state log finished}
      (hmove : plan.move control startFrom state log = .stop finished),
      motive control startFrom state log finished (.of_stop hmove))
    (go : ∀ {control startFrom state log next log₁ finished}
      (hmove : plan.move control startFrom state log = .go next log₁)
      (hnext : plan.Ends control startFrom next log₁ finished),
      motive control startFrom next log₁ finished hnext →
      motive control startFrom state log finished (.of_go hmove hnext))
    (forkFails : ∀ {control startFrom state log step split log₁ fault log₂}
      (hmove : plan.move control startFrom state log = .fork step split log₁)
      (hbranches : Branches (fun branch log finished =>
          ∃ h : plan.SectionEnds control.forBranch branch log finished,
            motive control.forBranch (branch.startFrom control.forBranch)
              (branch.inPhase .running) log finished h)
        control split.ignoreErrors (state.branchOn plan.steps) split.pieces log₁
        (.error fault) log₂),
      motive control startFrom state log ((state.inPhase .branching).fault step fault log₂)
        (.of_forkFails hmove (hbranches.mono fun _ _ _ h => h.1)))
    (forkJoins : ∀ {control startFrom state log step split log₁ outputs log₂ finished}
      (hmove : plan.move control startFrom state log = .fork step split log₁)
      (hbranches : Branches (fun branch log finished =>
          ∃ h : plan.SectionEnds control.forBranch branch log finished,
            motive control.forBranch (branch.startFrom control.forBranch)
              (branch.inPhase .running) log finished h)
        control split.ignoreErrors (state.branchOn plan.steps) split.pieces log₁
        (.ok outputs) log₂)
      (hnext : plan.Ends control startFrom (state.joined plan.steps split outputs) log₂ finished),
      motive control startFrom (state.joined plan.steps split outputs) log₂ finished hnext →
      motive control startFrom state log finished
        (.of_forkJoins hmove (hbranches.mono fun _ _ _ h => h.1) hnext))
    {control : Control} {startFrom : Nat} {state : State} {log : Log} {finished : SectionEnd}
    (h : plan.Ends control startFrom state log finished) :
    motive control startFrom state log finished h := by
  -- The induction is on the fuel, of which the branches of a fork have as much as the run behind it.
  have hrun : ∀ fuel control startFrom state log finished,
      plan.runFrom fuel control startFrom state log = some finished →
      ∃ h, motive control startFrom state log finished h := by
    intro fuel
    induction fuel with
    | zero => simp [runFrom]
    | succ fuel ih =>
      intro control startFrom state log finished hf
      rw [runFrom_succ] at hf
      cases hmove : plan.move control startFrom state log with
      | stop last =>
        rw [hmove] at hf
        obtain rfl := Option.some.inj hf
        exact ⟨_, stop hmove⟩
      | go next log₁ =>
        rw [hmove] at hf
        obtain ⟨hnext, hmotive⟩ := ih _ _ _ _ _ hf
        exact ⟨_, go hmove hnext hmotive⟩
      | fork step split log₁ =>
        rw [hmove] at hf
        obtain ⟨⟨result, log₂⟩, hbaked, hafter⟩ := Option.bind_eq_some_iff.mp hf
        have hbranches := branches_iff.mpr hbaked
        cases result with
        | error fault =>
          obtain rfl := Option.some.inj hafter
          exact ⟨_, forkFails hmove (hbranches.mono fun _ _ _ hr => ih _ _ _ _ _ hr)⟩
        | ok outputs =>
          obtain ⟨hnext, hmotive⟩ := ih _ _ _ _ _ hafter
          exact ⟨_, forkJoins hmove (hbranches.mono fun _ _ _ hr => ih _ _ _ _ _ hr) hnext hmotive⟩
  obtain ⟨fuel, hf⟩ := h
  exact (hrun fuel control startFrom state log finished hf).2

end Plan
end Kitchen
