import Kitchen.Proofs.Run.Matching
import Kitchen.Proofs.Run.Progress

/-!
# Simulation

A run over a range of steps that may pause at breakpoints and a run over a thinning of the range
that ignores them: if they start aligned and one of them ends, so does the other. Either the first
run pauses, at a state from which the second goes on, or both come to the same end.
-/

namespace Kitchen

/-! ## Branches -/

section Branches

/-- Two ends of a branch give the same dish or related failures. -/
inductive SectionEnd.Agrees (rel : Failure → Failure → Prop) : SectionEnd → SectionEnd → Prop where
  | ok {status status' : Status} {state state' : State} {log log' : Log} :
      state'.dish = state.dish → Agrees rel ⟨.ok status, state, log⟩ ⟨.ok status', state', log'⟩
  | failed {failure failure' : Failure} {state state' : State} {log log' : Log} :
      rel failure failure' → Agrees rel ⟨.error failure, state, log⟩ ⟨.error failure', state', log'⟩

/-- Two forks give the same outputs, the same fault or related failures of a branch. -/
inductive OutputsAgree (rel : Failure → Failure → Prop) :
    Except Fault (List String) → Except Fault (List String) → Prop where
  | ok (outputs : List String) : OutputsAgree rel (.ok outputs) (.ok outputs)
  | own {fault : Fault} : fault.IsOwn → OutputsAgree rel (.error fault) (.error fault)
  | branch {failure failure' : Failure} : rel failure failure' →
      OutputsAgree rel (.error (.branch failure)) (.error (.branch failure'))

variable {rel : Failure → Failure → Prop} {control control' : Control} {ignoreErrors : Bool}
  {branch branch' : String → State} {run run' : State → Log → SectionEnd → Prop}
  {pieces : List String} {log last : Log} {result : Except Fault (List String)}

theorem OutputsAgree.map {result result' : Except Fault (List String)}
    (h : OutputsAgree rel result result') (output : String) :
    OutputsAgree rel (result.map (output :: ·)) (result'.map (output :: ·)) := by
  cases h with
  | ok outputs => exact .ok (output :: outputs)
  | own hown => exact .own hown
  | branch hrel => exact .branch hrel

/-- Where each branch of a fork ends in agreement with one of another, so do the forks. -/
theorem Branches.transfer (h : Branches run control ignoreErrors branch pieces log result last)
    (hc : control.Uncancelled) (hc' : control'.Uncancelled)
    (hkind : ∀ {failure failure'}, rel failure failure' → failure'.kind = failure.kind)
    (hrun : ∀ piece log finished, run (branch piece) log finished → ∀ log', ∃ finished',
      run' (branch' piece) log' finished' ∧ finished.Agrees rel finished') (log' : Log) :
    ∃ result' last', Branches run' control' ignoreErrors branch' pieces log' result' last' ∧
      OutputsAgree rel result result' := by
  induction h generalizing log' with
  | nil log => exact ⟨.ok [], log', .nil log', .ok []⟩
  | cancelled hcancelled => simp [hc.isCancelled] at hcancelled
  | @text piece rest log next last status baked output result _ hr ho _ ih =>
    obtain ⟨finished', hr', hagrees⟩ := hrun piece log _ hr log'
    cases hagrees with
    | @ok _ status' _ baked' _ next' hdish =>
      obtain ⟨result', last', hb', hres⟩ := ih next'
      exact ⟨_, last', .text (hc'.isCancelled log') hr' (hdish ▸ ho) hb', hres.map output⟩
  | @noText piece rest log next status baked fault _ hr ho =>
    obtain ⟨finished', hr', hagrees⟩ := hrun piece log _ hr log'
    cases hagrees with
    | @ok _ status' _ baked' _ next' hdish =>
      exact ⟨_, next', .noText (hc'.isCancelled log') hr' (hdish ▸ ho),
        .own (Flow.plainFaults_branchOutput _ _ ho).isOwn⟩
  | @skipped piece rest log next last failure left result _ hr hi _ ih =>
    obtain ⟨finished', hr', hagrees⟩ := hrun piece log _ hr log'
    cases hagrees with
    | @failed _ failure' _ left' _ next' hrel =>
      obtain ⟨result', last', hb', hres⟩ := ih next'
      exact ⟨result', last', .skipped (hc'.isCancelled log') hr' (hkind hrel ▸ hi) hb', hres⟩
  | @failed piece rest log next failure left _ hr hi =>
    obtain ⟨finished', hr', hagrees⟩ := hrun piece log _ hr log'
    cases hagrees with
    | @failed _ failure' _ left' _ next' hrel =>
      exact ⟨_, next', .failed (hc'.isCancelled log') hr' (hkind hrel ▸ hi), .branch hrel⟩

end Branches

/-! ## Runs that may pause -/

/-- How the end of a run that may pause is followed by a run without pauses: by an aligned end, or,
after a pause, by going on from an aligned state. -/
inductive Plan.Follows (plan' : Plan) (control control' : Control) (first stop : Nat)
    (place : Nat → Nat) (startFrom startFrom' : Nat) (state state' : State) (log' : Log) :
    SectionEnd → Prop where
  | ends {finished finished' : SectionEnd} :
      plan'.Ends control' startFrom' state' log' finished' →
      finished.Aligned first stop place finished' →
      Follows plan' control control' first stop place startFrom startFrom' state state' log' finished
  | pauses {paused paused' : State} {log₁ log₁' : Log} : control.honourBreakpoints = true →
      startFrom < paused.progress → paused.progress < paused.scopeEnd →
      paused.scopeStart = state.scopeStart → paused.scopeEnd = state.scopeEnd →
      Aligned first stop place paused paused' →
      (∀ finished', plan'.Ends control' startFrom' state' log' finished' ↔
        plan'.Ends control' startFrom' paused' log₁' finished') →
      Follows plan' control control' first stop place startFrom startFrom' state state' log'
        ⟨.ok (.paused paused.progress), paused, log₁⟩

section Simulation

variable {plan plan' : Plan} {first stop : Nat} {place : Nat → Nat} {control control' : Control}
  {startFrom startFrom' : Nat} {state state' : State} {log log' : Log} {finished : SectionEnd}

/-- A run that cannot pause is followed by an aligned end. -/
theorem Plan.Follows.exists_aligned
    (h : plan'.Follows control control' first stop place startFrom startFrom' state state' log'
      finished)
    (hc : control.Unhindered) :
    ∃ finished', plan'.Ends control' startFrom' state' log' finished' ∧
      finished.Aligned first stop place finished' := by
  cases h with
  | ends hends haligned => exact ⟨_, hends, haligned⟩
  | pauses hhonour =>
    rw [hc.honourBreakpoints] at hhonour
    exact absurd hhonour (by simp)

/-- What follows a run from a later state follows it from an earlier one. -/
private theorem Plan.Follows.back {next next' : State} {log₁' : Log}
    (h : plan'.Follows control control' first stop place startFrom startFrom' next next' log₁'
      finished)
    (hstart : next.scopeStart = state.scopeStart) (hend : next.scopeEnd = state.scopeEnd)
    (hends : ∀ finished', plan'.Ends control' startFrom' state' log' finished' ↔
      plan'.Ends control' startFrom' next' log₁' finished') :
    plan'.Follows control control' first stop place startFrom startFrom' state state' log'
      finished := by
  cases h with
  | ends h haligned => exact .ends ((hends _).mpr h) haligned
  | pauses hhonour hlt hlt' hstart' hend' ha hiff =>
    exact .pauses hhonour hlt hlt' (hstart'.trans hstart) (hend'.trans hend) ha
      fun finished' => (hends finished').trans (hiff finished')

private theorem agrees_of_aligned {finished finished' : SectionEnd}
    (h : finished.Aligned first stop place finished') :
    finished.Agrees (Failure.Aligned first stop place) finished' := by
  cases h with
  | completed ha _ => exact .ok ha.dish
  | failed _ hf => exact .failed hf

/-- The run that came to an end is followed by every run over the thinned steps without pauses that
started aligned with it. -/
def Plan.Followed (plan' : Plan) (first stop : Nat) (place : Nat → Nat) (control : Control)
    (startFrom : Nat) (state : State) (finished : SectionEnd) : Prop :=
  control.Uncancelled → ∀ (control' : Control) (state' : State), control'.Unhindered →
    Aligned first stop place state state' → ∀ startFrom' log',
      plan'.Follows control control' first stop place startFrom startFrom' state state' log' finished

/-- A fork is matched by a fork with the same pieces. -/
private theorem Aligned.exists_move_fork (T : Thinning plan.steps plan'.steps first stop place)
    (hr : plan.registry = .builtIn) (hr' : plan'.registry = .builtIn) (hc : control.Uncancelled)
    (hc' : control'.Unhindered) (ha : Aligned first stop place state state') {step : Step}
    {split : Split} {log₁ : Log}
    (hmove : plan.move control startFrom state log = .fork step split log₁) (startFrom' : Nat)
    (log' : Log) :
    place (state.progress + 1) = place state.progress + 1 ∧
      ∃ step' log₁', step'.operation = step.operation ∧
        plan'.move control' startFrom' state' log' = .fork step' split log₁' := by
  cases ha.matches T hr hr' hc hc' startFrom startFrom' log log' with
  | pauses _ _ _ hpause => simp [hmove] at hpause
  | idles next log₁ _ _ _ _ hgo => simp [hmove] at hgo
  | moves hkept hmoves =>
    rw [hmove] at hmoves
    generalize hmove' : plan'.move control' startFrom' state' log' = move' at hmoves
    cases hmoves with
    | @fork _ step' _ _ log₁' hop =>
      exact ⟨hkept (Plan.lt_of_move_fork hmove), step', log₁', hop, rfl⟩

private theorem Plan.forkEnds_of_followed {split : Split} {result : Except Fault (List String)}
    {last : Log} (T : Thinning plan.steps plan'.steps first stop place) (hc : control.Uncancelled)
    (hc' : control'.Uncancelled) (ha : Aligned first stop place state state')
    (hlt : state.progress < state.scopeEnd)
    (hkept : place (state.progress + 1) = place state.progress + 1)
    (hb : Branches (fun branch log finished =>
        ∃ _ : plan.SectionEnds control.forBranch branch log finished,
          plan'.Followed first stop place control.forBranch (branch.startFrom control.forBranch)
            (branch.inPhase .running) finished)
      control split.ignoreErrors (state.branchOn plan.steps) split.pieces log result last)
    (log' : Log) :
    ∃ result' last', plan'.ForkEnds control' state' split log' result' last' ∧
      OutputsAgree (Failure.Aligned first stop place) result result' := by
  refine hb.transfer hc hc' (fun hf => by rw [hf.eq]) ?_ log'
  rintro piece log finished ⟨_, hfollowed⟩ log'
  have hbranch := (ha.branchOn T hlt hkept piece).inPhase .running .running
  obtain ⟨finished', hends, haligned⟩ := (hfollowed hc.forBranch _ _ hc'.unhindered_forBranch
    hbranch _ log').exists_aligned hc.unhindered_forBranch
  exact ⟨finished', hends, agrees_of_aligned haligned⟩

/-- What a run that may pause comes to, a run over the thinned steps without pauses comes to. -/
theorem Plan.Ends.followed (h : plan.Ends control startFrom state log finished)
    (T : Thinning plan.steps plan'.steps first stop place) (hr : plan.registry = .builtIn)
    (hr' : plan'.registry = .builtIn) :
    plan'.Followed first stop place control startFrom state finished := by
  induction h using Plan.Ends.induct with
  | @stop control startFrom state log finished hmove =>
    intro hc control' state' hc' ha startFrom' log'
    cases ha.matches T hr hr' hc hc' startFrom startFrom' log log' with
    | pauses hhonour hlt hlt' hpause =>
      -- The breakpoint is met by the first run alone; the other goes on from where it stands.
      obtain rfl := Move.stop.inj (hmove.symm.trans hpause)
      change plan'.Follows _ _ _ _ _ _ _ _ _ _
        ⟨.ok (.paused (state.inPhase .paused).progress), state.inPhase .paused, log⟩
      exact .pauses hhonour hlt hlt' rfl rfl (ha.inPhase .paused state'.phase) fun _ => Iff.rfl
    | idles next log₁ _ _ _ _ hgo => simp [hmove] at hgo
    | moves hkept hmoves =>
      rw [hmove] at hmoves
      generalize hmove' : plan'.move control' startFrom' state' log' = move' at hmoves
      cases hmoves with
      | stop haligned => exact .ends (.of_stop hmove') haligned
  | @go control startFrom state log next log₁ finished hmove hnext ih =>
    intro hc control' state' hc' ha startFrom' log'
    obtain ⟨_, step, _, hmoved⟩ := moved_of_move_go hr hmove
    cases ha.matches T hr hr' hc hc' startFrom startFrom' log log' with
    | pauses _ _ _ hpause => simp [hmove] at hpause
    | idles next log₁ _ hstart hend hidle hgo =>
      -- An idle step is passed by the first run alone.
      obtain ⟨rfl, rfl⟩ := Move.go.inj (hmove.symm.trans hgo)
      exact (ih hc control' state' hc' hidle startFrom' log').back hstart hend fun _ => Iff.rfl
    | moves hkept hmoves =>
      rw [hmove] at hmoves
      generalize hmove' : plan'.move control' startFrom' state' log' = move' at hmoves
      cases hmoves with
      | @go _ next' _ log₁' hnext' =>
        exact (ih hc control' next' hc' hnext' startFrom' log₁').back hmoved.scope.1
          hmoved.scope.2 fun _ => ends_iff_of_go hmove'
  | @forkFails control startFrom state log step split log₁ fault log₂ hmove hbranches =>
    intro hc control' state' hc' ha startFrom' log'
    have hlt := lt_of_move_fork hmove
    obtain ⟨hkept, step', log₁', hop, hmove'⟩ := ha.exists_move_fork T hr hr' hc hc' hmove
      startFrom' log'
    obtain ⟨result', last', hb', hagree⟩ := forkEnds_of_followed T hc hc'.uncancelled ha hlt hkept
      hbranches log₁'
    have hb := ha.inPhase .branching .branching
    cases hagree with
    | own hown =>
      exact .ends (.of_forkFails hmove' hb')
        (Fault.Aligned.sectionEnd (.own hown) hb hlt hkept hop _ _)
    | branch hfailure =>
      exact .ends (.of_forkFails hmove' hb')
        (Fault.Aligned.sectionEnd (.branch hfailure) hb hlt hkept hop _ _)
  | @forkJoins control startFrom state log step split log₁ outputs log₂ finished hmove hbranches
      hnext ih =>
    intro hc control' state' hc' ha startFrom' log'
    have hlt := lt_of_move_fork hmove
    obtain ⟨hkept, step', log₁', _, hmove'⟩ := ha.exists_move_fork T hr hr' hc hc' hmove
      startFrom' log'
    obtain ⟨result', last', hb', hagree⟩ := forkEnds_of_followed T hc hc'.uncancelled ha hlt hkept
      hbranches log₁'
    cases hagree with
    | ok =>
      have hjoined := ha.joined T hlt hkept split outputs
      exact (ih hc control' _ hc' hjoined startFrom' last').back rfl rfl
        fun _ => ends_iff_of_forkJoins hmove' hb'

/-! ## Halting -/

/-- Every run that may pause ends if it started aligned with the run over the thinned steps. -/
def Plan.Led (plan : Plan) (first stop : Nat) (place : Nat → Nat) (control' : Control)
    (state' : State) : Prop :=
  control'.Unhindered → ∀ (control : Control) (state : State), control.Uncancelled →
    Aligned first stop place state state' → ∀ startFrom log,
      ∃ finished, plan.Ends control startFrom state log finished

/-- Idle steps in front of a common move do not keep a run from its end. -/
private theorem Aligned.exists_ends (T : Thinning plan.steps plan'.steps first stop place)
    (hr : plan.registry = .builtIn) (hr' : plan'.registry = .builtIn) (hc : control.Uncancelled)
    (hc' : control'.Unhindered) {move' : Move}
    (hmove' : plan'.move control' startFrom' state' log' = move')
    (h : ∀ state log, Aligned first stop place state state' →
      (state.progress < state.scopeEnd → place (state.progress + 1) = place state.progress + 1) →
      ∀ move, plan.move control startFrom state log = move → move.Aligned first stop place move' →
      ∃ finished, plan.Ends control startFrom state log finished)
    (ha : Aligned first stop place state state') (log : Log) :
    ∃ finished, plan.Ends control startFrom state log finished := by
  -- The steps that are left in the scope bound how many idle ones come in a row.
  induction hn : state.scopeEnd - state.progress generalizing state log with
  | zero =>
    cases ha.matches T hr hr' hc hc' startFrom startFrom' log log' with
    | pauses _ _ _ hpause => exact ⟨_, .of_stop hpause⟩
    | idles next log₁ hnext _ hend hidle hgo =>
      have hle := hidle.le_end
      omega
    | moves hkept hmoves => exact h state log ha hkept _ rfl (hmove' ▸ hmoves)
  | succ n ih =>
    cases ha.matches T hr hr' hc hc' startFrom startFrom' log log' with
    | pauses _ _ _ hpause => exact ⟨_, .of_stop hpause⟩
    | idles next log₁ hnext _ hend hidle hgo =>
      obtain ⟨finished, hends⟩ := ih hidle log₁ (by omega)
      exact ⟨finished, .of_go hgo hends⟩
    | moves hkept hmoves => exact h state log ha hkept _ rfl (hmove' ▸ hmoves)

private theorem Plan.forkEnds_of_led {split : Split} {result' : Except Fault (List String)}
    {last' : Log} (T : Thinning plan.steps plan'.steps first stop place)
    (hr : plan.registry = .builtIn) (hr' : plan'.registry = .builtIn) (hc : control.Uncancelled)
    (hc' : control'.Uncancelled) (ha : Aligned first stop place state state')
    (hlt : state.progress < state.scopeEnd)
    (hkept : place (state.progress + 1) = place state.progress + 1)
    (hb : Branches (fun branch log' finished =>
        ∃ _ : plan'.SectionEnds control'.forBranch branch log' finished,
          plan.Led first stop place control'.forBranch (branch.inPhase .running))
      control' split.ignoreErrors (state'.branchOn plan'.steps) split.pieces log' result' last')
    (log : Log) :
    ∃ result last, plan.ForkEnds control state split log result last ∧
      OutputsAgree (flip (Failure.Aligned first stop place)) result' result := by
  refine hb.transfer hc' hc (fun hf => by rw [hf.eq]) ?_ log
  rintro piece log' finished' ⟨hends', hled⟩ log
  have hbranch := (ha.branchOn T hlt hkept piece).inPhase .running .running
  obtain ⟨finished, hends⟩ := hled hc'.unhindered_forBranch control.forBranch _ hc.forBranch hbranch
    (State.startFrom (state.branchOn plan.steps piece) control.forBranch) log
  -- What the longer branch comes to is followed by the shorter one, which has no other end.
  obtain ⟨_, hends'', haligned⟩ := (hends.followed T hr hr' hc.forBranch _ _
    hc'.unhindered_forBranch hbranch _ log').exists_aligned hc.unhindered_forBranch
  obtain rfl := hends'.unique hends''
  refine ⟨finished, hends, ?_⟩
  cases haligned with
  | completed ha _ => exact .ok ha.dish.symm
  | failed _ hf => exact .failed hf

/-- If the run over the thinned steps ends, so does every run aligned with it. -/
theorem Plan.Ends.led {finished' : SectionEnd}
    (h : plan'.Ends control' startFrom' state' log' finished')
    (T : Thinning plan.steps plan'.steps first stop place) (hr : plan.registry = .builtIn)
    (hr' : plan'.registry = .builtIn) : plan.Led first stop place control' state' := by
  induction h using Plan.Ends.induct with
  | @stop control' startFrom' state' log' finished' hmove' =>
    intro hc' control state hc ha startFrom log
    refine ha.exists_ends T hr hr' hc hc' hmove' (fun state log ha hkept move hmove hmoves => ?_) log
    cases hmoves with
    | stop _ => exact ⟨_, .of_stop hmove⟩
  | @go control' startFrom' state' log' next' log₁' finished' hmove' hnext' ih =>
    intro hc' control state hc ha startFrom log
    refine ha.exists_ends T hr hr' hc hc' hmove' (fun state log ha hkept move hmove hmoves => ?_) log
    cases hmoves with
    | @go next _ log₁ _ hnext =>
      obtain ⟨finished, hends⟩ := ih hc' control next hc hnext startFrom log₁
      exact ⟨finished, .of_go hmove hends⟩
  | @forkFails control' startFrom' state' log' step' split log₁' fault' log₂' hmove' hbranches =>
    intro hc' control state hc ha startFrom log
    refine ha.exists_ends T hr hr' hc hc' hmove' (fun state log ha hkept move hmove hmoves => ?_) log
    cases hmoves with
    | @fork step _ _ log₁ _ hop =>
      have hlt := lt_of_move_fork hmove
      obtain ⟨result, last, hb, hagree⟩ := forkEnds_of_led T hr hr' hc hc'.uncancelled ha hlt
        (hkept hlt) hbranches log₁
      cases hagree with
      | own _ => exact ⟨_, .of_forkFails hmove hb⟩
      | branch _ => exact ⟨_, .of_forkFails hmove hb⟩
  | @forkJoins control' startFrom' state' log' step' split log₁' outputs log₂' finished' hmove'
      hbranches hnext' ih =>
    intro hc' control state hc ha startFrom log
    refine ha.exists_ends T hr hr' hc hc' hmove' (fun state log ha hkept move hmove hmoves => ?_) log
    cases hmoves with
    | @fork step _ _ log₁ _ hop =>
      have hlt := lt_of_move_fork hmove
      obtain ⟨result, last, hb, hagree⟩ := forkEnds_of_led T hr hr' hc hc'.uncancelled ha hlt
        (hkept hlt) hbranches log₁
      cases hagree with
      | ok =>
        have hjoined := ha.joined T hlt (hkept hlt) split outputs
        obtain ⟨finished, hends⟩ := ih hc' control _ hc hjoined startFrom last
        exact ⟨finished, .of_forkJoins hmove hb hends⟩

end Simulation
end Kitchen
