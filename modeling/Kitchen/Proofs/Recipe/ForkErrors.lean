import Kitchen.Proofs.Recipe.ForkSection
import Kitchen.Proofs.Run.Cancellation

/-!
# Forks that ignore errors

A fork that ignores errors leaves out the branches whose steps fail. It does not leave out a branch
that completes with a dish without text: such a branch ends the fork.
-/

namespace Kitchen

/-! ## Outputs of branches -/

namespace SectionEnd

/-- The text that a branch gives: none if it failed or its dish has no text. -/
def text? (finished : SectionEnd) : Option String :=
  match finished.result with
  | .ok _ => (Flow.branchOutput finished.state.dish).toOption
  | .error _ => none

/-- The branch completes with a dish that has no text. -/
def LacksText (finished : SectionEnd) (fault : Fault) : Prop :=
  (∃ status, finished.result = .ok status) ∧
    Flow.branchOutput finished.state.dish = .error fault

/-- The ends have the same result and leave the same dish. -/
def Alike (finished other : SectionEnd) : Prop :=
  other.result = finished.result ∧ other.state.dish = finished.state.dish

end SectionEnd

/-- Without cancellation a branch ends the same whatever happened before it. -/
theorem Plan.SectionEnds.exists_alike {plan : Plan} (hr : plan.registry = .builtIn)
    {control : Control} (hc : control.Unhindered) {state : State}
    (ha : Aligned 0 plan.steps.length id state state) {log : Log} {finished : SectionEnd}
    (h : plan.SectionEnds control state log finished) (log' : Log) :
    (∃ other, plan.SectionEnds control state log' other ∧ finished.Alike other) := by
  have hrunning := ha.inPhase .running .running
  obtain ⟨_, hends, haligned⟩ := (Plan.Ends.followed h (Thinning.refl plan.steps) hr hr
    hc.uncancelled control _ hc hrunning (state.startFrom control) log').exists_aligned hc
  refine ⟨_, hends, ?_⟩
  cases haligned with
  | completed ha _ => exact ⟨rfl, ha.dish⟩
  | failed ha hf => exact ⟨congrArg Except.error hf.eq, ha.dish⟩

/-- A fork that ignores errors passes pieces on which no branch lacks a text, and keeps the texts of
those that completed. -/
theorem Branches.exists_of_texts {run : State → Log → SectionEnd → Prop} {control : Control}
    (hc : control.Uncancelled) {branch : String → State} {branchEnd : String → SectionEnd}
    (pieces : List String) (hends : ∀ piece ∈ pieces, ∀ log, ∃ other,
      run (branch piece) log other ∧ (branchEnd piece).Alike other)
    (hcancelled : ∀ piece ∈ pieces, ¬ (branchEnd piece).IsCancelled)
    (htexts : ∀ piece ∈ pieces, ∀ fault, ¬ (branchEnd piece).LacksText fault) (log : Log) :
    ∃ last, Branches run control true branch pieces log
      (.ok (pieces.filterMap fun piece => (branchEnd piece).text?)) last := by
  induction pieces generalizing log with
  | nil => exact ⟨log, .nil log⟩
  | cons piece rest ih =>
    obtain ⟨⟨result, left, next⟩, hrun, hresult, hdish⟩ := hends piece List.mem_cons_self log
    obtain ⟨last, hrest⟩ := ih (fun other ho => hends other (List.mem_cons_of_mem _ ho))
      (fun other ho => hcancelled other (List.mem_cons_of_mem _ ho))
      (fun other ho => htexts other (List.mem_cons_of_mem _ ho)) next
    refine ⟨last, ?_⟩
    dsimp only at hresult hdish
    cases hend : (branchEnd piece).result with
    | error failure =>
      have htext : (branchEnd piece).text? = none := by rw [SectionEnd.text?, hend]
      have hkind : failure.kind ≠ .cancelled := fun hkind =>
        hcancelled piece List.mem_cons_self ⟨failure, hend, hkind⟩
      simp only [List.filterMap_cons, htext]
      rw [hend] at hresult
      subst hresult
      exact .skipped (hc.isCancelled log) hrun (by simpa using hkind) hrest
    | ok status =>
      rw [hend] at hresult
      subst hresult
      cases ho : Flow.branchOutput (branchEnd piece).state.dish with
      | error fault =>
        exact absurd ⟨⟨status, hend⟩, ho⟩ (htexts piece List.mem_cons_self fault)
      | ok output =>
        have htext : (branchEnd piece).text? = some output := by
          simp only [SectionEnd.text?, hend, ho]
          rfl
        simp only [List.filterMap_cons, htext]
        exact .text (hc.isCancelled log) hrun (hdish ▸ ho) hrest

/-! ## Forks -/

/-- A fork that ignores errors, all of whose branches end: if every branch that completes has a text,
the run goes on behind the section with these texts joined, and is otherwise as it was. The first
branch that completes with a dish without text ends the run in the fork. -/
theorem fork_ignores_errors {plan : Plan} (hr : plan.registry = .builtIn) {control : Control}
    {startFrom : Nat} {state : State} {log : Log} {step : Step} (hc : control.Uncancelled)
    (hscope : state.scopeEnd ≤ plan.steps.length)
    (hturn : state.turn plan.steps control startFrom log = .dispatch step)
    (hfork : step.operation = Flow.fork.name) {split join text : String}
    (hsplit : delimiterOf (textAt (state.argsFor step) 0) = .ok split)
    (hjoin : delimiterOf (textAt (state.argsFor step) 1) = .ok join)
    (hignore : boolAt (state.argsFor step) 2 = true) (htext : state.text = .ok text)
    {branchEnd : String → SectionEnd}
    (hends : ∀ piece ∈ Flow.pieces text split,
      plan.SectionEnds control.forBranch (state.branchOn plan.steps piece) [] (branchEnd piece)) :
    ((∀ piece ∈ Flow.pieces text split, ∀ fault, ¬ (branchEnd piece).LacksText fault) →
      ∃ bound log', ∀ fuel, bound ≤ fuel →
        plan.runFrom (fuel + 1) control startFrom state log =
          plan.runFrom fuel control startFrom
            { state with
              dish := .string (join.intercalate
                ((Flow.pieces text split).filterMap fun piece => (branchEnd piece).text?))
              progress := state.behindFork plan.steps
              phase := .running }
            log') ∧
    ∀ before piece after fault, Flow.pieces text split = before ++ piece :: after →
      (∀ earlier ∈ before, ∀ fault, ¬ (branchEnd earlier).LacksText fault) →
      (branchEnd piece).LacksText fault →
      ∃ bound log', ∀ fuel, bound ≤ fuel →
        plan.runFrom (fuel + 1) control startFrom state log =
          some ⟨.error (.ofFault state.progress step.operation fault), state.inPhase .branching,
            log'⟩ := by
  have hmove := move_fork hr hturn hfork hsplit hjoin hignore htext
  have hlt := Plan.lt_of_move_fork hmove
  obtain ⟨hfirst, hle⟩ := State.forkSection_bounds hlt plan.steps
  have hstop := Nat.le_trans hle hscope
  have halike : ∀ piece ∈ Flow.pieces text split, ∀ log, ∃ other,
      plan.SectionEnds control.forBranch (state.branchOn plan.steps piece) log other ∧
        (branchEnd piece).Alike other := fun piece hmem =>
    (hends piece hmem).exists_alike hr hc.unhindered_forBranch
      (aligned_branch (Nat.zero_le _) hfirst hstop state (.string piece))
  -- Without a host that cancels no branch is cancelled, so that every failure can be ignored.
  have hcancelled : ∀ piece ∈ Flow.pieces text split, ¬ (branchEnd piece).IsCancelled := by
    intro piece hmem hcancelled
    have hlog := Plan.Ends.isCancelled_log (hends piece hmem) hr hcancelled
    exact absurd (hlog.symm.trans (hc.forBranch.isCancelled _)) (by simp)
  refine ⟨fun htexts => ?_, fun before piece after fault hpieces hbefore hlacks => ?_⟩
  · obtain ⟨log', hb⟩ := Branches.exists_of_texts hc _ halike hcancelled htexts
      (plan.announced control step state log)
    obtain ⟨bound, hbound⟩ := Plan.ForkEnds.exists_runFrom hb hmove
    refine ⟨bound, log', fun fuel hfuel => (hbound fuel hfuel).trans ?_⟩
    rw [Plan.afterBranches, joined_eq hlt]
  · rw [hpieces] at halike hcancelled
    obtain ⟨log', hpassed⟩ := Branches.exists_of_texts hc before
      (fun earlier hmem => halike earlier (List.mem_append_left _ hmem))
      (fun earlier hmem => hcancelled earlier (List.mem_append_left _ hmem)) hbefore
      (plan.announced control step state log)
    obtain ⟨⟨status, hresult⟩, houtput⟩ := hlacks
    obtain ⟨⟨_, left, next⟩, hrun, hsame, hdish⟩ :=
      halike piece (List.mem_append_right _ List.mem_cons_self) log'
    dsimp only at hsame hdish
    rw [hresult] at hsame
    subst hsame
    have hrest : plan.ForkEnds control state ⟨piece :: after, join, true⟩ log' (.error fault) next :=
      .noText (hc.isCancelled log') hrun (hdish ▸ houtput)
    have hb := hpassed.append hrest
    rw [← hpieces] at hb
    obtain ⟨bound, hbound⟩ := Plan.ForkEnds.exists_runFrom hb hmove
    exact ⟨bound, next, fun fuel hfuel => hbound fuel hfuel⟩

/-- A fork at commas that reads its pieces as hexadecimal digits and ignores errors. -/
def Recipe.hexPieces : Recipe :=
  ⟨1, [⟨"Fork", [.text ",", .text "-", .bool true], false, false⟩,
    ⟨"From Hex", [], false, false⟩, ⟨"Merge", [], false, false⟩], .default⟩

/-- The steps of the fork that reads hexadecimal digits. -/
def Plan.hexPieces : Plan :=
  ⟨.builtIn, [⟨0, "Fork", [.text ",", .text "-", .bool true], false, false⟩,
    ⟨1, "From Hex", [], false, false⟩, ⟨2, "Merge", [], false, false⟩], .default⟩

/-- How the branch of that fork on a piece ends. -/
def Plan.hexEnd (piece : String) : SectionEnd :=
  let branch := (State.start 3 (.string "4,41")).branchOn Plan.hexPieces.steps piece
  (Plan.hexPieces.runSection 2 Control.default.forBranch branch []).getD
    ⟨.ok .completed, branch, []⟩

private theorem sectionEnds_hexEnd {piece : String}
    (h : (Plan.hexPieces.runSection 2 Control.default.forBranch
      ((State.start 3 (.string "4,41")).branchOn Plan.hexPieces.steps piece) []).isSome = true) :
    Plan.hexPieces.SectionEnds Control.default.forBranch
      ((State.start 3 (.string "4,41")).branchOn Plan.hexPieces.steps piece) []
      (Plan.hexEnd piece) := by
  obtain ⟨finished, hrun⟩ := Option.isSome_iff_exists.mp h
  refine ⟨2, hrun.trans ?_⟩
  rw [Plan.hexEnd, hrun, Option.getD_some]

/-- The piece that is no pair of digits is left out. -/
theorem fork_ignores_errors_hexPieces :
    ∃ bound log', ∀ fuel, bound ≤ fuel →
      Plan.hexPieces.runFrom (fuel + 1) .default 0 (.start 3 (.string "4,41")) [] =
        Plan.hexPieces.runFrom fuel .default 0 ⟨3, .string "A", 0, .empty, 0, 3, .running⟩ log' := by
  have hturn : State.turn (.start 3 (.string "4,41")) Plan.hexPieces.steps .default 0 [] =
      .dispatch ⟨0, "Fork", [.text ",", .text "-", .bool true], false, false⟩ := rfl
  have hsplit : delimiterOf (Registers.empty.substitute ",") = .ok "," :=
    delimiterOf_substitute (by decide +kernel) rfl
  have hjoin : delimiterOf (Registers.empty.substitute "-") = .ok "-" :=
    delimiterOf_substitute (by decide +kernel) rfl
  have hpieces : Flow.pieces "4,41" "," = ["4", "41"] := by decide +kernel
  have hends : ∀ piece ∈ Flow.pieces "4,41" ",",
      Plan.hexPieces.SectionEnds Control.default.forBranch
        ((State.start 3 (.string "4,41")).branchOn Plan.hexPieces.steps piece) []
        (Plan.hexEnd piece) := by
    rw [hpieces]
    intro piece hmem
    simp only [List.mem_cons, List.not_mem_nil, or_false] at hmem
    refine sectionEnds_hexEnd ?_
    rcases hmem with rfl | rfl
    · decide +kernel
    · decide +kernel
  have hfails : (Plan.hexEnd "4").text? = none ∧ (Plan.hexEnd "4").result.isOk = false := by
    decide +kernel
  have hgives : (Plan.hexEnd "41").text? = some "A" := by decide +kernel
  have hlacks : ∀ piece ∈ Flow.pieces "4,41" ",", ∀ fault, ¬ (Plan.hexEnd piece).LacksText fault := by
    rw [hpieces]
    rintro piece hmem fault ⟨⟨status, hresult⟩, hfault⟩
    simp only [List.mem_cons, List.not_mem_nil, or_false] at hmem
    rcases hmem with rfl | rfl
    · simp [hresult, Except.isOk, Except.toBool] at hfails
    · simp [SectionEnd.text?, hresult, hfault, Except.toOption] at hgives
  have h := (fork_ignores_errors rfl Control.uncancelled_default (Nat.le_refl 3) hturn rfl hsplit
    hjoin rfl rfl hends).1 hlacks
  rw [hpieces] at h
  simp only [List.filterMap_cons, List.filterMap_nil, hfails.1, hgives] at h
  exact h

/-- A piece that gives bytes without text takes the fork down, though it ignores errors. -/
theorem Registry.not_ignored_hexPieces :
    ∃ attempt failure, builtIn.Attempts .hexPieces (.string "ff,41") .default attempt ∧
      attempt.result = .error failure ∧ failure.step = 0 ∧ failure.operation = Flow.fork.name ∧
      failure.kind = .dishConversion := by
  have hbake : (builtIn.bake 4 .hexPieces (.string "ff,41") .default).any (fun attempt =>
      match attempt.result with
      | .error failure => decide (failure.step = 0 ∧ failure.operation = Flow.fork.name ∧
          failure.kind = .dishConversion)
      | .ok _ => false) = true := by decide +kernel
  cases hattempt : builtIn.bake 4 .hexPieces (.string "ff,41") .default with
  | none => simp [hattempt] at hbake
  | some attempt =>
    rw [hattempt, Option.any_some] at hbake
    cases hresult : attempt.result with
    | ok outcome => simp [hresult] at hbake
    | error failure =>
      rw [hresult] at hbake
      exact ⟨attempt, failure, ⟨4, hattempt⟩, hresult, of_decide_eq_true hbake⟩

end Kitchen
