import Kitchen.Proofs.Recipe.ForkSection
import Kitchen.Proofs.Registers.Substitution
import Kitchen.Proofs.Run.Stage
import Kitchen.Proofs.Text.Search

/-!
# Forks with nothing between them and their merge

A fork that stands before its merge splits its dish and joins the pieces again. With one delimiter
for both the text of the dish is conserved.
-/

namespace Kitchen

/-! ## Pieces -/

/-- The pieces of a text, joined with the delimiter between them, are the text. -/
theorem Flow.intercalate_pieces (text delimiter : String) :
    delimiter.intercalate (pieces text delimiter) = text := by
  have htoList (pieces : List (List Char)) :
      (pieces.map String.ofList).map String.toList = pieces := by
    simp [Function.comp_def]
  apply String.toList_injective
  rw [String.toList_intercalate, ← Text.joinWith_eq_intercalate, pieces]
  split
  · rename_i hempty
    -- The pieces are the characters then, and nothing comes between them.
    have hdelimiter : delimiter = "" := by simpa using hempty
    have hchars : (text.toList.map fun c => String.ofList [c]).map String.toList =
        text.toList.map fun c => [c] := by simp [Function.comp_def]
    have hflatten : (text.toList.map fun c => [c]).flatten = text.toList := by
      rw [← List.flatMap_def, List.flatMap_singleton']
    rw [hchars, hdelimiter, String.toList_empty, Text.joinWith_nil_eq_flatten, hflatten]
  · rw [htoList, Text.joinWith_splitOn]

/-! ## Forks before their merge -/

section Forks

variable {plan : Plan} {control : Control} {startFrom : Nat} {state : State} {log : Log}

/-- A branch without steps gives its piece back. -/
private theorem branch_ends (hmerge : state.findMerge? plan.steps state.progress =
    some (state.progress + 1)) (piece : String) (log : Log) :
    plan.SectionEnds control (state.branchOn plan.steps piece) log
      ⟨.ok .completed, state.branchOn plan.steps piece, log⟩ := by
  have hsection : state.forkSection plan.steps = (state.progress + 1, state.progress + 1) := by
    rw [State.forkSection, hmerge, Option.getD_some]
  have hturn : ((state.branchOn plan.steps piece).inPhase .running).turn plan.steps control
      ((state.branchOn plan.steps piece).startFrom control) log = .finish := by
    rw [State.branchOn, hsection]
    exact if_pos (Nat.le_refl _)
  refine .of_stop ?_
  rw [Plan.move, hturn]
  rfl

private theorem forkEnds_of_merge (hc : control.Uncancelled)
    (hmerge : state.findMerge? plan.steps state.progress = some (state.progress + 1))
    (split : Split) (log : Log) : plan.ForkEnds control state split log (.ok split.pieces) log := by
  obtain ⟨pieces, join, ignoreErrors⟩ := split
  induction pieces with
  | nil => exact .nil log
  | cons piece rest ih => exact .text (hc.isCancelled log) (branch_ends hmerge piece log) rfl ih

/-- A run goes on behind the merge, its dish the text that it was. -/
theorem ends_of_merge {step : Step} {delimiter text : String} {finished : SectionEnd}
    (hr : plan.registry = .builtIn) (hc : control.Uncancelled)
    (hturn : state.turn plan.steps control startFrom log = .dispatch step)
    (hfork : step.operation = Flow.fork.name)
    (hmerge : state.findMerge? plan.steps state.progress = some (state.progress + 1))
    (hsplit : delimiterOf (textAt (state.argsFor step) 0) = .ok delimiter)
    (hjoin : delimiterOf (textAt (state.argsFor step) 1) = .ok delimiter)
    (htext : state.text = .ok text)
    (hnext : plan.Ends control startFrom
      { state with dish := .string text, progress := state.progress + 2, phase := .running }
      (plan.announced control step state log) finished) :
    plan.Ends control startFrom state log finished := by
  have hmove := move_fork hr hturn hfork hsplit hjoin rfl htext
  have hbranches := forkEnds_of_merge hc hmerge
    ⟨Flow.pieces text delimiter, delimiter, boolAt (state.argsFor step) 2⟩
    (plan.announced control step state log)
  have hbehind : state.behindFork plan.steps = state.progress + 2 := by
    rw [State.behindFork, hmerge]
    rfl
  refine .of_forkJoins hmove hbranches ?_
  rw [joined_eq (Plan.lt_of_move_fork hmove), Flow.intercalate_pieces, hbehind]
  exact hnext

end Forks

/-! ## Conservation -/

/-- A fork with one delimiter for both and its merge. Whether the fork ignores errors may be left
out. -/
def Recipe.forkMerge (delimiter : String) (ignoreErrors : Option Bool) : Recipe :=
  ⟨1, [⟨"Fork", [.text delimiter, .text delimiter] ++ ignoreErrors.toList.map .bool, false, false⟩,
    ⟨"Merge", [], false, false⟩], .default⟩

def Step.forkAt (delimiter : String) (ignoreErrors : Bool) : Step :=
  ⟨0, "Fork", [.text delimiter, .text delimiter, .bool ignoreErrors], false, false⟩

def Plan.forkMerge (delimiter : String) (ignoreErrors : Bool) : Plan :=
  ⟨.builtIn, [.forkAt delimiter ignoreErrors, ⟨1, "Merge", [], false, false⟩], .default⟩

theorem Registry.prepare_forkMerge (delimiter : String) (ignoreErrors : Option Bool) :
    Registry.builtIn.prepare (.forkMerge delimiter ignoreErrors) =
      .ok (.forkMerge delimiter (ignoreErrors.getD false)) := by
  cases ignoreErrors <;> rfl

theorem Plan.firstStage_of_start (plan : Plan) (input : Dish) {control : Control}
    (h : control.startFrom = 0) :
    plan.firstStage input control =
      ⟨plan.control control, 0, .start plan.steps.length input, []⟩ := by
  have hstart : (plan.control control).startFrom = 0 := by
    rw [Plan.control]
    split <;> exact h
  have hinitial : plan.initial input control = State.start plan.steps.length input := by
    rw [initial, h, Nat.zero_min]
    rfl
  rw [firstStage, hinitial, State.startFrom, hstart]
  rfl

/-- A fork and its merge with one delimiter conserve the text of every input. -/
theorem Registry.forkMerge_conserves {delimiter decoded text : String} {input : Dish}
    {control : Control} (ignoreErrors : Option Bool)
    (hdecoded : Text.unescape delimiter = .ok decoded)
    (hplain : ∀ reference : Reference, reference.IsWellFormed →
      ¬ reference.chars <:+: delimiter.toList)
    (htext : input.convert .string = .ok (.string text)) (hc : control.Uncancelled)
    (hstart : control.startFrom = 0) :
    (∃ log, Registry.builtIn.Attempts (.forkMerge delimiter ignoreErrors) input control
      ⟨.ok ⟨.string text, .completed, 2, .empty, 0⟩, log, true⟩) ∧
    decoded.intercalate (Flow.pieces text decoded) = text := by
  refine ⟨?_, Flow.intercalate_pieces text decoded⟩
  let plan := Plan.forkMerge delimiter (ignoreErrors.getD false)
  let fork := Step.forkAt delimiter (ignoreErrors.getD false)
  let joined : State := { State.start 2 input with dish := .string text, progress := 2 }
  have hstate : (State.start 2 input).text = .ok text := by
    rw [State.text, State.start, htext]
  have hturn : (State.start 2 input).turn plan.steps control 0 [] = .dispatch fork := by
    change (if control.isCancelled [] then Turn.cancel fork else .dispatch fork) = _
    rw [hc.isCancelled, if_neg Bool.false_ne_true]
  have hdelimiter : delimiterOf (Registers.empty.substitute delimiter) = .ok decoded := by
    rw [Registers.empty.substitute_of_unreferenced hplain, delimiterOf, hdecoded]
    rfl
  have hfinish (log : Log) : plan.Ends control 0 joined log ⟨.ok .completed, joined, log⟩ :=
    .of_stop rfl
  have hends : plan.EndsAt ⟨control, 0, .start 2 input, []⟩ _ :=
    ends_of_merge rfl hc hturn rfl rfl hdelimiter hdelimiter hstate (hfinish _)
  have hroot : plan.firstStage input control = ⟨control, 0, .start 2 input, []⟩ :=
    plan.firstStage_of_start input hstart
  rw [← hroot] at hends
  exact ⟨_, (attempts_iff (prepare_forkMerge delimiter ignoreErrors)).mpr ⟨_, hends, rfl⟩⟩

theorem Registry.forkMerge_conserves_overlapping :
    let input : Dish := .byteArray [97, 97, 97, 97, 97]
    Text.unescape "\\x61a" = .ok "aa" ∧ input.convert .string = .ok (.string "aaaaa") ∧
      (∃ log, Registry.builtIn.Attempts (.forkMerge "\\x61a" none) input .default
        ⟨.ok ⟨.string "aaaaa", .completed, 2, .empty, 0⟩, log, true⟩) ∧
      Flow.pieces "aaaaa" "aa" = ["", "", "a"] := by
  intro input
  have hdecoded : Text.unescape "\\x61a" = .ok "aa" := rfl
  have htext : input.convert .string = .ok (.string "aaaaa") := rfl
  have hplain (reference : Reference) (_ : reference.IsWellFormed) :
      ¬ reference.chars <:+: "\\x61a".toList :=
    reference.not_within (by decide)
  obtain ⟨hattempts, -⟩ := forkMerge_conserves none hdecoded hplain htext
    Control.uncancelled_default rfl
  exact ⟨hdecoded, htext, hattempts, by decide +kernel⟩

end Kitchen
