import Kitchen.Proofs.Highlight.Extent
import Kitchen.Proofs.Recipe.ForkMerge
import Kitchen.Proofs.Run.Result
import Kitchen.Proofs.Run.Scope

/-!
# Ranges inside the output

Where the steps of a bake keep up with their maps, every range of the input is mapped to a range of the
output. From stage to stage the ranges that the rest of the steps has to map are ranges of the dish.
-/

namespace Kitchen

namespace Plan

/-- No enabled step writes hexadecimal with a delimiter. -/
def WritesNoDelimiter (plan : Plan) : Prop :=
  ∀ step ∈ plan.steps, step.disabled = false → step.operation = Encoding.hexEncoder.name →
    Encoding.delimiterAt step.args 0 = []

variable {recipe : Recipe} {plan : Plan} {step : Step} {ranges mapped : List ByteRange}

/-- A step that maps ranges has one of the operations that follow them. -/
theorem mem_followingForward_of_mapByStep? (hr : plan.registry = .builtIn)
    (hmapped : plan.mapByStep? .forward ranges step = some mapped) :
    (plan.registry.operation step.operation).descriptor.flowControl = false ∧
      plan.registry.operation step.operation ∈ followingForward ∧
      step.operation = (plan.registry.operation step.operation).name := by
  rw [mapByStep?, hr] at hmapped
  rw [hr]
  cases hflow : (Registry.builtIn.operation step.operation).descriptor.flowControl with
  | true =>
    rw [hflow] at hmapped
    cases hmapped
  | false =>
    rw [hflow] at hmapped
    obtain ⟨map, hmap, -⟩ := Option.map_eq_some_iff.mp hmapped
    obtain ⟨hmem, hname⟩ := mem_followingForward hflow hmap
    exact ⟨rfl, hmem, hname.symm⟩

/-- A step that keeps up maps ranges of what it takes to ranges of what it gives. -/
theorem fitsIn_of_mapByStep? (hp : Registry.builtIn.prepare recipe = .ok plan)
    {i : Nat} (hstep : plan.steps[i]? = some step) (henabled : step.disabled = false)
    (hmapped : plan.mapByStep? .forward ranges step = some mapped) {context : Context}
    {registers : Registers} {before after : Dish} {log last : Log}
    (hbake : (plan.registry.operation step.operation).bake context
      (registers.substituteArguments step.args) before log = (.ok after, last))
    (hkeeps : step.KeepsUp before after)
    (hranges : ∀ r ∈ ranges, r.FitsIn plan.WritesNoDelimiter before.size) :
    ∀ r ∈ mapped, r.FitsIn plan.WritesNoDelimiter after.size := by
  obtain ⟨-, hr, -, -⟩ := Registry.prepare_eq_ok hp
  obtain ⟨-, hmem, hname⟩ := mem_followingForward_of_mapByStep? hr hmapped
  obtain ⟨values, hbind⟩ := Registry.exists_bind hp hstep
  rw [← hr] at hbind
  have hfree : plan.WritesNoDelimiter → step.operation = Encoding.hexEncoder.name →
      Encoding.delimiterAt step.args 0 = [] :=
    fun h => h step (List.mem_of_getElem? hstep) henabled
  obtain ⟨there, back, hfollows, hfits⟩ :=
    Operation.exists_follows_fitsIn hmem hname hbind hfree hbake hkeeps
  obtain ⟨map, hmap, hmapping⟩ := hfollows.forward
  rw [mapByStep?_eq .forward hfollows.straight hmap, hmapping] at hmapped
  obtain rfl := Option.some.inj hmapped
  intro r hr
  obtain ⟨s, hs, rfl⟩ := List.mem_map.mp hr
  exact hfits s (hranges s hs)

/-! ## Runs -/

/-- In a run a step takes a dish and gives another one. -/
def Takes (plan : Plan) (root : Stage) (step : Step) (before after : Dish) : Prop :=
  ∃ results stage next log, plan.Passes root results stage ∧ plan.turnAt stage = .dispatch step ∧
    plan.moveAt stage = .go next log ∧ stage.state.dish = before ∧ next.dish = after

/-- The enabled steps from an index on. -/
def enabledFrom (plan : Plan) (i : Nat) : List Step :=
  (plan.steps.drop i).filter fun step => !step.disabled

theorem enabledFrom_of_disabled {i : Nat} (h : plan.steps[i]? = some step)
    (hdisabled : step.disabled = true) : plan.enabledFrom i = plan.enabledFrom (i + 1) := by
  obtain ⟨hi, rfl⟩ := List.getElem?_eq_some_iff.mp h
  rw [enabledFrom, List.drop_eq_getElem_cons hi, List.filter_cons_of_neg (by simp [hdisabled])]
  rfl

theorem enabledFrom_of_enabled {i : Nat} (h : plan.steps[i]? = some step)
    (henabled : step.disabled = false) : plan.enabledFrom i = step :: plan.enabledFrom (i + 1) := by
  obtain ⟨hi, rfl⟩ := List.getElem?_eq_some_iff.mp h
  rw [enabledFrom, List.drop_eq_getElem_cons hi, List.filter_cons_of_pos (by simp [henabled])]
  rfl

/-- The ranges that the steps behind a stage still have to map are ranges of the dish at the stage. -/
structure MapsOn (plan : Plan) (mapped ranges : List ByteRange) (state : State) : Prop where
  rest : (plan.enabledFrom state.progress).foldlM (plan.mapByStep? .forward) ranges = some mapped
  fits : ∀ r ∈ ranges, r.FitsIn plan.WritesNoDelimiter state.dish.size

/-- Behind the last step all ranges have been mapped. -/
theorem MapsOn.eq_of_end {state : State} (h : plan.MapsOn mapped ranges state)
    (hend : state.progress = plan.steps.length) : ranges = mapped := by
  have hnone := h.rest
  rw [hend, enabledFrom, List.drop_length, List.filter_nil, List.foldlM_nil] at hnone
  exact Option.some.inj hnone

/-- A dispatched step of which ranges are mapped is no flow control, and gives one dish for another. -/
theorem MapsOn.dispatch {stage : Stage} (h : plan.MapsOn mapped ranges stage.state)
    (hr : plan.registry = .builtIn) (hturn : plan.turnAt stage = .dispatch step) :
    ∃ next, plan.mapByStep? .forward ranges step = some next ∧
      (plan.enabledFrom (stage.state.progress + 1)).foldlM (plan.mapByStep? .forward) next = some mapped ∧
      plan.moveAt stage = stage.state.baked step ((plan.registry.operation step.operation).bake
        (context stage.control step stage.state) (stage.state.argsFor step) stage.state.dish
        (plan.announced stage.control step stage.state stage.log)) := by
  obtain ⟨-, hstep, henabled⟩ := State.of_turn_dispatch hturn
  have hrest := h.rest
  rw [enabledFrom_of_enabled hstep henabled, List.foldlM_cons] at hrest
  obtain ⟨next, hnext, hlater⟩ := Option.bind_eq_some_iff.mp hrest
  obtain ⟨hflow, -, -⟩ := mem_followingForward_of_mapByStep? hr hnext
  refine ⟨next, hnext, hlater, ?_⟩
  rw [moveAt_eq, hturn]
  exact dispatch_baked hflow _ _ _

/-- A bake starts with ranges of its input, of which nothing has been mapped. -/
theorem mapsOn_firstStage (hp : Registry.builtIn.prepare recipe = .ok plan) {input : Dish} {control : Control}
    (hstart : control.startFrom = 0)
    (hmapped : Registry.builtIn.highlight recipe .forward ranges = .ok (some mapped))
    (hranges : ∀ r ∈ ranges, r.start ≤ r.stop ∧ r.stop ≤ input.size)
    (hempty : plan.WritesNoDelimiter ∨ ∀ r ∈ ranges, r.start < input.size ∨ input.size = 0) :
    plan.MapsOn mapped ranges (plan.firstStage input control).state := by
  rw [plan.firstStage_of_start input hstart]
  constructor
  · rw [Registry.highlight, hp] at hmapped
    exact Except.ok.inj hmapped
  · intro r hmem
    obtain ⟨hordered, hstop⟩ := hranges r hmem
    refine ⟨hordered, hstop, ?_⟩
    rcases hempty with hfree | hstarts
    · exact .inr (.inr hfree)
    · rcases hstarts r hmem with hlt | hzero
      · exact .inl hlt
      · exact .inr (.inl (Nat.le_zero.mp (hzero ▸ hstop)))

/-- Where the steps of a run keep up, the ranges stay inside the dish from stage to stage. -/
theorem Passes.exists_mapsOn (hp : Registry.builtIn.prepare recipe = .ok plan) {root stage : Stage}
    {results : List Dish}
    (hkeeps : ∀ step before after, plan.Takes root step before after → step.KeepsUp before after)
    (hroot : plan.MapsOn mapped ranges root.state) (h : plan.Passes root results stage) :
    ∃ rest, plan.MapsOn mapped rest stage.state := by
  obtain ⟨-, hr, -, -⟩ := Registry.prepare_eq_ok hp
  induction h with
  | start => exact ⟨ranges, hroot⟩
  | @skip results stage hpasses hturn ih =>
    obtain ⟨rest, hrest⟩ := ih
    obtain ⟨step, hstep, hdisabled⟩ := State.of_turn_skip hturn
    refine ⟨rest, ?_, hrest.fits⟩
    rw [← hrest.rest, enabledFrom_of_disabled hstep hdisabled]
    rfl
  | @step results stage step next log hpasses hturn hmove ih =>
    obtain ⟨rest, hrest⟩ := ih
    obtain ⟨later, hlater, hmapped, hbaked⟩ := hrest.dispatch hr hturn
    obtain ⟨-, hstep, henabled⟩ := State.of_turn_dispatch hturn
    have htakes : plan.Takes root step stage.state.dish next.dish :=
      ⟨results, stage, next, log, hpasses, hturn, hmove, rfl, rfl⟩
    rw [hmove] at hbaked
    cases hbake : (plan.registry.operation step.operation).bake (context stage.control step stage.state)
        (stage.state.argsFor step) stage.state.dish
        (plan.announced stage.control step stage.state stage.log) with
    | mk result last =>
      rw [hbake] at hbaked
      cases result with
      | error fault => cases hbaked
      | ok dish =>
        cases hbaked
        exact ⟨later, hmapped,
          fitsIn_of_mapByStep? hp hstep henabled hlater hbake (hkeeps _ _ _ htakes) hrest.fits⟩
  | @fork results stage step split log last outputs hpasses hmove hends ih =>
    obtain ⟨rest, hrest⟩ := ih
    obtain ⟨-, -, -, hbaked⟩ := hrest.dispatch hr (turnAt_of_fork hmove)
    rw [hmove] at hbaked
    exact absurd hbaked.symm (State.baked_ne_fork _)

end Plan

/-- A dish that is served as text or as bytes gets no smaller. -/
theorem Options.size_le_of_serve {options : Options} {status : Status} {state : State} {dish : Dish}
    (hkind : ∀ kind, options.outputKind = some kind → kind.isVerbatim = true)
    (h : options.serve status state = .ok dish) : state.dish.size ≤ dish.size := by
  unfold serve at h
  split at h
  · obtain rfl := Except.ok.inj h
    exact Nat.le_refl _
  · rename_i kind hoption
    split at h
    · obtain rfl := Except.ok.inj h
      exact Nat.le_refl _
    · cases hconvert : state.dish.convert kind with
      | error error =>
        rw [hconvert] at h
        cases h
      | ok converted =>
        rw [hconvert] at h
        cases h
        exact (Dish.kind_size_of_convert (hkind kind hoption) hconvert).2

/-- A bake that completes gives a dish that contains the images of all ranges of its input, if its steps
keep up with their maps. Where hexadecimal is written with a delimiter, the empty range behind the last
byte is left out. -/
theorem Registry.highlight_inside {recipe : Recipe} {plan : Plan} {input : Dish} {control : Control}
    {attempt : Attempt} {outcome : Outcome} {ranges mapped : List ByteRange}
    (hp : builtIn.prepare recipe = .ok plan)
    (hmapped : builtIn.highlight recipe .forward ranges = .ok (some mapped))
    (hattempt : builtIn.Attempts recipe input control attempt) (hstart : control.startFrom = 0)
    (hresult : attempt.result = .ok outcome) (hcompleted : outcome.status = .completed)
    (hkind : ∀ kind, recipe.options.outputKind = some kind → kind.isVerbatim = true)
    (hkeeps : ∀ step before after, plan.Takes (plan.firstStage input control) step before after →
      step.KeepsUp before after)
    (hranges : ∀ r ∈ ranges, r.start ≤ r.stop ∧ r.stop ≤ input.size)
    (hempty : plan.WritesNoDelimiter ∨ ∀ r ∈ ranges, r.start < input.size ∨ input.size = 0) :
    ∀ r ∈ mapped, r.stop ≤ outcome.dish.size := by
  obtain ⟨-, hr, hoptions, -⟩ := prepare_eq_ok hp
  obtain ⟨finished, hends, rfl⟩ := (attempts_iff hp).mp hattempt
  obtain ⟨results, stage, hpasses, hlast⟩ := hends.exists_last hr
  obtain ⟨rest, hrest⟩ :=
    hpasses.exists_mapsOn hp hkeeps (Plan.mapsOn_firstStage hp hstart hmapped hranges hempty)
  -- A bake that completes has passed all steps, so none is left to map the ranges any further.
  have hroot := plan.firstStage_of_start input hstart
  have hscope : (plan.firstStage input control).state.InScope plan.steps := by
    rw [hroot]
    exact ⟨Nat.le_refl _, Nat.zero_le _, Nat.le_refl _⟩
  have hdone : finished.result = .ok .completed :=
    (SectionEnd.toResult_eq_ok hresult).trans (congrArg Except.ok hcompleted)
  have hend := hends.progress_of_completed hr hscope hdone
  obtain ⟨phase, hstate⟩ := hlast.state
  have hserve := SectionEnd.serve_of_toResult hresult
  rw [hstate, hroot] at hend
  rw [hstate] at hserve
  obtain rfl := hrest.eq_of_end hend
  have hsize : stage.state.dish.size ≤ outcome.dish.size :=
    Options.size_le_of_serve (hoptions ▸ hkind) hserve
  exact fun r hmem => Nat.le_trans (hrest.fits r hmem).stop_le hsize

/-- Where no step controls the flow, a run that stands before the first step has just started. -/
private theorem Plan.Passes.eq_root {plan : Plan} {root stage : Stage} {results : List Dish}
    (hflow : ∀ step ∈ plan.steps, (plan.registry.operation step.operation).descriptor.flowControl = false)
    (h : plan.Passes root results stage) (hprogress : stage.state.progress = 0) : stage = root := by
  have hbaked {stage : Stage} {step : Step} (hturn : plan.turnAt stage = .dispatch step) :
      ∃ result, plan.moveAt stage = stage.state.baked step result := by
    obtain ⟨-, hstep, -⟩ := State.of_turn_dispatch hturn
    rw [moveAt_eq, hturn]
    exact ⟨_, dispatch_baked (hflow step (List.mem_of_getElem? hstep)) _ _ _⟩
  cases h with
  | start => rfl
  | skip => cases hprogress
  | step _ hturn hmove =>
    obtain ⟨⟨fault | dish, last⟩, hresult⟩ := hbaked hturn
    · rw [hresult] at hmove
      cases hmove
    · rw [hresult] at hmove
      cases hmove
      cases hprogress
  | fork _ hmove _ =>
    obtain ⟨result, hresult⟩ := hbaked (turnAt_of_fork hmove)
    exact absurd (hresult.symm.trans hmove) (State.baked_ne_fork result)

/-- Bytes in Base64, written as hexadecimal. -/
def Recipe.hexOfBase64 : Recipe :=
  ⟨1, [⟨"From Base64", [], false, false⟩, ⟨"To Hex", [.text "Colon"], false, false⟩], .default⟩

def Plan.hexOfBase64 : Plan :=
  ⟨.builtIn, [⟨0, "From Base64", [.text "Standard", .bool true], false, false⟩,
    ⟨1, "To Hex", [.text "Colon"], false, false⟩], .default⟩

private theorem Plan.keepsUp_hexOfBase64 (step : Step) (before after : Dish)
    (h : hexOfBase64.Takes (hexOfBase64.firstStage (.string "QUJD") .default) step before after) :
    step.KeepsUp before after := by
  obtain ⟨results, stage, next, log, hpasses, hturn, -, rfl, rfl⟩ := h
  obtain ⟨-, hstep, -⟩ := State.of_turn_dispatch hturn
  have hflow : ∀ step ∈ hexOfBase64.steps,
      (hexOfBase64.registry.operation step.operation).descriptor.flowControl = false := by
    decide
  match hprogress : stage.state.progress with
  | 0 =>
    rw [hprogress] at hstep
    cases hstep
    obtain rfl := hpasses.eq_root hflow hprogress
    refine ⟨fun h => absurd h (by decide), fun _ text htext => ?_, fun h => absurd h (by decide)⟩
    cases htext
    have hall : ("QUJD".toList.all Base64.Alphabet.standard.symbols.contains) = true := by decide
    exact fun c hc => List.contains_iff_mem.mp (List.all_eq_true.mp hall c hc)
  | 1 =>
    rw [hprogress] at hstep
    cases hstep
    exact ⟨fun h => absurd h (by decide), fun h => absurd h (by decide), fun h => absurd h (by decide)⟩
  | i + 2 =>
    rw [hprogress] at hstep
    cases hstep

/-- Four symbols are three bytes, and these take eight places. -/
theorem Registry.highlight_inside_hexOfBase64 :
    ∃ plan attempt outcome mapped, builtIn.prepare .hexOfBase64 = .ok plan ∧
      builtIn.highlight .hexOfBase64 .forward [⟨0, 4⟩, ⟨2, 2⟩] = .ok (some mapped) ∧
      builtIn.Attempts .hexOfBase64 (.string "QUJD") .default attempt ∧
      attempt.result = .ok outcome ∧ outcome.status = .completed ∧
      (∀ step before after, plan.Takes (plan.firstStage (.string "QUJD") .default) step before after →
        step.KeepsUp before after) ∧
      ∀ r ∈ mapped, r.stop ≤ outcome.dish.size := by
  have hp : builtIn.prepare .hexOfBase64 = .ok .hexOfBase64 := rfl
  have hmapped : builtIn.highlight .hexOfBase64 .forward [⟨0, 4⟩, ⟨2, 2⟩] =
      .ok (some [⟨0, 8⟩, ⟨0, 8⟩]) := rfl
  have hattempt : builtIn.Attempts .hexOfBase64 (.string "QUJD") .default _ := ⟨3, rfl⟩
  have hkind (kind : Kind) (h : Recipe.hexOfBase64.options.outputKind = some kind) :
      kind.isVerbatim = true := by cases h
  have hranges : ∀ r ∈ [(⟨0, 4⟩ : ByteRange), ⟨2, 2⟩], r.start ≤ r.stop ∧ r.stop ≤ 4 := by decide
  have hstarts : ∀ r ∈ [(⟨0, 4⟩ : ByteRange), ⟨2, 2⟩], r.start < 4 ∨ 4 = 0 := by decide
  exact ⟨_, _, _, _, hp, hmapped, hattempt, rfl, rfl, Plan.keepsUp_hexOfBase64,
    highlight_inside hp hmapped hattempt rfl rfl rfl hkind Plan.keepsUp_hexOfBase64 hranges
      (.inr hstarts)⟩

/-- Base64 with fillings, which the map takes for symbols. -/
def Recipe.fromBase64 : Recipe := ⟨1, [⟨"From Base64", [], false, false⟩], .default⟩

/-- Four characters of which two are fillings hold one byte. -/
theorem Registry.not_highlight_inside_fillings :
    builtIn.highlight .fromBase64 .forward [⟨0, 4⟩] = .ok (some [⟨0, 3⟩]) ∧
      (Dish.string "QQ==").size = 4 ∧
      ∃ attempt outcome, builtIn.Attempts .fromBase64 (.string "QQ==") .default attempt ∧
        attempt.result = .ok outcome ∧ outcome.status = .completed ∧ outcome.dish.size = 1 := by
  have hattempt : builtIn.Attempts .fromBase64 (.string "QQ==") .default _ := ⟨2, rfl⟩
  exact ⟨rfl, rfl, _, _, hattempt, rfl, rfl, rfl⟩

end Kitchen
