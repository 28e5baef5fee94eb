import Kitchen.Proofs.Json.RoundTrip
import Kitchen.Proofs.Recipe.ForkMerge
import Kitchen.Proofs.Run.Dispatch
import Mathlib.Data.Bool.AllAny

/-!
# Structured data between steps

What is printed with line breaks, without any blanks, or by the conversion to text is read back as the
document that it was. To print a document with line breaks and then without blanks comes to the same
as to print it without blanks.
-/

namespace Kitchen

namespace Json

theorem parse_compact {v : Json} (hv : Integral 127 v) : parse v.compact = .ok v := by
  rw [compact, compactChars_eq 0]
  exact parse_layoutChars Layout.isBlank_tight hv

/-- The indentation may be any text of blanks. -/
theorem parse_pretty {v : Json} (hv : Integral 127 v) {indent : String}
    (hindent : ∀ c ∈ indent.toList, isSpace c = true) : parse (v.pretty indent) = .ok v := by
  rw [pretty, prettyChars_eq]
  exact parse_layoutChars (Layout.isBlank_lines hindent) hv

end Json

namespace Dish

/-- A text that writes a document is converted to it. -/
theorem convert_of_parse {text : String} {v : Json} (h : Json.parse text = .ok v) :
    (Dish.string text).convert .json = .ok (.json v) := by
  change ((readJson text).map json).mapError _ = _
  rw [readJson, h]
  rfl

end Dish

/-! ## Bakes -/

section Bakes

variable {plan : Plan} {control : Control} {startFrom : Nat} {state : State} {log : Log} {step : Step}
  {descriptor : Descriptor} {f : List Argument → Dish → Except Fault Dish} {input output : Dish}

/-- The body of an operation that is a function of arguments and input. -/
theorem Operation.bake_ofFunction {args : List Argument} {dish : Dish}
    (hinput : dish.convert descriptor.input = .ok input) (hf : f args input = .ok output)
    (houtput : output.kind = descriptor.output) (context : Context) (log : Log) :
    (ofFunction descriptor f).bake context args dish log = (.ok output, log) := by
  have hsame : output.convert descriptor.output = .ok output := by
    rw [Dish.convert, if_pos houtput]
  rw [bake]
  simp only [ofFunction, ofTransform, hinput, Transform.ofFunction, hf, Except.mapError, hsame]

/-- The move of a step that has such an operation. -/
theorem Plan.move_ofFunction
    (hturn : state.turn plan.steps control startFrom log = .dispatch step)
    (hoperation : plan.registry.operation step.operation = .ofFunction descriptor f)
    (hflow : descriptor.flowControl = false)
    (hinput : state.dish.convert descriptor.input = .ok input)
    (hf : f (state.argsFor step) input = .ok output) (houtput : output.kind = descriptor.output) :
    plan.move control startFrom state log =
      .go { state.advance with dish := output } (plan.announced control step state log) := by
  have hplain : (plan.registry.operation step.operation).descriptor.flowControl = false := by
    rw [hoperation]
    exact hflow
  rw [Plan.move, hturn]
  simp only [Plan.dispatch_baked hplain, hoperation, Operation.bake_ofFunction hinput hf houtput]
  rfl

end Bakes

/-! ## Printing with line breaks and without blanks -/

def Recipe.minify : Recipe := ⟨1, [⟨"JSON Minify", [], false, false⟩], .default⟩

def Recipe.beautifyMinify (indent : String) : Recipe :=
  ⟨1, [⟨"JSON Beautify", [.text indent], false, false⟩, ⟨"JSON Minify", [], false, false⟩], .default⟩

def Step.minifyAt (index : Nat) : Step := ⟨index, "JSON Minify", [], false, false⟩

def Step.beautify (indent : String) : Step := ⟨0, "JSON Beautify", [.text indent], false, false⟩

section Layouts

variable {v : Json} {input : Dish} {control : Control}

/-- The last step of a plan writes its input without blanks. -/
private theorem ends_minify (plan : Plan) (hr : plan.registry = .builtIn) (index : Nat)
    (hstep : plan.steps[index]? = some (.minifyAt index)) (hc : control.Uncancelled)
    (state : State) (hprogress : state.progress = index) (hlast : state.scopeEnd = index + 1)
    (hinput : state.dish.convert .json = .ok (.json v)) (log : Log) :
    ∃ last, plan.EndsAt ⟨control, 0, state, log⟩
      ⟨.ok .completed, { state.advance with dish := .string v.compact }, last⟩ := by
  have hturn : state.turn plan.steps control 0 log = .dispatch (.minifyAt index) := by
    rw [State.turn, hlast, hprogress, if_neg (by omega), hstep]
    simp only [hc.isCancelled, Bool.false_eq_true, if_false]
    rfl
  have hoperation : plan.registry.operation "JSON Minify" = JsonLayout.minifier := by
    rw [hr]
    rfl
  have hmove := Plan.move_ofFunction hturn hoperation rfl hinput rfl rfl
  refine ⟨plan.announced control (.minifyAt index) state log, .of_go hmove (.of_stop ?_)⟩
  have hfinish : State.turn { state.advance with dish := .string v.compact } plan.steps control 0
      (plan.announced control (.minifyAt index) state log) = .finish := by
    rw [State.turn, if_pos (by exact hlast.trans (congrArg (· + 1) hprogress.symm) |>.le)]
  rw [Plan.move, hfinish]

/-- Whatever is printed is read back, and line breaks make no difference to what has none. -/
theorem JsonLayout.printed_reads_back {indent : String} (hv : v.Integral 127)
    (hindent : ∀ c ∈ indent.toList, c ∈ [' ', '\t', '\n', '\r'])
    (hinput : input.convert .json = .ok (.json v)) (hc : control.Uncancelled)
    (hstart : control.startFrom = 0) :
    (∃ text, beautify [.text indent] (.json v) = .ok (.string text) ∧
      (Dish.string text).convert .json = .ok (.json v)) ∧
    (∃ text, (Dish.json v).convert .string = .ok (.string text) ∧
      (Dish.string text).convert .json = .ok (.json v)) ∧
    ∃ text, minify [] (.json v) = .ok (.string text) ∧
      (Dish.string text).convert .json = .ok (.json v) ∧
      (∃ log, Registry.builtIn.Attempts (.beautifyMinify indent) input control
        ⟨.ok ⟨.string text, .completed, 2, .empty, 0⟩, log, true⟩) ∧
      ∃ log, Registry.builtIn.Attempts .minify input control
        ⟨.ok ⟨.string text, .completed, 1, .empty, 0⟩, log, true⟩ := by
  have hblank : ∀ c ∈ indent.toList, Json.isSpace c = true := by
    intro c hc
    have hall : ∀ c ∈ [' ', '\t', '\n', '\r'], Json.isSpace c = true :=
      List.all_iff_forall_prop.mp (by decide)
    exact hall c (hindent c hc)
  have hpretty := Dish.convert_of_parse (Json.parse_pretty hv hblank)
  have hcompact := Dish.convert_of_parse (Json.parse_compact hv)
  have hspaces : ∀ c ∈ Dish.jsonIndent.toList, Json.isSpace c = true :=
    List.all_iff_forall_prop.mp (by decide)
  refine ⟨⟨_, rfl, hpretty⟩, ⟨_, rfl, Dish.convert_of_parse (Json.parse_pretty hv hspaces)⟩,
    v.compact, rfl, hcompact, ?_, ?_⟩
  · let plan : Plan := ⟨.builtIn, [.beautify indent, .minifyAt 1], .default⟩
    have hprepare : Registry.builtIn.prepare (.beautifyMinify indent) = .ok plan := rfl
    have hturn : (State.start 2 input).turn plan.steps control 0 [] = .dispatch (.beautify indent) := by
      change (if control.isCancelled [] then Turn.cancel (.beautify indent) else _) = _
      rw [hc.isCancelled, if_neg Bool.false_ne_true]
      rfl
    -- A text of blanks names no register.
    have hindentArg : Registers.empty.substitute indent = indent := by
      refine Registers.substitute_eq_self _ fun hwithin => ?_
      exact absurd (hblank '$' (hwithin.subset List.mem_cons_self)) (by decide)
    have hbeautify : beautify ((State.start 2 input).argsFor (.beautify indent)) (.json v) =
        .ok (.string (v.pretty indent)) := by
      change beautify [.text (Registers.empty.substitute indent)] (.json v) = _
      rw [hindentArg]
      rfl
    have hoperation : plan.registry.operation "JSON Beautify" = beautifier := rfl
    have hmove := Plan.move_ofFunction hturn hoperation rfl hinput hbeautify rfl
    obtain ⟨last, hlast⟩ := ends_minify plan rfl 1 rfl hc
      { (State.start 2 input).advance with dish := .string (v.pretty indent) } rfl rfl hpretty
      (plan.announced control (.beautify indent) (State.start 2 input) [])
    have hends : plan.EndsAt ⟨control, 0, .start 2 input, []⟩ _ := .of_go hmove hlast
    have hroot : plan.firstStage input control = ⟨control, 0, .start 2 input, []⟩ :=
      plan.firstStage_of_start input hstart
    rw [← hroot] at hends
    exact ⟨last, (Registry.attempts_iff hprepare).mpr ⟨_, hends, rfl⟩⟩
  · let plan : Plan := ⟨.builtIn, [.minifyAt 0], .default⟩
    have hprepare : Registry.builtIn.prepare .minify = .ok plan := rfl
    obtain ⟨last, hends⟩ := ends_minify plan rfl 0 rfl hc (State.start 1 input) rfl rfl hinput []
    have hroot : plan.firstStage input control = ⟨control, 0, .start 1 input, []⟩ :=
      plan.firstStage_of_start input hstart
    rw [← hroot] at hends
    exact ⟨last, (Registry.attempts_iff hprepare).mpr ⟨_, hends, rfl⟩⟩

/-- A document with every kind of character, nested and empty brackets and the largest and the least
integer. -/
theorem JsonLayout.printed_reads_back_nested :
    let v : Json := .object [("z\"\\\n", .array [.null, .bool true, .array [], .object []]),
      ("a", .object [("é\u0001", .number (.whole (-9223372036854775808))),
        ("", .number (.whole 18446744073709551615))])]
    (∃ text, beautify [.text "\t"] (.json v) = .ok (.string text) ∧
      (Dish.string text).convert .json = .ok (.json v)) ∧
    (∃ text, (Dish.json v).convert .string = .ok (.string text) ∧
      (Dish.string text).convert .json = .ok (.json v)) ∧
    ∃ text, minify [] (.json v) = .ok (.string text) ∧
      (Dish.string text).convert .json = .ok (.json v) ∧
      (∃ log, Registry.builtIn.Attempts (.beautifyMinify "\t") (.json v) .default
        ⟨.ok ⟨.string text, .completed, 2, .empty, 0⟩, log, true⟩) ∧
      ∃ log, Registry.builtIn.Attempts .minify (.json v) .default
        ⟨.ok ⟨.string text, .completed, 1, .empty, 0⟩, log, true⟩ := by
  intro v
  have hbrackets : Json.Integral 126 (.array [.null, .bool true, .array [], .object []]) := by
    refine .array ?_
    simp only [List.forall_mem_cons, List.not_mem_nil, false_implies, implies_true, and_true]
    exact ⟨.null _, .bool _ true, .array (List.forall_mem_nil _),
      .object List.nodup_nil (List.forall_mem_nil _)⟩
  have hintegers : Json.Integral 126 (.object [("é\u0001", .number (.whole (-9223372036854775808))),
      ("", .number (.whole 18446744073709551615))]) := by
    refine .object (by decide) ?_
    simp only [List.forall_mem_cons, List.not_mem_nil, false_implies, implies_true, and_true]
    exact ⟨.number _ (by decide) (by decide), .number _ (by decide) (by decide)⟩
  have hv : v.Integral 127 := by
    refine .object (by decide) ?_
    simp only [List.forall_mem_cons, List.not_mem_nil, false_implies, implies_true, and_true]
    exact ⟨hbrackets, hintegers⟩
  exact printed_reads_back hv (List.all_iff_forall_prop.mp (by decide)) rfl
    Control.uncancelled_default rfl

end Layouts

end Kitchen
