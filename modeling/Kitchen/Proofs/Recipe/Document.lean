import Kitchen.Proofs.Yaml.Parsing
import Kitchen.Proofs.Yaml.Style
import Kitchen.Recipe.OfNode
import Kitchen.Recipe.ToNode

/-!
# Recipes as documents

The nodes that recipes are written as stand in blocks, and so their documents are read back as the nodes
themselves.
-/

namespace Kitchen

open Yaml

namespace Yaml.Node

theorem isBlock_ofString (text : String) : IsBlock (ofString text) := .scalar (isFaithful_stringStyle text)

theorem isBlock_ofBool (b : Bool) : IsBlock (ofBool b) := .scalar (isFaithful_bool b)

theorem isBlock_ofNat (n : Nat) : IsBlock (ofNat n) := .scalar (isFaithful_natural n)

section Records

variable {fields : List (String × Node)}

theorem isKey_record (hnames : ∀ field ∈ fields, IsName field.1) :
    ∀ entry ∈ fields.map fun field => (plain field.1, field.2), IsKey entry.1 := by
  intro entry hmem
  obtain ⟨field, hfield, rfl⟩ := List.mem_map.mp hmem
  exact .plain (hnames field hfield)

theorem isBlock_values (hvalues : ∀ field ∈ fields, IsBlock field.2) :
    ∀ entry ∈ fields.map fun field => (plain field.1, field.2), IsBlock entry.2 := by
  intro entry hmem
  obtain ⟨field, hfield, rfl⟩ := List.mem_map.mp hmem
  exact hvalues field hfield

theorem isBlock_record (hne : fields ≠ []) (hnames : ∀ field ∈ fields, IsName field.1)
    (hvalues : ∀ field ∈ fields, IsBlock field.2) : IsBlock (record fields) :=
  .mapping (mt List.map_eq_nil_iff.mp hne) (isKey_record hnames) (isBlock_values hvalues)

/-- A record is read back from its document. -/
theorem ofText?_record (hne : fields ≠ []) (hnames : ∀ field ∈ fields, IsName field.1)
    (hvalues : ∀ field ∈ fields, IsBlock field.2) : ofText? (record fields).print = some (some (record fields)) :=
  ofText?_print (mt List.map_eq_nil_iff.mp hne) (isKey_record hnames) (isBlock_values hvalues)

end Records

end Yaml.Node

private theorem isName_of_check {name : String} (h : (!name.toList.isEmpty &&
    decide (name.toList.length ≤ Scanner.keyLimit) && name.toList.all fun c => c.isAlphanum || c == '_') = true) :
    IsName name := by
  simp only [Bool.and_eq_true, Bool.not_eq_true', decide_eq_true_eq, List.all_eq_true] at h
  exact ⟨List.isEmpty_eq_false_iff.mp h.1.1, h.1.2, h.2⟩

/-- The fields of a recipe, its steps, its options and a toggled text are named. -/
theorem isName_fields : (IsName "version" ∧ IsName "steps" ∧ IsName "options") ∧
    (IsName "op" ∧ IsName "args" ∧ IsName "disabled" ∧ IsName "breakpoint") ∧
      (IsName "output_type" ∧ IsName "ignore_breakpoints") ∧ IsName "string" ∧ IsName "option" := by
  refine ⟨⟨?_, ?_, ?_⟩, ⟨?_, ?_, ?_, ?_⟩, ⟨?_, ?_⟩, ?_, ?_⟩ <;> exact isName_of_check (by decide)

/-- No argument is a number that is not finite. -/
def Argument.IsFinite (argument : Argument) : Prop := ∀ x, argument = .number x → x.isFinite = true

theorem Argument.isBlock_toNode {argument : Argument} (h : argument.IsFinite) :
    IsBlock argument.toNode ∧ argument.toNode.isSequence = false := by
  cases argument with
  | bool b => exact ⟨Node.isBlock_ofBool b, rfl⟩
  | number x => exact ⟨.scalar (isFaithful_float (h x rfl)), rfl⟩
  | text s => exact ⟨Node.isBlock_ofString s, rfl⟩
  | toggle s option =>
    refine ⟨Node.isBlock_record (List.cons_ne_nil _ _) ?_ ?_, rfl⟩
    · simp [isName_fields]
    · simp [Node.isBlock_ofString]

theorem isBlock_sequence_map {f : α → Node} {items : List α}
    (h : ∀ item ∈ items, IsBlock (f item) ∧ (f item).isSequence = false) : IsBlock (.sequence none (items.map f)) := by
  constructor
  · intro node hmem
    obtain ⟨item, hitem, rfl⟩ := List.mem_map.mp hmem
    exact (h item hitem).1
  · intro node hmem
    obtain ⟨item, hitem, rfl⟩ := List.mem_map.mp hmem
    exact (h item hitem).2

theorem RecipeStep.isBlock_toNode {step : RecipeStep} (h : ∀ argument ∈ step.args, argument.IsFinite) :
    IsBlock step.toNode ∧ step.toNode.isSequence = false := by
  obtain ⟨operation, args, disabled, breakpoint⟩ := step
  have hargs : IsBlock (.sequence none (args.map Argument.toNode)) :=
    isBlock_sequence_map fun argument hmem => Argument.isBlock_toNode (h argument hmem)
  refine ⟨Node.isBlock_record (by simp) ?_ ?_, rfl⟩
  · cases disabled <;> cases breakpoint <;> simp [isName_fields]
  · cases disabled <;> cases breakpoint <;> simp [Node.isBlock_ofString, Node.isBlock_ofBool, hargs]

theorem Options.isBlock_toNode (options : Options) : IsBlock options.toNode := by
  obtain ⟨outputKind, ignoreBreakpoints⟩ := options
  apply Node.isBlock_record (by simp)
  · cases outputKind <;> simp [isName_fields]
  · cases outputKind <;> simp [Node.isBlock_ofString, Node.isBlock_ofBool]

namespace Recipe

/-- A recipe that documents can hold: its version has 32 bits, and all numbers among its arguments are
finite. -/
structure IsStorable (recipe : Recipe) : Prop where
  version : recipe.version < versionBound
  arguments : ∀ step ∈ recipe.steps, ∀ argument ∈ step.args, argument.IsFinite

/-- The node of a recipe is read back from its document. -/
theorem ofText?_print_toNode {recipe : Recipe} (h : recipe.IsStorable) :
    Node.ofText? recipe.toNode.print = some (some recipe.toNode) := by
  have hsteps : IsBlock (.sequence none (recipe.steps.map RecipeStep.toNode)) :=
    isBlock_sequence_map fun step hmem => RecipeStep.isBlock_toNode (h.arguments step hmem)
  apply Node.ofText?_record (List.cons_ne_nil _ _)
  · simp [isName_fields]
  · simp [Node.isBlock_ofNat, hsteps, Options.isBlock_toNode]

end Recipe
end Kitchen
