import Kitchen.Proofs.Recipe.Document

/-!
# Saving recipes

A recipe reads back from the document that it is written as. Left out fields are those that have their
default value, and the kind of an argument is read off its node: strings that look like a number, a truth
value or null are quoted.
-/

namespace Kitchen

open Yaml

namespace Yaml

theorem meaning_of_stringStyle {text : String} (h : stringStyle text = .plain) : meaning text = .text := by
  by_contra hmeaning
  have hambiguous : isAmbiguous text = true := by
    simp [isAmbiguous, hmeaning]
  rw [stringStyle] at h
  simp only [hambiguous, if_true] at h
  split at h <;> cases h

theorem value?_ofString (text : String) : Node.value? none (stringStyle text) text = some .text := by
  have hmeaning : (if stringStyle text = .plain then meaning text else .text) = .text := by
    split
    case isTrue h => exact meaning_of_stringStyle h
    case isFalse => rfl
  rw [Node.value?, Node.meaning?, hmeaning]
  rfl

namespace Node

section Records

variable {names : List String} {fields : List (String × Node)}

private theorem exists_knownEntries (hnames : ∀ field ∈ fields, field.1 ∈ names)
    (hnodup : (fields.map Prod.fst).Nodup) {known : List (String × Node)}
    (hknown : ∀ field ∈ fields, known.lookup field.1 = none) :
    ∃ found, knownEntries names (fields.map fun field => (plain field.1, field.2)) known = some found ∧
      ∀ name, found.lookup name = (fields.lookup name).or (known.lookup name) := by
  induction fields generalizing known with
  | nil => exact ⟨known, rfl, fun name => rfl⟩
  | cons field fields ih =>
    obtain ⟨hfirst, hrest⟩ := List.nodup_cons.mp hnodup
    have hother {other : String × Node} (hmem : other ∈ fields) : (other.1 == field.1) = false :=
      beq_eq_false_iff_ne.mpr fun heq => hfirst (heq ▸ List.mem_map_of_mem hmem)
    have hknown' : ∀ other ∈ fields, (field :: known).lookup other.1 = none := by
      intro other hmem
      rw [List.lookup_cons, hother hmem]
      exact hknown other (List.mem_cons_of_mem _ hmem)
    obtain ⟨found, hfound, hlookup⟩ :=
      ih (fun other hmem => hnames other (List.mem_cons_of_mem _ hmem)) hrest hknown'
    refine ⟨found, ?_, fun name => ?_⟩
    · have hmember : names.contains field.1 = true :=
        List.contains_iff_mem.mpr (hnames field List.mem_cons_self)
      have hkey : (plain field.1).asText? = some field.1 := rfl
      have hadd : addField field.1 field.2 known = some (field :: known) := by
        rw [addField, hknown field List.mem_cons_self]
        rfl
      rw [List.map_cons, knownEntries, hkey]
      simp only [Option.bind_eq_bind, Option.bind_some, hmember, if_true, hadd, hfound]
    · rw [hlookup, List.lookup_cons, List.lookup_cons]
      by_cases hname : name = field.1
      · subst hname
        have hnone : fields.lookup field.1 = none :=
          List.lookup_eq_none_iff.mpr fun other hmem => by
            rw [bne, BEq.comm, hother hmem]
            rfl
        simp [hnone]
      · simp [beq_eq_false_iff_ne.mpr hname]

/-- The fields of a record are those that it was made of, whichever are left out. -/
theorem fields?_record (hnames : ∀ field ∈ fields, field.1 ∈ names)
    (hnodup : (fields.map Prod.fst).Nodup) :
    (record fields).fields? names = some (names.map fun name => fields.lookup name) := by
  obtain ⟨found, hfound, hlookup⟩ := exists_knownEntries hnames hnodup fun _ _ => List.lookup_nil
  rw [record, fields?, hfound]
  simp [hlookup]

end Records

end Node
end Yaml

/-! ## Arguments -/

namespace Argument

/-- The kind of an argument shows in its node. -/
theorem ofNode?_toNode {argument : Argument} (h : argument.IsFinite) :
    ofNode? argument.toNode = some argument := by
  cases argument with
  | bool b => cases b <;> decide +kernel
  | number x =>
    have hvalue : Node.value? none .plain (Binary64.yaml.text x) = some (.float x) := by
      rw [Node.value?, Node.meaning?, if_pos rfl, meaning_float (h x rfl)]
      rfl
    simp only [toNode, Node.ofFloat, Node.plain, ofNode?, hvalue]
  | text s => simp only [toNode, Node.ofString, ofNode?, value?_ofString]
  | toggle s option =>
    have hstring : Node.value? none .plain "string" = some .text := by decide +kernel
    have hoption : Node.value? none .plain "option" = some .text := by decide +kernel
    have hreadable : (toggle s option).toNode.isReadable (Recipe.nestingBound - nesting) = true := by
      simp [toNode, Node.record, Node.ofString, Node.plain, Node.isReadable, Node.entriesReadable,
        value?_ofString, hstring, hoption, localTag?, Recipe.nestingBound, nesting]
    simp only [toNode, Node.record, Node.plain, Node.ofString, List.map_cons, List.map_nil]
      at hreadable ⊢
    simp [ofNode?, hreadable, Node.valueEntries, Node.fieldName?, hstring, hoption, Node.addField,
      List.lookup_cons, Node.valueString?, value?_ofString]

end Argument

/-- A list is read back item by item. -/
theorem mapM_map_eq_some {f : α → β} {g : β → Option α} {items : List α}
    (h : ∀ item ∈ items, g (f item) = some item) : (items.map f).mapM g = some items := by
  induction items with
  | nil => rfl
  | cons item items ih =>
    rw [List.map_cons, List.mapM_cons, h item List.mem_cons_self,
      ih fun other hmem => h other (List.mem_cons_of_mem item hmem)]
    rfl

/-! ## Recipes -/

theorem asBool?_ofBool (b : Bool) : (Node.ofBool b).asBool? = some b := by
  cases b <;> decide +kernel

theorem RecipeStep.ofNode?_toNode {step : RecipeStep} (h : ∀ argument ∈ step.args, argument.IsFinite) :
    RecipeStep.ofNode? step.toNode = some step := by
  obtain ⟨operation, args, disabled, breakpoint⟩ := step
  have hargs : (args.map Argument.toNode).mapM Argument.ofNode? = some args :=
    mapM_map_eq_some fun argument hmem => Argument.ofNode?_toNode (h argument hmem)
  rw [ofNode?, toNode, Node.fields?_record]
  · cases disabled <;> cases breakpoint <;>
      simp [List.lookup_cons, Node.read?, Node.ofString, Node.asText?, Node.asList?, hargs, asBool?_ofBool]
  · cases disabled <;> cases breakpoint <;> simp
  · cases disabled <;> cases breakpoint <;> simp

/-- A kind is read back from its label, which is no word for null. -/
theorem Options.outputKindOfNode?_label (kind : Kind) :
    outputKindOfNode? (.ofString kind.label) = some (some kind) := by
  cases kind <;> decide +kernel

theorem Options.ofNode?_toNode (options : Options) : Options.ofNode? options.toNode = some options := by
  obtain ⟨outputKind, ignoreBreakpoints⟩ := options
  rw [ofNode?, toNode, Node.fields?_record]
  · cases outputKind <;>
      simp [List.lookup_cons, Node.read?, asBool?_ofBool, outputKindOfNode?_label]
  · cases outputKind <;> simp
  · cases outputKind <;> simp

namespace Recipe

theorem ofNode?_toNode {recipe : Recipe} (h : recipe.IsStorable) :
    ofNode? recipe.toNode = some recipe := by
  obtain ⟨version, steps, options⟩ := recipe
  have hversion : versionOfNode? (.ofNat version) = some version := by
    have hread : (Node.ofNat version).asNatural? = some version := natural?_toString version
    rw [versionOfNode?, hread]
    exact if_pos (decide_eq_true h.version)
  have hsteps : (steps.map RecipeStep.toNode).mapM RecipeStep.ofNode? = some steps :=
    mapM_map_eq_some fun step hmem => RecipeStep.ofNode?_toNode (h.arguments step hmem)
  rw [ofNode?, toNode, Node.fields?_record (by simp) (by simp)]
  simp [List.lookup_cons, Node.read?, hversion, Node.asList?, hsteps, Options.ofNode?_toNode]

/-- A recipe survives being saved. -/
theorem saved_reads_back {recipe : Recipe} (h : recipe.IsStorable) : ofText? recipe.toText = some recipe := by
  rw [toText, ofText?, ofText?_print_toNode h]
  exact ofNode?_toNode h

/-- Texts that look like other scalars. -/
private def lookalikes : Recipe :=
  ⟨2, [⟨"3", [.toggle "null" "", .text "true", .bool true], true, false⟩], ⟨none, false⟩⟩

private theorem isStorable_lookalikes : lookalikes.IsStorable where
  version := by decide
  arguments := by simp [lookalikes, Argument.IsFinite]

theorem saved_reads_back_lookalikes : lookalikes.IsStorable ∧ ofText? lookalikes.toText = some lookalikes :=
  ⟨isStorable_lookalikes, saved_reads_back isStorable_lookalikes⟩

end Recipe
end Kitchen
