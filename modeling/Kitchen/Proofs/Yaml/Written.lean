import Kitchen.Proofs.Yaml.Block

/-!
# Written characters

A written node holds no characters but those that can be written as they are, which documents may hold.
-/

namespace Kitchen.Yaml

/-- All characters of a text can be written as they are. -/
def IsWritten (s : List Char) : Prop := ∀ c ∈ s, isWritable c = true

theorem isAllowed_of_isWritable {c : Char} (h : isWritable c = true) : isAllowed c = true := by
  simp only [isWritable, isAllowed, Bool.or_eq_true] at h ⊢
  tauto

namespace IsWritten

variable {s t : List Char} {c : Char}

theorem nil : IsWritten [] := by
  intro c hc
  cases hc

theorem cons (hc : isWritable c = true) (hs : IsWritten s) : IsWritten (c :: s) :=
  List.forall_mem_cons.mpr ⟨hc, hs⟩

theorem append (hs : IsWritten s) (ht : IsWritten t) : IsWritten (s ++ t) :=
  List.forall_mem_append.mpr ⟨hs, ht⟩

theorem margin (n : Nat) : IsWritten (Yaml.margin n) := by
  intro c hc
  rw [List.eq_of_mem_replicate hc]
  rfl

end IsWritten

/-! ## Scalars -/

theorem isWritten_singleQuotedChars (indent : Nat) {s : List Char} (hs : IsWritten s) (lineStart : Bool) :
    IsWritten (singleQuotedChars indent lineStart s) := by
  induction s generalizing lineStart with
  | nil =>
    rw [singleQuotedChars]
    split
    · exact .margin indent
    · exact .nil
  | cons c s ih =>
    obtain ⟨hc, hs⟩ := List.forall_mem_cons.mp hs
    have hmargin : IsWritten (if lineStart then margin indent else []) := by
      split
      · exact .margin indent
      · exact .nil
    have hquoted : IsWritten (if c = '\'' then ['\'', '\''] else [c]) := by
      split
      · exact .cons rfl (.cons rfl .nil)
      · exact .cons hc .nil
    rw [singleQuotedChars]
    split
    · exact .cons hc (ih hs true)
    · exact (hmargin.append hquoted).append (ih hs false)

theorem isWritten_literalChars (indent : Nat) {s : List Char} (hs : IsWritten s) (lineStart : Bool) :
    IsWritten (literalChars indent lineStart s) := by
  induction s generalizing lineStart with
  | nil => exact .nil
  | cons c s ih =>
    obtain ⟨hc, hs⟩ := List.forall_mem_cons.mp hs
    rw [literalChars]
    split
    · exact .cons hc (ih hs true)
    · split
      · exact (IsWritten.margin indent).append (.cons hc (ih hs false))
      · exact .cons hc (ih hs false)

theorem isWritten_scalar {style : Style} {text : String} (h : IsFaithful style text) (indent : Nat) :
    IsWritten (scalarChars indent style text) := by
  cases h with
  | plain hallowed _ =>
    have hchars := (isPlainTail_of_allowsPlain hallowed).chars
    exact IsWritten.append (fun c hc => (hchars c hc).1) (.cons rfl .nil)
  | singleQuoted hquotable =>
    apply IsWritten.append _ (.cons rfl (.cons rfl .nil))
    exact .cons rfl (isWritten_singleQuotedChars indent (fun c hc => (hquotable.chars c hc).1) false)
  | doubleQuoted _ =>
    apply IsWritten.append _ (.cons rfl (.cons rfl .nil))
    apply IsWritten.cons rfl
    intro d hd
    obtain ⟨c, -, hmem⟩ := List.mem_flatMap.mp hd
    exact isWritable_of_mem_doubleQuotedChar hmem
  | literal hwritable hne =>
    have hhint : IsWritten (if needsHint text.toList then ['2'] else []) := by
      split
      · exact .cons rfl .nil
      · exact .nil
    have hsign : IsWritten (chompingOf text.toList).sign := by
      cases chompingOf text.toList
      · exact .cons rfl .nil
      · exact .nil
      · exact .cons rfl .nil
    have hend : IsWritten (lineEnd text.toList) := by
      rw [lineEnd]
      split
      · exact .nil
      · exact .cons rfl .nil
    rw [scalarChars_literal]
    exact .cons rfl ((hhint.append hsign).append (.cons rfl ((isWritten_literalChars indent hwritable true).append hend)))

/-! ## Nodes -/

theorem IsName.isWritten {name : String} (h : IsName name) : IsWritten name.toList := by
  intro c hc
  have hpart := h.chars c hc
  change (decide ('A' ≤ c ∧ c ≤ 'Z') || decide ('a' ≤ c) && decide (c ≤ 'z') ||
    decide ('0' ≤ c) && decide (c ≤ '9') || c == '_') = true at hpart
  simp only [Bool.or_eq_true, Bool.and_eq_true, decide_eq_true_eq, beq_iff_eq] at hpart
  rcases hpart with ((⟨hlow, hhigh⟩ | ⟨hlow, hhigh⟩) | ⟨hlow, hhigh⟩) | rfl
  · exact isWritable_of_range 'A' 'Z' hlow hhigh (by decide) (by decide)
  · exact isWritable_of_range 'a' 'z' hlow hhigh (by decide) (by decide)
  · exact isWritable_of_range '0' '9' hlow hhigh (by decide) (by decide)
  · rfl

theorem isWritten_entries {entries : List (Node × Node)} (hkeys : ∀ entry ∈ entries, IsKey entry.1)
    (h : ∀ entry ∈ entries, ∀ indent, IsWritten (valueChars indent entry.2)) (indent : Nat) :
    IsWritten (entriesChars indent entries) := by
  induction entries with
  | nil => exact .nil
  | cons entry rest ih =>
    obtain ⟨key, value⟩ := entry
    have hrest := ih (fun other hmem => hkeys other (List.mem_cons_of_mem _ hmem))
      (fun other hmem => h other (List.mem_cons_of_mem _ hmem))
    have hmargin : IsWritten (if rest.isEmpty then [] else margin indent) := by
      split
      · exact .nil
      · exact .margin indent
    cases hkeys (key, value) List.mem_cons_self with
    | plain hname =>
      rw [entriesChars]
      exact ((hname.isWritten.append (.cons rfl (h _ List.mem_cons_self indent))).append hmargin).append hrest

theorem isWritten_items {items : List Node} (h : ∀ item ∈ items, ∀ indent, IsWritten (itemChars indent item))
    (indent : Nat) : IsWritten (itemsChars indent items) := by
  induction items with
  | nil => exact .nil
  | cons item rest ih =>
    have hrest := ih fun other hmem => h other (List.mem_cons_of_mem _ hmem)
    rw [itemsChars]
    exact ((IsWritten.margin indent).append (.cons rfl (.cons rfl (h item List.mem_cons_self indent)))).append hrest

theorem isWritten_node {node : Node} (h : IsBlock node) :
    ∀ indent, IsWritten (valueChars indent node) ∧ (node.isSequence = false → IsWritten (itemChars indent node)) := by
  induction h with
  | scalar hfaithful =>
    intro indent
    have hscalar := isWritten_scalar hfaithful (indent + step)
    exact ⟨.cons rfl hscalar, fun _ => hscalar⟩
  | @sequence items hitems hflat ih =>
    intro indent
    refine ⟨?_, fun h => ?_⟩
    · cases items with
      | nil => exact .cons rfl (.cons rfl (.cons rfl (.cons rfl .nil)))
      | cons item items =>
        exact .cons rfl (isWritten_items (fun item hmem indent => (ih item hmem indent).2 (hflat item hmem)) indent)
    · cases h
  | @mapping entries hne hkeys hvalues ih =>
    intro indent
    have hentries := isWritten_entries hkeys (fun entry hmem indent => (ih entry hmem indent).1) (indent + step)
    obtain ⟨entry, rest, rfl⟩ := List.exists_cons_of_ne_nil hne
    exact ⟨.cons rfl ((IsWritten.margin _).append hentries), fun _ => hentries⟩

end Kitchen.Yaml
