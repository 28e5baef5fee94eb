import Kitchen.Proofs.Yaml.Block
import Kitchen.Proofs.Yaml.Written

/-!
# Reading nodes from their tokens

A node in a block is read back from its tokens, whatever follows them; a sequence, which is not
indented, must not be followed by another item. So the document of a mapping whose keys are names reads
back as the mapping, to any depth and whatever its strings hold.
-/

namespace Kitchen.Yaml

open TokenStream

/-- A node is read from its tokens, if four turns are left for each of them and three more. -/
def IsParsed (node : Node) : Prop :=
  ∀ (unindented : Bool) (fuel : Nat) (rest : List Token) (anchors : List (String × Option Node))
    (handles : List (String × String)), 4 * node.tokens.length + 3 ≤ fuel →
    (node.isSequence = true → unindented = true ∧ rest.head? ≠ some .blockEntry) →
    TokenStream.node true unindented fuel ⟨node.tokens ++ rest, anchors, handles⟩ =
      some (node, ⟨rest, anchors, handles⟩)

/-- A token with which the content of a node begins. -/
inductive BeginsContent : Token → Prop where
  | scalar (style : Style) (text : String) : BeginsContent (.scalar style text)
  | flowSequence : BeginsContent .flowSequence
  | blockEntry : BeginsContent .blockEntry
  | blockMapping : BeginsContent .blockMapping

theorem IsBlock.exists_cons {node : Node} (h : IsBlock node) :
    ∃ token more, node.tokens = token :: more ∧ BeginsContent token ∧
      (node.isSequence = false → token ≠ .blockEntry) := by
  cases h with
  | scalar _ => exact ⟨_, _, rfl, .scalar _ _, fun _ => by simp⟩
  | @sequence items _ _ =>
    cases items with
    | nil => exact ⟨_, _, rfl, .flowSequence, fun _ => by simp⟩
    | cons item items =>
      refine ⟨_, _, rfl, .blockEntry, fun h => ?_⟩
      cases h
  | mapping _ _ _ => exact ⟨_, _, rfl, .blockMapping, fun _ => by simp⟩

section Parsing

variable {anchors : List (String × Option Node)} {handles : List (String × String)} {rest : List Token}

/-- A node without an anchor or a tag is its content. -/
theorem node_of_content {token : Token} (htoken : BeginsContent token) {unindented : Bool} {fuel : Nat} :
    TokenStream.node true unindented (fuel + 1) ⟨token :: rest, anchors, handles⟩ =
      content true unindented fuel none false ⟨token :: rest, anchors, handles⟩ := by
  have hproperties : TokenStream.properties ⟨token :: rest, anchors, handles⟩ =
      some (none, none, ⟨token :: rest, anchors, handles⟩) := by
    cases htoken <;> rfl
  rw [TokenStream.node]
  cases hread : content true unindented fuel none false ⟨token :: rest, anchors, handles⟩ with
  | none => cases htoken <;> simp [peek?, hproperties, openAnchor, hread]
  | some read => cases htoken <;> simp [peek?, hproperties, openAnchor, closeAnchor, hread]

theorem isParsed_scalar (style : Style) (text : String) : IsParsed (.scalar none style text) := by
  intro unindented fuel rest anchors handles hfuel _
  obtain ⟨fuel, rfl⟩ : ∃ less, fuel = less + 2 := ⟨fuel - 2, by omega⟩
  rw [Node.tokens, List.singleton_append, node_of_content (.scalar style text), content.eq_def]
  rfl

/-- A node is read unless its first token shows that it is left out. -/
theorem blockNode_tokens {node : Node} (hparsed : IsParsed node) {token : Token} {more : List Token}
    (htokens : node.tokens = token :: more) {stops : List Token} (hstops : stops.contains token = false)
    {unindented : Bool} {fuel : Nat} (hfuel : 4 * node.tokens.length + 4 ≤ fuel)
    (hrest : node.isSequence = true → unindented = true ∧ rest.head? ≠ some .blockEntry) :
    blockNode unindented fuel stops ⟨node.tokens ++ rest, anchors, handles⟩ =
      some (node, ⟨rest, anchors, handles⟩) := by
  obtain ⟨fuel, rfl⟩ : ∃ less, fuel = less + 1 := ⟨fuel - 1, by omega⟩
  have hcontent : (node.tokens ++ rest).isEmpty = false := by rw [htokens]; rfl
  have hpeek : isAt ⟨node.tokens ++ rest, anchors, handles⟩ stops = false := by
    rw [isAt, peek?, htokens]
    exact hstops
  rw [blockNode]
  simp only [hcontent, hpeek, Bool.or_self, Bool.false_eq_true, if_false]
  exact hparsed unindented fuel rest anchors handles (by omega) hrest

/-- The items of a sequence end before a token that is no item. -/
theorem entries_tokens {items : List Node} (hblocks : ∀ item ∈ items, IsBlock item)
    (hflat : ∀ item ∈ items, item.isSequence = false) (hparsed : ∀ item ∈ items, IsParsed item)
    (hrest : rest.head? ≠ some .blockEntry) :
    ∀ fuel, 4 * (itemTokens items).length + 1 ≤ fuel →
      entries true fuel ⟨itemTokens items ++ rest, anchors, handles⟩ = some (items, ⟨rest, anchors, handles⟩) := by
  induction items with
  | nil =>
    intro fuel hfuel
    obtain ⟨fuel, rfl⟩ : ∃ less, fuel = less + 1 := ⟨fuel - 1, by omega⟩
    rw [itemTokens, List.nil_append, entries.eq_def]
    cases rest with
    | nil => rfl
    | cons token rest =>
      have hne : token ≠ .blockEntry := fun h => hrest (congrArg some h)
      cases token <;> first | rfl | exact absurd rfl hne
  | cons item items ih =>
    intro fuel hfuel
    obtain ⟨fuel, rfl⟩ : ∃ less, fuel = less + 1 := ⟨fuel - 1, by omega⟩
    rw [itemTokens, List.length_cons, List.length_append] at hfuel
    obtain ⟨token, more, htokens, hbegins, hentry⟩ := (hblocks item List.mem_cons_self).exists_cons
    have hitem := hflat item List.mem_cons_self
    have hstops : [Token.blockEntry, .key, .value, .blockEnd].contains token = false := by
      have hne := hentry hitem
      cases hbegins with
      | blockEntry => exact absurd rfl hne
      | _ => rfl
    have hread : blockNode false fuel [.blockEntry, .key, .value, .blockEnd]
        ⟨item.tokens ++ (itemTokens items ++ rest), anchors, handles⟩ =
          some (item, ⟨itemTokens items ++ rest, anchors, handles⟩) :=
      blockNode_tokens (hparsed item List.mem_cons_self) htokens hstops (by omega) (by simp [hitem])
    have hmore := ih (fun other hmem => hblocks other (List.mem_cons_of_mem item hmem))
      (fun other hmem => hflat other (List.mem_cons_of_mem item hmem))
      (fun other hmem => hparsed other (List.mem_cons_of_mem item hmem)) fuel (by omega)
    rw [itemTokens, entries.eq_def]
    simp [peek?, TokenStream.next, hread, hmore]

/-- A block mapping ends with its block. -/
theorem pairs_tokens {entries : List (Node × Node)} (hkeys : ∀ entry ∈ entries, IsKey entry.1)
    (hblocks : ∀ entry ∈ entries, IsBlock entry.2) (hparsed : ∀ entry ∈ entries, IsParsed entry.2) :
    ∀ fuel, 4 * (entryTokens entries).length + 1 ≤ fuel →
      pairs fuel ⟨entryTokens entries ++ .blockEnd :: rest, anchors, handles⟩ =
        some (entries, ⟨rest, anchors, handles⟩) := by
  induction entries with
  | nil =>
    intro fuel hfuel
    obtain ⟨fuel, rfl⟩ : ∃ less, fuel = less + 1 := ⟨fuel - 1, by omega⟩
    rfl
  | cons entry entries ih =>
    intro fuel hfuel
    obtain ⟨key, value⟩ := entry
    simp only [entryTokens, List.length_cons, List.length_append] at hfuel
    obtain ⟨fuel, rfl⟩ : ∃ less, fuel = less + 2 := ⟨fuel - 2, by omega⟩
    obtain ⟨token, more, htokens, hbegins, -⟩ := (hblocks (key, value) List.mem_cons_self).exists_cons
    obtain ⟨behind, hbehind⟩ : ∃ behind, behind = entryTokens entries ++ .blockEnd :: rest := ⟨_, rfl⟩
    have hfollows : behind.head? ≠ some .blockEntry := by
      rw [hbehind]
      cases entries <;> simp [entryTokens]
    have hkey : blockNode true (fuel + 1) [.key, .value, .blockEnd]
        ⟨key.tokens ++ .value :: (value.tokens ++ behind), anchors, handles⟩ =
          some (key, ⟨.value :: (value.tokens ++ behind), anchors, handles⟩) := by
      cases hkeys (key, value) List.mem_cons_self with
      | @plain name hname =>
        exact blockNode_tokens (isParsed_scalar .plain name) rfl rfl (by omega) (fun h => by cases h)
    have hvalue : blockNode true fuel [.key, .value, .blockEnd] ⟨value.tokens ++ behind, anchors, handles⟩ =
        some (value, ⟨behind, anchors, handles⟩) := by
      have hstops : [Token.key, .value, .blockEnd].contains token = false := by cases hbegins <;> rfl
      have hparsedValue : IsParsed value := hparsed (key, value) List.mem_cons_self
      exact blockNode_tokens hparsedValue htokens hstops (by omega) (fun _ => ⟨rfl, hfollows⟩)
    have hmore := ih (fun other hmem => hkeys other (List.mem_cons_of_mem _ hmem))
      (fun other hmem => hblocks other (List.mem_cons_of_mem _ hmem))
      (fun other hmem => hparsed other (List.mem_cons_of_mem _ hmem)) fuel (by omega)
    rw [← hbehind] at hmore
    rw [entryTokens, pairs.eq_def]
    simp [peek?, TokenStream.next, ← hbehind, hkey, pairValue, hvalue, hmore]

theorem isParsed_of_isBlock {node : Node} (h : IsBlock node) : IsParsed node := by
  induction h with
  | scalar _ => exact isParsed_scalar _ _
  | @sequence items hitems hflat ih =>
    intro unindented fuel rest anchors handles hfuel hrest
    obtain ⟨rfl, hfollows⟩ := hrest rfl
    obtain ⟨fuel, rfl⟩ : ∃ less, fuel = less + 3 := ⟨fuel - 3, by omega⟩
    cases items with
    | nil =>
      rw [Node.tokens, List.cons_append, node_of_content .flowSequence, content.eq_def]
      rfl
    | cons item items =>
      have htokens : (Node.sequence none (item :: items)).tokens = itemTokens (item :: items) := by
        rw [Node.tokens]
        exact List.cons_ne_nil item items
      rw [htokens] at hfuel ⊢
      have hread : entries true (fuel + 1) ⟨itemTokens (item :: items) ++ rest, anchors, handles⟩ =
          some (item :: items, ⟨rest, anchors, handles⟩) :=
        entries_tokens hitems hflat ih hfollows (fuel + 1) (by omega)
      rw [itemTokens, List.cons_append] at hread ⊢
      rw [node_of_content .blockEntry, content.eq_def]
      simpa [peek?] using hread
  | @mapping entries hne hkeys hvalues ih =>
    intro unindented fuel rest anchors handles hfuel _
    simp only [Node.tokens, List.length_cons, List.length_append] at hfuel
    obtain ⟨fuel, rfl⟩ : ∃ less, fuel = less + 2 := ⟨fuel - 2, by omega⟩
    have hread : pairs fuel ⟨entryTokens entries ++ .blockEnd :: rest, anchors, handles⟩ =
        some (entries, ⟨rest, anchors, handles⟩) :=
      pairs_tokens hkeys hvalues ih fuel (by omega)
    rw [Node.tokens, List.cons_append, node_of_content .blockMapping, content.eq_def]
    simp [peek?, TokenStream.next, hread]

end Parsing

section Documents

variable {entries : List (Node × Node)}

/-- A written document of one mapping is read as its tokens. -/
theorem Token.ofText?_entries (hne : entries ≠ []) (hkeys : ∀ entry ∈ entries, IsKey entry.1)
    (hvalues : ∀ entry ∈ entries, IsBlock entry.2) :
    Token.ofText? (String.ofList (entriesChars 0 entries)) = some (Node.mapping none entries).tokens := by
  have hwritten := isWritten_entries hkeys (fun entry hmem indent => (isWritten_node (hvalues entry hmem) indent).1) 0
  have hallowed : (entriesChars 0 entries).all isAllowed = true :=
    List.all_eq_true.mpr fun c hc => isAllowed_of_isWritable (hwritten c hc)
  have hrun := run_entries hne hkeys hvalues (Nat.lt_add_of_pos_right (n := (entriesChars 0 entries).length) Nat.two_pos)
  have hmark : ∀ rest, entriesChars 0 entries ≠ '\ufeff' :: rest := by
    intro rest hchars
    have hfirst := hwritten '\ufeff' (hchars ▸ List.mem_cons_self)
    exact absurd hfirst (by decide)
  rw [Token.ofText?, String.toList_ofList]
  split
  · next rest hchars => exact absurd hchars (hmark rest)
  · rw [if_pos hallowed, hrun]
    rfl

/-- A mapping is read back from its document. -/
theorem Node.ofText?_print (hne : entries ≠ []) (hkeys : ∀ entry ∈ entries, IsKey entry.1)
    (hvalues : ∀ entry ∈ entries, IsBlock entry.2) :
    Node.ofText? (Node.mapping none entries).print = some (some (.mapping none entries)) := by
  have hparsed : IsParsed (.mapping none entries) := isParsed_of_isBlock (.mapping hne hkeys hvalues)
  have hread := hparsed false (4 * (Node.mapping none entries).tokens.length + 8) [] [] TokenStream.standardHandles
    (by omega) (fun h => by cases h)
  obtain ⟨more, hmore⟩ : ∃ more, (Node.mapping none entries).tokens = .blockMapping :: more :=
    ⟨entryTokens entries ++ [.blockEnd], by rw [Node.tokens]⟩
  rw [List.append_nil, hmore, List.length_cons] at hread
  have hdocument : TokenStream.document (.blockMapping :: more) = some (.mapping none entries, []) := by
    rw [TokenStream.document]
    simp [TokenStream.directives, TokenStream.isAt, TokenStream.peek?, hread]
  rw [Node.ofText?, Node.print, Token.ofText?_entries hne hkeys hvalues, hmore]
  simp [hdocument]

end Documents

end Kitchen.Yaml
