import Kitchen.Proofs.Yaml.Scanning

/-!
# Scanning nodes in blocks

The tokens of a node, and that its written form is read as them. What follows a node is given by the
lines behind it; a mapping ends before them, because they stand to the left of its keys.
-/

namespace Kitchen.Yaml

open Scanner

/-! ## Nodes and their tokens -/

mutual

/-- The tokens of a node in a block. Sequences are not indented. -/
def Node.tokens : Node → List Token
  | .scalar _ style text => [.scalar style text]
  | .sequence _ [] => [.flowSequence, .flowSequenceEnd]
  | .sequence _ items => itemTokens items
  | .mapping _ entries => .blockMapping :: (entryTokens entries ++ [.blockEnd])
  | .cycle => []

def itemTokens : List Node → List Token
  | [] => []
  | item :: rest => .blockEntry :: (item.tokens ++ itemTokens rest)

def entryTokens : List (Node × Node) → List Token
  | [] => []
  | (key, value) :: rest => .key :: (key.tokens ++ .value :: (value.tokens ++ entryTokens rest))

end

/-- A key that is written without an indicator. -/
inductive IsKey : Node → Prop where
  | plain {name : String} (h : IsName name) : IsKey (.plain name)

def Node.isSequence : Node → Bool
  | .sequence _ _ => true
  | _ => false

/-- Nodes that stand in blocks: faithful scalars, sequences of other nodes, and mappings with names for
keys, all without tags. -/
inductive IsBlock : Node → Prop where
  | scalar {style : Style} {text : String} (h : IsFaithful style text) : IsBlock (.scalar none style text)
  | sequence {items : List Node} (hitems : ∀ item ∈ items, IsBlock item)
      (hflat : ∀ item ∈ items, item.isSequence = false) : IsBlock (.sequence none items)
  | mapping {entries : List (Node × Node)} (hne : entries ≠ []) (hkeys : ∀ entry ∈ entries, IsKey entry.1)
      (hvalues : ∀ entry ∈ entries, IsBlock entry.2) : IsBlock (.mapping none entries)

section Scans

variable {out tokens : List Token} {indents outer : List Nat} {column : Nat} {lines : List Char}

/-- Behind a key the node is read as its tokens. -/
def ScansValue (out : List Token) (node : Node) : Prop :=
  ∀ (cursor : Cursor) (tokens : List Token) (indent : Nat) (outer : List Nat) (lines : List Char),
    cursor.rest = valueChars indent node ++ lines → indent ≤ cursor.column →
      Lines out indent lines (tokens ++ node.tokens) (indent :: outer) →
      (inBlocks cursor tokens (indent :: outer) none false).Scans out

/-- Behind a hyphen the node is read as its tokens. -/
def ScansItem (out : List Token) (node : Node) : Prop :=
  ∀ (cursor : Cursor) (tokens : List Token) (indent : Nat) (outer : List Nat) (lines : List Char),
    cursor.rest = ' ' :: (itemChars indent node ++ lines) → cursor.column = indent + 1 →
      Lines out indent lines (tokens ++ node.tokens) (indent :: outer) →
      (inBlocks cursor tokens (indent :: outer) none true).Scans out

/-- The items of a sequence take lines of their own. -/
theorem lines_items {items : List Node} (h : ∀ item ∈ items, ScansItem out item)
    (hlines : Lines out column lines (tokens ++ itemTokens items) (column :: outer)) :
    Lines out column (itemsChars column items ++ lines) tokens (column :: outer) := by
  induction items generalizing tokens with
  | nil => simpa [itemTokens, itemsChars] using hlines
  | cons item rest ih =>
    have hrest : Lines out column (itemsChars column rest ++ lines) (tokens ++ .blockEntry :: item.tokens)
        (column :: outer) := by
      apply ih fun other hmem => h other (List.mem_cons_of_mem item hmem)
      simpa [itemTokens] using hlines
    refine ⟨column, '-' :: ' ' :: (itemChars column item ++ (itemsChars column rest ++ lines)), ?_,
      Nat.le_refl column, startsToken_cons (by decide) (by decide) (by decide) _, ?_⟩
    · simp [itemsChars]
    · intro cursor hcursor hcolumn
      subst hcolumn
      apply scans_entry hcursor
      apply h item List.mem_cons_self cursor.next _ cursor.column outer (itemsChars cursor.column rest ++ lines)
      · rw [Cursor.rest_next, hcursor, List.tail_cons]
      · rfl
      · simpa using hrest

theorem isBoundary_valueChars (indent : Nat) (node : Node) (text : List Char) :
    isBoundary (valueChars indent node ++ text).head? = true := by
  cases node with
  | scalar tag style scalar => rfl
  | sequence tag items => cases items <;> rfl
  | mapping tag entries => cases entries <;> rfl
  | cycle => rfl

theorem startsToken_entries {entries : List (Node × Node)} (hne : entries ≠ [])
    (hkeys : ∀ entry ∈ entries, IsKey entry.1) (column : Nat) (text : List Char) :
    StartsToken (entriesChars column entries ++ text) := by
  obtain ⟨⟨key, value⟩, rest, rfl⟩ := List.exists_cons_of_ne_nil hne
  cases hkeys (key, value) List.mem_cons_self with
  | plain hname =>
    rw [entriesChars]
    simp only [List.append_assoc]
    exact hname.startsToken _

/-- The entries of a mapping are read from its first key, which may open it. -/
theorem scans_entries {entries : List (Node × Node)} (hne : entries ≠ []) (hkeys : ∀ entry ∈ entries, IsKey entry.1)
    (h : ∀ entry ∈ entries, ScansValue out entry.2) {announced : List Token}
    (hopens : Opens indents column announced (column :: outer))
    (hlines : Lines out column lines (tokens ++ announced ++ entryTokens entries) (column :: outer))
    {cursor : Cursor} (hrest : cursor.rest = entriesChars column entries ++ lines) (hcolumn : cursor.column = column) :
    (inBlocks cursor tokens indents none true).Scans out := by
  induction entries generalizing tokens announced indents cursor with
  | nil => exact absurd rfl hne
  | cons entry rest ih =>
    obtain ⟨key, value⟩ := entry
    have hrestKeys : ∀ entry ∈ rest, IsKey entry.1 := fun entry hmem => hkeys entry (List.mem_cons_of_mem _ hmem)
    cases hkeys (key, value) List.mem_cons_self with
    | @plain name hname =>
      subst hcolumn
      obtain ⟨behind, hbehind⟩ : ∃ behind, behind = (if rest.isEmpty then [] else margin cursor.column) ++
          entriesChars cursor.column rest ++ lines := ⟨_, rfl⟩
      obtain ⟨read, hread⟩ : ∃ read, read = tokens ++ announced ++ [.key, .scalar .plain name, .value] := ⟨_, rfl⟩
      have hnext : Lines out cursor.column behind (read ++ value.tokens) (cursor.column :: outer) := by
        have hlines' : Lines out cursor.column lines (read ++ value.tokens ++ entryTokens rest)
            (cursor.column :: outer) := by
          simpa [hread, entryTokens, Node.plain, Node.tokens] using hlines
        by_cases hempty : rest = []
        · subst hempty
          simpa [hbehind, entriesChars, entryTokens] using hlines'
        · refine ⟨cursor.column, entriesChars cursor.column rest ++ lines, ?_, Nat.le_refl _,
            startsToken_entries hempty hrestKeys _ lines, ?_⟩
          · simp [hbehind, hempty]
          · intro next hnextRest hnextColumn
            apply ih hempty hrestKeys (fun entry hmem => h entry (List.mem_cons_of_mem _ hmem))
              (Opens.within cursor.column outer) _ hnextRest hnextColumn
            simpa using hlines'
      have htext : cursor.rest = name.toList ++ ':' :: (valueChars cursor.column value ++ behind) := by
        rw [hrest, entriesChars, hbehind]
        simp only [List.append_assoc, List.cons_append]
      apply scans_key hname (isBoundary_valueChars _ value behind) hopens htext
      rw [← hread]
      apply h (.plain name, value) List.mem_cons_self _ _ _ _ behind _ _ hnext
      · rw [Cursor.rest_skip, htext, ← List.drop_drop, List.drop_left]
        rfl
      · exact Nat.le_add_right _ _

/-! ## Nodes -/

theorem scans_sequence {items : List Node} (h : ∀ item ∈ items, ScansItem out item) :
    ScansValue out (.sequence none items) := by
  intro cursor tokens indent outer lines hrest hcolumn hlines
  cases items with
  | nil =>
    apply scans_emptySequence hrest _ hlines
    intro i hi
    exact Option.some.inj hi ▸ hcolumn
  | cons item items =>
    exact (lines_items h hlines).scans hrest (isBehind_none _)

theorem scans_mapping {entries : List (Node × Node)} (hne : entries ≠ []) (hkeys : ∀ entry ∈ entries, IsKey entry.1)
    (h : ∀ entry ∈ entries, ScansValue out entry.2) :
    ScansValue out (.mapping none entries) ∧ ScansItem out (.mapping none entries) := by
  have hresumes : ∀ (tokens : List Token) (indent : Nat) (outer : List Nat) (lines : List Char),
      Lines out indent lines (tokens ++ (Node.mapping none entries).tokens) (indent :: outer) →
      Resumes out (indent + step) (entriesChars (indent + step) entries ++ lines) tokens (indent :: outer) := by
    intro tokens indent outer lines hlines cursor hrest hcolumn
    have hless : indent < indent + step := Nat.lt_add_of_pos_right (by decide)
    have hopens : Opens (indent :: outer) (indent + step) [.blockMapping]
        ((indent + step) :: indent :: outer) := by
      apply Opens.first
      intro i hi
      exact Option.some.inj hi ▸ hless
    apply scans_entries hne hkeys h hopens _ hrest hcolumn
    apply Lines.close hless
    simpa [Node.tokens] using hlines
  have hstart := fun column text => startsToken_entries hne hkeys column text
  constructor
  · intro cursor tokens indent outer lines hrest hcolumn hlines
    have hopened : Lines out (indent + step) (margin (indent + step) ++ (entriesChars (indent + step) entries ++ lines))
        tokens (indent :: outer) :=
      ⟨indent + step, _, rfl, Nat.le_refl _, hstart _ _, hresumes tokens indent outer lines hlines⟩
    apply hopened.scans _ (isBehind_none _)
    rw [hrest, valueChars]
    · simp
    · exact hne
  · intro cursor tokens indent outer lines hrest hcolumn hlines
    rw [itemChars] at hrest
    · have hbehind : (cursor.skip 1).rest = entriesChars (indent + step) entries ++ lines := by
        rw [Cursor.rest_skip, hrest]
        rfl
      have hscans := hresumes tokens indent outer lines hlines (cursor.skip 1) hbehind (by simp [hcolumn, step])
      apply Scans.of_settle _ _ hscans
      · rw [settle_margin (hstart _ lines) 1 hrest (isBehind_none _),
          settle_word (hbehind ▸ hstart _ lines) (isBehind_none _)]
      · simp [inBlocks]
    · exact hne

/-- A node in a block is read as its tokens, behind a key and, unless it is a sequence, behind a hyphen. -/
theorem scans_node {node : Node} (h : IsBlock node) :
    ScansValue out node ∧ (node.isSequence = false → ScansItem out node) := by
  induction h with
  | scalar hfaithful =>
    constructor
    · intro cursor tokens indent outer lines hrest hcolumn hlines
      exact scans_scalar hfaithful hrest hcolumn hlines
    · intro _ cursor tokens indent outer lines hrest hcolumn hlines
      exact scans_scalar hfaithful hrest (hcolumn ▸ Nat.le_succ indent) hlines
  | sequence hitems hflat ih =>
    constructor
    · apply scans_sequence
      intro item hmem
      exact (ih item hmem).2 (hflat item hmem)
    · intro hsequence
      cases hsequence
  | mapping hne hkeys hvalues ih =>
    obtain ⟨hvalue, hitem⟩ := scans_mapping hne hkeys fun entry hmem => (ih entry hmem).1
    exact ⟨hvalue, fun _ => hitem⟩

end Scans

/-- A document of one mapping is read as its tokens. -/
theorem run_entries {entries : List (Node × Node)} (hne : entries ≠ []) (hkeys : ∀ entry ∈ entries, IsKey entry.1)
    (hvalues : ∀ entry ∈ entries, IsBlock entry.2) {fuel : Nat} (hfuel : (entriesChars 0 entries).length < fuel) :
    (Scanner.start (entriesChars 0 entries)).run fuel = some (Node.mapping none entries).tokens.toArray := by
  have hopens : Opens [] 0 [.blockMapping] [0] := Opens.first fun indent hindent => by cases hindent
  have hend : Lines (Node.mapping none entries).tokens 0 [] (.blockMapping :: entryTokens entries) [0] := by
    refine ⟨0, [], rfl, Nat.le_refl 0, startsToken_nil, ?_⟩
    intro cursor hrest _ fuel hfuel
    obtain ⟨fuel, rfl⟩ : ∃ less, fuel = less + 1 := ⟨fuel - 1, by omega⟩
    rw [run_settle, settle_word (hrest ▸ startsToken_nil) (isBehind_none _)]
    simp [inBlocks, Cursor.peek?, hrest, finish, unrollAll, inFlow, dropPlace, Node.tokens]
  exact scans_entries hne hkeys (fun entry hmem => (scans_node (hvalues entry hmem)).1) hopens hend
    (List.append_nil _).symm rfl fuel hfuel

end Kitchen.Yaml
