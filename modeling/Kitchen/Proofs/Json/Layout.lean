import Kitchen.Json.Printer
import Kitchen.Json.Reader

/-!
# Layouts of JSON

A document is written with blanks of a layout's own between its tokens. The compact form and the form
with one item a line are two layouts.
-/

namespace Kitchen.Json

open Text

/-! ## Layouts -/

/-- The blanks between the tokens of a document. -/
structure Layout where
  /-- What stands before an item, a member or a closing bracket of a level. -/
  gap : Nat → List Char
  /-- What stands behind the colon of a member. -/
  behindColon : List Char

namespace Layout

def IsBlank (layout : Layout) : Prop :=
  (∀ level, ∀ c ∈ layout.gap level, isSpace c = true) ∧ ∀ c ∈ layout.behindColon, isSpace c = true

def tight : Layout := ⟨fun _ => [], []⟩

/-- One item a line, indented by a text for every level. -/
def lines (indent : List Char) : Layout := ⟨lineBreak indent, [' ']⟩

/-- What stands before the closing bracket of a level; nothing if the brackets hold nothing. -/
def close (layout : Layout) (level : Nat) (isEmpty : Bool) : List Char :=
  if isEmpty then [] else layout.gap level

theorem IsBlank.close {layout : Layout} (h : layout.IsBlank) (level : Nat) (isEmpty : Bool) :
    ∀ c ∈ layout.close level isEmpty, isSpace c = true := by
  rw [Layout.close]
  split
  · intro c hc
    cases hc
  · exact h.1 level

theorem isBlank_tight : tight.IsBlank :=
  ⟨fun _ _ hc => (List.not_mem_nil hc).elim, fun _ hc => (List.not_mem_nil hc).elim⟩

theorem isBlank_lines {indent : List Char} (h : ∀ c ∈ indent, isSpace c = true) :
    (lines indent).IsBlank := by
  refine ⟨fun level c hc => ?_, fun c hc => ?_⟩
  · rcases List.mem_cons.mp hc with rfl | hc
    · rfl
    · obtain ⟨copy, hcopy, hmem⟩ := List.mem_flatten.mp hc
      rw [List.eq_of_mem_replicate hcopy] at hmem
      exact h c hmem
  · rw [List.mem_singleton.mp hc]
    rfl

end Layout

mutual

/-- The form of a document in a layout, at a level. -/
def layoutChars (layout : Layout) (level : Nat) : Json → List Char
  | null => "null".toList
  | bool b => (if b then "true" else "false").toList
  | number n => numberChars n
  | string s => quotedChars s
  | array items =>
    '[' :: layoutItems layout (level + 1) [] items ++ layout.close level items.isEmpty ++ [']']
  | object members =>
    '{' :: layoutMembers layout (level + 1) [] members ++ layout.close level members.isEmpty ++ ['}']

/-- The forms of items. A comma stands before every item but the first, which has a lead of its
own. -/
def layoutItems (layout : Layout) (level : Nat) (lead : List Char) : List Json → List Char
  | [] => []
  | item :: rest =>
    lead ++ layout.gap level ++ layoutChars layout level item ++ layoutItems layout level [','] rest

/-- The forms of members, with commas like those of items. -/
def layoutMembers (layout : Layout) (level : Nat) (lead : List Char) :
    List (String × Json) → List Char
  | [] => []
  | (key, value) :: rest =>
    lead ++ layout.gap level ++ quotedChars key ++ ':' :: layout.behindColon ++
      layoutChars layout level value ++ layoutMembers layout level [','] rest

end

theorem layoutItems_comma (layout : Layout) (level : Nat) (item : Json) (rest : List Json) :
    layoutItems layout level [','] (item :: rest) = ',' :: layoutItems layout level [] (item :: rest) := by
  simp [layoutItems]

theorem layoutMembers_comma (layout : Layout) (level : Nat) (member : String × Json)
    (rest : List (String × Json)) :
    layoutMembers layout level [','] (member :: rest) =
      ',' :: layoutMembers layout level [] (member :: rest) := by
  obtain ⟨key, value⟩ := member
  simp [layoutMembers]

mutual

theorem compactChars_eq (level : Nat) : ∀ v : Json, v.compactChars = layoutChars .tight level v
  | null => rfl
  | bool _ => rfl
  | number _ => rfl
  | string _ => rfl
  | array items => by
    have hitems := compactItems_eq (level + 1) items
    simp [compactChars, layoutChars, hitems, Layout.close, Layout.tight]
  | object members => by
    have hmembers := compactMembers_eq (level + 1) members
    simp [compactChars, layoutChars, hmembers, Layout.close, Layout.tight]

theorem compactItems_eq (level : Nat) :
    ∀ items : List Json, compactItems items = layoutItems .tight level [] items
  | [] => rfl
  | [item] => by
    have hitem := compactChars_eq level item
    simp [compactItems, layoutItems, hitem, Layout.tight]
  | item :: next :: rest => by
    have hitem := compactChars_eq level item
    have hrest := compactItems_eq level (next :: rest)
    rw [compactItems, layoutItems, layoutItems_comma, hitem, hrest]
    rfl

theorem compactMembers_eq (level : Nat) :
    ∀ members : List (String × Json), compactMembers members = layoutMembers .tight level [] members
  | [] => rfl
  | [(key, value)] => by
    have hvalue := compactChars_eq level value
    simp [compactMembers, layoutMembers, hvalue, Layout.tight]
  | (key, value) :: next :: rest => by
    have hvalue := compactChars_eq level value
    have hrest := compactMembers_eq level (next :: rest)
    rw [compactMembers, layoutMembers, layoutMembers_comma, hvalue, hrest]
    simp [Layout.tight]

end

mutual

theorem prettyChars_eq (indent : List Char) (level : Nat) :
    ∀ v : Json, prettyChars indent level v = layoutChars (.lines indent) level v
  | null => rfl
  | bool _ => rfl
  | number _ => rfl
  | string _ => rfl
  | array [] => rfl
  | array (item :: rest) => by
    have hitems := prettyItems_eq indent (level + 1) (item :: rest)
    rw [prettyChars, layoutChars, hitems]
    rfl
  | object [] => rfl
  | object (member :: rest) => by
    have hmembers := prettyMembers_eq indent (level + 1) (member :: rest)
    rw [prettyChars, layoutChars, hmembers]
    rfl

theorem prettyItems_eq (indent : List Char) (level : Nat) :
    ∀ items : List Json, prettyItems indent level items = layoutItems (.lines indent) level [] items
  | [] => rfl
  | [item] => by
    have hitem := prettyChars_eq indent level item
    simp [prettyItems, layoutItems, hitem, Layout.lines]
  | item :: next :: rest => by
    have hitem := prettyChars_eq indent level item
    have hrest := prettyItems_eq indent level (next :: rest)
    rw [prettyItems, layoutItems, layoutItems_comma, hitem, hrest]
    rfl

theorem prettyMembers_eq (indent : List Char) (level : Nat) :
    ∀ members : List (String × Json),
      prettyMembers indent level members = layoutMembers (.lines indent) level [] members
  | [] => rfl
  | [(key, value)] => by
    have hvalue := prettyChars_eq indent level value
    simp [prettyMembers, layoutMembers, hvalue, Layout.lines]
  | (key, value) :: next :: rest => by
    have hvalue := prettyChars_eq indent level value
    have hrest := prettyMembers_eq indent level (next :: rest)
    rw [prettyMembers, layoutMembers, layoutMembers_comma, hvalue, hrest]
    simp [Layout.lines]

end

/-! ## The tight layout -/

theorem Layout.close_sublist (layout : Layout) (level : Nat) (isEmpty : Bool) :
    (Layout.tight.close level isEmpty).Sublist (layout.close level isEmpty) := by
  cases isEmpty with
  | false => exact List.nil_sublist _
  | true => exact .refl _

mutual

/-- A layout only puts blanks between the tokens of the compact form. -/
theorem layoutChars_sublist (layout : Layout) (level : Nat) :
    ∀ v : Json, (layoutChars .tight level v).Sublist (layoutChars layout level v)
  | null => .refl _
  | bool _ => .refl _
  | number _ => .refl _
  | string _ => .refl _
  | array items => by
    have hitems := layoutItems_sublist layout (level + 1) [] items
    have hclose := Layout.close_sublist layout level items.isEmpty
    exact ((hitems.append hclose).append (.refl _)).cons_cons _
  | object members => by
    have hmembers := layoutMembers_sublist layout (level + 1) [] members
    have hclose := Layout.close_sublist layout level members.isEmpty
    exact ((hmembers.append hclose).append (.refl _)).cons_cons _

theorem layoutItems_sublist (layout : Layout) (level : Nat) (lead : List Char) :
    ∀ items : List Json,
      (layoutItems .tight level lead items).Sublist (layoutItems layout level lead items)
  | [] => .refl _
  | item :: rest => by
    have hitem := layoutChars_sublist layout level item
    have hrest := layoutItems_sublist layout level [','] rest
    have hgap : (lead ++ Layout.tight.gap level).Sublist (lead ++ layout.gap level) :=
      (List.Sublist.refl lead).append (List.nil_sublist _)
    exact (hgap.append hitem).append hrest

theorem layoutMembers_sublist (layout : Layout) (level : Nat) (lead : List Char) :
    ∀ members : List (String × Json),
      (layoutMembers .tight level lead members).Sublist (layoutMembers layout level lead members)
  | [] => .refl _
  | (key, value) :: rest => by
    have hvalue := layoutChars_sublist layout level value
    have hrest := layoutMembers_sublist layout level [','] rest
    have hgap : (lead ++ Layout.tight.gap level ++ quotedChars key).Sublist
        (lead ++ layout.gap level ++ quotedChars key) :=
      ((List.Sublist.refl lead).append (List.nil_sublist _)).append (.refl _)
    have hcolon : (':' :: Layout.tight.behindColon).Sublist (':' :: layout.behindColon) :=
      (List.nil_sublist _).cons_cons _
    have hvalued := (hgap.append (hcolon.append hvalue)).append hrest
    simpa only [layoutMembers, List.append_assoc, List.cons_append] using hvalued

end

end Kitchen.Json
