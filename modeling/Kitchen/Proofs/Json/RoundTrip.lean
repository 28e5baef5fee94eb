import Kitchen.Proofs.Json.Integer
import Kitchen.Proofs.Json.Layout
import Kitchen.Proofs.Json.Quoted
import Mathlib.Data.List.Nodup

/-!
# Documents, there and back

A document is read back from every layout: its strings, its integers and the order of its members, to
the greatest depth that the reader takes.
-/

namespace Kitchen.Json

open Text

/-- Documents of at most `depth` levels of arrays and objects, with integers that 64 bits hold for
numbers and every key of an object once. -/
inductive Integral : Nat → Json → Prop where
  | null (depth : Nat) : Integral depth .null
  | bool (depth : Nat) (b : Bool) : Integral depth (.bool b)
  | number (depth : Nat) {n : Int} (hlo : -(twoTo 63 : Int) ≤ n) (hhi : n < twoTo 64) :
      Integral depth (.number (.whole n))
  | string (depth : Nat) (text : String) : Integral depth (.string text)
  | array {depth : Nat} {items : List Json} (h : ∀ item ∈ items, Integral depth item) :
      Integral (depth + 1) (.array items)
  | object {depth : Nat} {members : List (String × Json)} (hkeys : (members.map Prod.fst).Nodup)
      (h : ∀ member ∈ members, Integral depth member.2) : Integral (depth + 1) (.object members)

/-! ## Blanks -/

theorem skipSpace_append {blanks : List Char} (h : ∀ c ∈ blanks, isSpace c = true) (s : List Char) :
    skipSpace (blanks ++ s) = skipSpace s := by
  rw [skipSpace, List.dropWhile_append_of_pos h, skipSpace]

theorem skipSpace_append_cons {blanks : List Char} (h : ∀ c ∈ blanks, isSpace c = true) {c : Char}
    (hc : isSpace c = false) (s : List Char) : skipSpace (blanks ++ c :: s) = c :: s := by
  rw [skipSpace_append h, skipSpace_cons hc]

/-- A value is read behind any blanks. -/
theorem readValue_append {blanks : List Char} (h : ∀ c ∈ blanks, isSpace c = true)
    (fuel depth : Nat) (s : List Char) :
    readValue (fuel + 1) depth (blanks ++ s) = readValue (fuel + 1) depth s := by
  rw [readValue, skipSpace_append h, readValue]

theorem endsNumber_cons {c : Char} (h : c ∈ [',', ']', '}'] ∨ isSpace c = true) (s : List Char) :
    EndsNumber (c :: s) := by
  intro d hd
  obtain rfl : c = d := Option.some.inj hd
  simp only [isSpace, Bool.or_eq_true, beq_iff_eq, List.mem_cons, List.not_mem_nil, or_false] at h
  rcases h with (rfl | rfl | rfl) | ((rfl | rfl) | rfl) | rfl <;> decide

/-- Blanks and then a closing bracket end a number. -/
theorem endsNumber_close {blanks : List Char} (h : ∀ c ∈ blanks, isSpace c = true) {bracket : Char}
    (hbracket : bracket ∈ [',', ']', '}']) (rest : List Char) :
    EndsNumber (blanks ++ bracket :: rest) := by
  cases blanks with
  | nil => exact endsNumber_cons (.inl hbracket) rest
  | cons c blanks => exact endsNumber_cons (.inr (h c List.mem_cons_self)) _

/-! ## Values -/

variable {layout : Layout} {depth : Nat}

/-- The form of a document starts with a character that is neither blank nor a closing bracket. -/
theorem exists_layoutChars_eq_cons (layout : Layout) {v : Json} (hv : Integral depth v) (level : Nat) :
    ∃ c s, layoutChars layout level v = c :: s ∧ isSpace c = false ∧ c ≠ ']' := by
  cases hv with
  | null => exact ⟨'n', _, rfl, rfl, by decide⟩
  | bool _ b => cases b <;> exact ⟨_, _, rfl, rfl, by decide⟩
  | @number _ n hlo hhi =>
    have hdigits := allDigits_toDigits n.natAbs
    rw [layoutChars, numberChars, toList_toString]
    by_cases hneg : n < 0
    · rw [Decimal.sign, if_pos (by exact hneg)]
      exact ⟨'-', Nat.toDigits 10 n.natAbs, rfl, rfl, by decide⟩
    · rw [Decimal.sign, if_neg (by exact hneg)]
      cases hn : Nat.toDigits 10 n.natAbs with
      | nil => exact absurd hn Nat.toDigits_ne_nil
      | cons c s =>
        rw [hn] at hdigits
        have hdigit := hdigits c List.mem_cons_self
        exact ⟨c, s, rfl, isSpace_of_isAsciiDigit hdigit, ne_of_isAsciiDigit hdigit rfl⟩
  | string => exact ⟨'"', _, rfl, rfl, by decide⟩
  | array => exact ⟨'[', _, rfl, rfl, by decide⟩
  | object => exact ⟨'{', _, rfl, rfl, by decide⟩

/-- A document is read from its form at a level, whatever comes behind that does not go on with a
number. -/
def Reads (layout : Layout) (level depth : Nat) (v : Json) : Prop :=
  ∀ fuel rest, 2 * (layoutChars layout level v).length ≤ fuel → EndsNumber rest →
    readValue fuel depth (layoutChars layout level v ++ rest) = .ok (v, rest)

/-- A member is read in the same sense, behind the opening quote of its key. -/
theorem Reads.readMember {level : Nat} {value : Json} (h : Reads layout level depth value)
    (hblank : layout.IsBlank) (key : String) (fuel : Nat) {rest : List Char}
    (hfuel : 2 * (layoutChars layout level value).length + 2 ≤ fuel) (hrest : EndsNumber rest) :
    readMember fuel depth (key.toList.flatMap escapedChar ++ '"' :: ':' :: layout.behindColon ++
      (layoutChars layout level value ++ rest)) = .ok ((key, value), rest) := by
  obtain ⟨fuel, rfl⟩ : ∃ n, fuel = n + 2 := ⟨fuel - 2, by omega⟩
  have hvalue : readValue (fuel + 1) depth (layout.behindColon ++ (layoutChars layout level value ++ rest)) =
      .ok (value, rest) := by
    rw [readValue_append hblank.2]
    exact h _ _ (by omega) hrest
  simp only [List.append_assoc, List.cons_append]
  rw [Json.readMember, readString_rest]
  simp only [bind, Except.bind, skipSpace_cons (show isSpace ':' = false from rfl), hvalue,
    String.ofList_toList]
  rfl

/-! ## Rows -/

section Rows

variable {level : Nat} {close : List Char}

/-- What follows an item ends a number. -/
theorem endsNumber_items (layout : Layout) (level : Nat) (rest : List Char)
    (hclose : ∀ c ∈ close, isSpace c = true) (items : List Json) :
    EndsNumber (layoutItems layout level [','] items ++ (close ++ ']' :: rest)) := by
  cases items with
  | nil => exact endsNumber_close hclose (by decide) rest
  | cons item items =>
    rw [layoutItems_comma]
    exact endsNumber_cons (.inl (by decide)) _

theorem endsNumber_members (layout : Layout) (level : Nat) (rest : List Char)
    (hclose : ∀ c ∈ close, isSpace c = true) (members : List (String × Json)) :
    EndsNumber (layoutMembers layout level [','] members ++ (close ++ '}' :: rest)) := by
  cases members with
  | nil => exact endsNumber_close hclose (by decide) rest
  | cons member members =>
    rw [layoutMembers_comma]
    exact endsNumber_cons (.inl (by decide)) _

/-- Items behind the first are read up to the closing bracket. -/
theorem readMoreItems_layout {n : Nat} (hblank : layout.IsBlank) (hclose : ∀ c ∈ close, isSpace c = true)
    {items : List Json} (hitems : ∀ item ∈ items, Integral n item ∧ Reads layout level depth item)
    (fuel : Nat) (rest : List Char) (hfuel : 2 * (layoutItems layout level [','] items).length + 1 ≤ fuel) :
    readMoreItems fuel depth (layoutItems layout level [','] items ++ (close ++ ']' :: rest)) =
      .ok (items, rest) := by
  induction items generalizing fuel with
  | nil =>
    obtain ⟨fuel, rfl⟩ : ∃ n, fuel = n + 1 := ⟨fuel - 1, by omega⟩
    rw [layoutItems, List.nil_append, readMoreItems, skipSpace_append_cons hclose rfl]
    rfl
  | cons item items ih =>
    obtain ⟨fuel, rfl⟩ : ∃ n, fuel = n + 1 := ⟨fuel - 1, by omega⟩
    obtain ⟨hitem, hreads⟩ := hitems item List.mem_cons_self
    rw [layoutItems] at hfuel
    simp only [List.length_append, List.length_cons, List.length_nil] at hfuel
    have hothers := ih (fun other hother => hitems other (List.mem_cons_of_mem item hother))
      fuel (by omega)
    have hfirst := hreads fuel _ (by omega)
      (endsNumber_items layout level rest hclose items)
    obtain ⟨c, s, hcons, hspace, hbracket⟩ := exists_layoutChars_eq_cons layout hitem level
    rw [hcons, List.cons_append] at hfirst
    rw [layoutItems, hcons]
    simp only [List.append_assoc, List.cons_append, List.nil_append]
    rw [readMoreItems, skipSpace_cons rfl]
    simp only [skipSpace_append_cons (hblank.1 level) hspace]
    split
    case h_1 heq => cases heq
    case h_2 heq => exact absurd (List.cons.inj heq).1 hbracket
    case h_3 =>
      simp only [hfirst, bind, Except.bind, hothers]
      rfl

/-- The items of an array are read up to its closing bracket. -/
theorem readItems_layout {n : Nat} (hblank : layout.IsBlank) (hclose : ∀ c ∈ close, isSpace c = true)
    {items : List Json} (hitems : ∀ item ∈ items, Integral n item ∧ Reads layout level depth item)
    (fuel : Nat) (rest : List Char) (hfuel : 2 * (layoutItems layout level [] items).length + 2 ≤ fuel) :
    readItems fuel depth (layoutItems layout level [] items ++ (close ++ ']' :: rest)) =
      .ok (items, rest) := by
  obtain ⟨fuel, rfl⟩ : ∃ n, fuel = n + 1 := ⟨fuel - 1, by omega⟩
  cases items with
  | nil =>
    rw [layoutItems, List.nil_append, readItems, skipSpace_append_cons hclose rfl]
    rfl
  | cons item items =>
    obtain ⟨hitem, hreads⟩ := hitems item List.mem_cons_self
    rw [layoutItems] at hfuel
    simp only [List.length_append, List.length_nil] at hfuel
    have hothers := readMoreItems_layout hblank hclose
      (fun other hother => hitems other (List.mem_cons_of_mem item hother)) fuel rest (by omega)
    have hfirst := hreads fuel _ (by omega)
      (endsNumber_items layout level rest hclose items)
    obtain ⟨c, s, hcons, hspace, hbracket⟩ := exists_layoutChars_eq_cons layout hitem level
    rw [hcons, List.cons_append] at hfirst
    rw [layoutItems, hcons]
    simp only [List.append_assoc, List.cons_append, List.nil_append]
    rw [readItems, skipSpace_append_cons (hblank.1 level) hspace]
    split
    case h_1 heq => cases heq
    case h_2 heq => exact absurd (List.cons.inj heq).1 hbracket
    case h_3 =>
      simp only [hfirst, bind, Except.bind, hothers]
      rfl

/-- Members behind the first are read up to the closing brace. -/
theorem readMoreMembers_layout (hblank : layout.IsBlank) (hclose : ∀ c ∈ close, isSpace c = true)
    {members : List (String × Json)} (hmembers : ∀ member ∈ members, Reads layout level depth member.2)
    (fuel : Nat) (rest : List Char) (hfuel : 2 * (layoutMembers layout level [','] members).length + 1 ≤ fuel) :
    readMoreMembers fuel depth (layoutMembers layout level [','] members ++ (close ++ '}' :: rest)) =
      .ok (members, rest) := by
  induction members generalizing fuel with
  | nil =>
    obtain ⟨fuel, rfl⟩ : ∃ n, fuel = n + 1 := ⟨fuel - 1, by omega⟩
    rw [layoutMembers, List.nil_append, readMoreMembers, skipSpace_append_cons hclose rfl]
    rfl
  | cons member members ih =>
    obtain ⟨key, value⟩ := member
    obtain ⟨fuel, rfl⟩ : ∃ n, fuel = n + 1 := ⟨fuel - 1, by omega⟩
    rw [layoutMembers, quotedChars] at hfuel
    simp only [List.length_append, List.length_cons, List.length_nil] at hfuel
    have hothers := ih (fun other hother => hmembers other (List.mem_cons_of_mem _ hother))
      fuel (by omega)
    have hvalue : Reads layout level depth value := hmembers _ List.mem_cons_self
    have hfirst := hvalue.readMember hblank key fuel (by omega)
      (endsNumber_members layout level rest hclose members)
    rw [layoutMembers, quotedChars]
    simp only [List.append_assoc, List.cons_append, List.nil_append] at hfirst ⊢
    rw [readMoreMembers, skipSpace_cons rfl]
    simp only [skipSpace_append_cons (hblank.1 level) (show isSpace '"' = false from rfl), hfirst, bind,
      Except.bind, hothers]
    rfl

/-- The members of an object are read up to its closing brace. -/
theorem readMembers_layout (hblank : layout.IsBlank) (hclose : ∀ c ∈ close, isSpace c = true)
    {members : List (String × Json)} (hmembers : ∀ member ∈ members, Reads layout level depth member.2)
    (fuel : Nat) (rest : List Char) (hfuel : 2 * (layoutMembers layout level [] members).length + 2 ≤ fuel) :
    readMembers fuel depth (layoutMembers layout level [] members ++ (close ++ '}' :: rest)) =
      .ok (members, rest) := by
  obtain ⟨fuel, rfl⟩ : ∃ n, fuel = n + 1 := ⟨fuel - 1, by omega⟩
  cases members with
  | nil =>
    rw [layoutMembers, List.nil_append, readMembers, skipSpace_append_cons hclose rfl]
    rfl
  | cons member members =>
    obtain ⟨key, value⟩ := member
    rw [layoutMembers, quotedChars] at hfuel
    simp only [List.length_append, List.length_cons, List.length_nil] at hfuel
    have hothers := readMoreMembers_layout hblank hclose
      (fun other hother => hmembers other (List.mem_cons_of_mem _ hother)) fuel rest (by omega)
    have hvalue : Reads layout level depth value := hmembers _ List.mem_cons_self
    have hfirst := hvalue.readMember hblank key fuel (by omega)
      (endsNumber_members layout level rest hclose members)
    rw [layoutMembers, quotedChars]
    simp only [List.append_assoc, List.cons_append, List.nil_append] at hfirst ⊢
    rw [readMembers, skipSpace_append_cons (hblank.1 level) rfl]
    simp only [hfirst, bind, Except.bind, hothers]
    rfl

end Rows

/-! ## Documents -/

theorem insertMember_of_not_mem {key : String} {members : List (String × Json)}
    (h : key ∉ members.map Prod.fst) (value : Json) :
    insertMember key value members = members ++ [(key, value)] := by
  induction members with
  | nil => rfl
  | cons member members ih =>
    obtain ⟨k, v⟩ := member
    rw [List.map_cons, List.mem_cons, not_or] at h
    rw [insertMember, if_neg (Ne.symm h.1), ih h.2, List.cons_append]

/-- Members with every key once make an object that holds them as they are. -/
theorem ofMembers_of_nodup {members : List (String × Json)} (h : (members.map Prod.fst).Nodup) :
    ofMembers members = .object members := by
  suffices hfold : ∀ pre : List (String × Json), ((pre ++ members).map Prod.fst).Nodup →
      members.foldl (fun object member => insertMember member.1 member.2 object) pre = pre ++ members by
    exact congrArg Json.object (hfold [] h)
  clear h
  induction members with
  | nil => intro pre _; exact (List.append_nil pre).symm
  | cons member members ih =>
    obtain ⟨key, value⟩ := member
    intro pre hnodup
    have hkey : key ∉ pre.map Prod.fst := by
      rw [List.map_append, List.map_cons] at hnodup
      exact fun hmem => (List.disjoint_of_nodup_append hnodup) hmem List.mem_cons_self
    have hmove : pre ++ (key, value) :: members = pre ++ [(key, value)] ++ members := by simp
    rw [List.foldl_cons, insertMember_of_not_mem hkey, hmove]
    exact ih _ (hmove ▸ hnodup)

/-- A document is read back from its form in every layout of blanks. -/
theorem reads_of_integral (hblank : layout.IsBlank) {v : Json} (hv : Integral depth v) (level : Nat) :
    Reads layout level (depth + 1) v := by
  -- The reader spends one unit of fuel for each bracket, which the length of the text bounds.
  induction hv generalizing level with
  | null depth =>
    intro fuel rest hfuel _
    obtain ⟨fuel, rfl⟩ : ∃ n, fuel = n + 1 := ⟨fuel - 1, by simp [layoutChars] at hfuel; omega⟩
    rw [layoutChars, readValue]
    rfl
  | bool depth b =>
    intro fuel rest hfuel _
    obtain ⟨fuel, rfl⟩ : ∃ n, fuel = n + 1 :=
      ⟨fuel - 1, by cases b <;> simp [layoutChars] at hfuel <;> omega⟩
    cases b
    all_goals
      rw [layoutChars, readValue]
      rfl
  | @number depth n hlo hhi =>
    intro fuel rest hfuel hrest
    obtain ⟨c, s, hcons, -⟩ :=
      exists_layoutChars_eq_cons layout (Integral.number depth hlo hhi) level
    rw [hcons, List.length_cons] at hfuel
    obtain ⟨fuel, rfl⟩ : ∃ n, fuel = n + 1 := ⟨fuel - 1, by omega⟩
    exact readValue_toString fuel (depth + 1) hlo hhi hrest
  | string depth text =>
    intro fuel rest hfuel _
    obtain ⟨fuel, rfl⟩ : ∃ n, fuel = n + 1 :=
      ⟨fuel - 1, by simp [layoutChars, quotedChars] at hfuel; omega⟩
    rw [layoutChars, quotedChars, List.cons_append, List.cons_append, List.append_assoc, readValue,
      skipSpace_cons rfl]
    simp only [List.singleton_append, readString_rest, bind, Except.bind, String.ofList_toList]
    rfl
  | @array depth items h ih =>
    intro fuel rest hfuel _
    rw [layoutChars] at hfuel ⊢
    simp only [List.length_append, List.length_cons, List.length_nil] at hfuel
    obtain ⟨fuel, rfl⟩ : ∃ n, fuel = n + 1 := ⟨fuel - 1, by omega⟩
    have hitems := readItems_layout hblank
      (hblank.close level items.isEmpty) (fun item hitem => ⟨h item hitem, ih item hitem (level + 1)⟩)
      fuel rest (by omega)
    simp only [List.cons_append, List.append_assoc, List.nil_append]
    rw [readValue, skipSpace_cons rfl]
    simp only [Nat.add_sub_cancel, hitems, bind, Except.bind]
    rfl
  | @object depth members hkeys h ih =>
    intro fuel rest hfuel _
    rw [layoutChars] at hfuel ⊢
    simp only [List.length_append, List.length_cons, List.length_nil] at hfuel
    obtain ⟨fuel, rfl⟩ : ∃ n, fuel = n + 1 := ⟨fuel - 1, by omega⟩
    have hmembers := readMembers_layout hblank
      (hblank.close level members.isEmpty) (fun member hmember => ih member hmember (level + 1))
      fuel rest (by omega)
    simp only [List.cons_append, List.append_assoc, List.nil_append]
    rw [readValue, skipSpace_cons rfl]
    simp only [Nat.add_sub_cancel, hmembers, bind, Except.bind, ofMembers_of_nodup hkeys]
    rfl

/-- A document of at most 127 levels is the one that its text writes, in every layout of blanks. -/
theorem parse_layoutChars (hblank : layout.IsBlank) {v : Json} (hv : Integral 127 v) :
    parse (String.ofList (layoutChars layout 0 v)) = .ok v := by
  have hreads := reads_of_integral hblank hv 0 (3 * (layoutChars layout 0 v).length + 3) []
    (by omega) endsNumber_nil
  rw [List.append_nil] at hreads
  rw [parse, String.toList_ofList, readDocument, show depthLimit = 127 + 1 from rfl, hreads]
  rfl

end Kitchen.Json
