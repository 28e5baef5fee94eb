import Kitchen.Proofs.Number.Digits
import Kitchen.Proofs.Validation.Report

/-!
# Wording

The words of a warning tell what it is about. Warnings of different kinds begin differently, and the
places of steps can be read back from their digits, which never run into the words around them,
whatever the names in between.
-/

namespace Kitchen

/-- The warning about a step that would jump to a label that there is not. -/
def missingLabel (index : Nat) (operation name : String) : String :=
  stepTitle index operation ++ s!" targets missing label '{name}' and will fall through"

/-- The warning about a label that an earlier step has marked. -/
def repeatedLabel (name : String) (index first : Nat) : String :=
  s!"Label '{name}' at step {index + 1} repeats step {first + 1}; " ++ "jumps resolve to the first"

/-! ## Digits among words -/

/-- A number with a word behind it is read back. -/
theorem toDigits_append_inj {n m : Nat} {s t : List Char} {c d : Char}
    (hc : Text.isAsciiDigit c = false) (hd : Text.isAsciiDigit d = false)
    (h : Nat.toDigits 10 n ++ c :: s = Nat.toDigits 10 m ++ d :: t) : n = m := by
  have hdigits := congrArg (List.takeWhile Text.isAsciiDigit) h
  rw [(allDigits_toDigits n).takeWhile_append hc, (allDigits_toDigits m).takeWhile_append hd]
    at hdigits
  exact toDigits_injective hdigits

/-- A number with a word in front of it is read back. -/
theorem append_toDigits_inj {n m : Nat} {s t : List Char} {c d : Char}
    (hc : Text.isAsciiDigit c = false) (hd : Text.isAsciiDigit d = false)
    (h : s ++ c :: Nat.toDigits 10 n = t ++ d :: Nat.toDigits 10 m) : n = m ∧ s = t := by
  have hreverse (k : Nat) : AllDigits (Nat.toDigits 10 k).reverse := by
    intro x hx
    exact allDigits_toDigits k x (List.mem_reverse.mp hx)
  have hback := congrArg (fun u => u.reverse.takeWhile Text.isAsciiDigit) h
  simp only [List.reverse_append, List.reverse_cons, List.append_assoc, List.singleton_append,
    (hreverse n).takeWhile_append hc, (hreverse m).takeWhile_append hd] at hback
  have hsame : n = m := toDigits_injective (List.reverse_inj.mp hback)
  subst hsame
  exact ⟨rfl, (List.append_inj' h rfl).1⟩

/-! ## Places in warnings -/

/-- The place of a step is read back from its title. -/
theorem stepTitle_inj {i j : Nat} {operation operation' s t : String}
    (h : stepTitle i operation ++ s = stepTitle j operation' ++ t) : i = j := by
  have htitle (k : Nat) (name rest : String) : (stepTitle k name ++ rest).toList =
      "Step ".toList ++ (Nat.toDigits 10 (k + 1) ++ ' ' :: ("('" ++ name ++ "')" ++ rest).toList) := by
    rw [← toList_natToString]
    have hspace : " ('" = " " ++ "('" := rfl
    change ("Step " ++ toString (k + 1) ++ " ('" ++ name ++ "')" ++ rest).toList = _
    rw [hspace]
    simp [String.toList_append]
  have hlists := congrArg String.toList h
  rw [htitle, htitle] at hlists
  have hplaces := toDigits_append_inj (by decide) (by decide) (List.append_cancel_left hlists)
  omega

/-- The name and the places of steps are read back from the warning about a repeated label. -/
theorem repeatedLabel_inj {name name' : String} {i j first first' : Nat}
    (h : repeatedLabel name i first = repeatedLabel name' j first') :
    name = name' ∧ i = j ∧ first = first' := by
  have hwords (name : String) (i first : Nat) : (repeatedLabel name i first).toList =
      ((("Label '" ++ name ++ "' at step").toList ++ ' ' :: Nat.toDigits 10 (i + 1) ++
        " repeats step".toList) ++ ' ' :: Nat.toDigits 10 (first + 1)) ++
          "; jumps resolve to the first".toList := by
    rw [← toList_natToString, ← toList_natToString]
    have hat : "' at step " = "' at step" ++ " " := rfl
    have hrepeats : " repeats step " = " repeats step" ++ " " := rfl
    have hjumps : "; jumps resolve to the first" = "; " ++ "jumps resolve to the first" := rfl
    change ("Label '" ++ name ++ "' at step " ++ toString (i + 1) ++ " repeats step " ++
      toString (first + 1) ++ "; " ++ "jumps resolve to the first").toList = _
    rw [hat, hrepeats, hjumps]
    simp [String.toList_append]
  have hlists := congrArg String.toList h
  rw [hwords, hwords] at hlists
  obtain ⟨hfirst, hfront⟩ := append_toDigits_inj (by decide) (by decide)
    (List.append_cancel_right hlists)
  obtain ⟨hplace, hname⟩ := append_toDigits_inj (by decide) (by decide)
    (List.append_cancel_right hfront)
  have hnames : ("Label '" ++ name ++ "' at step").toList = ("Label '" ++ name' ++ "' at step").toList :=
    hname
  simp only [String.toList_append] at hnames
  refine ⟨String.toList_inj.mp ?_, by omega, by omega⟩
  exact List.append_cancel_left (List.append_cancel_right hnames)

/-- Of one step the warning tells the label, too. -/
theorem missingLabel_inj {i j : Nat} {operation operation' name name' : String}
    (h : missingLabel i operation name = missingLabel j operation' name') :
    i = j ∧ (operation = operation' → name = name') := by
  refine ⟨stepTitle_inj h, ?_⟩
  rintro rfl
  obtain rfl := stepTitle_inj h
  have hwords (name : String) : (missingLabel i operation name).toList =
      (stepTitle i operation ++ " targets missing label '").toList ++
        (name.toList ++ "' and will fall through".toList) := by
    change (stepTitle i operation ++
      (" targets missing label '" ++ name ++ "' and will fall through")).toList = _
    simp only [String.toList_append, List.append_assoc]
  have hlists := congrArg String.toList h
  rw [hwords, hwords] at hlists
  exact String.toList_inj.mp (List.append_cancel_right (List.append_cancel_left hlists))

/-! ## First letters -/

/-- The first letter of a warning. -/
def initial? (text : String) : Option Char := text.toList.head?

theorem initial?_append {word : String} {c : Char} (h : initial? word = some c) (rest : String) :
    initial? (word ++ rest) = some c := by
  rw [initial?, String.toList_append, List.head?_append]
  exact Option.or_eq_some_iff.mpr (.inl h)

theorem initial?_missingLabel (index : Nat) (operation name : String) :
    initial? (missingLabel index operation name) = some 'S' := by
  refine initial?_append ?_ _
  exact initial?_append (initial?_append (initial?_append (initial?_append rfl _) _) _) _

theorem initial?_repeatedLabel (name : String) (index first : Nat) :
    initial? (repeatedLabel name index first) = some 'L' := by
  refine initial?_append ?_ _
  exact initial?_append (initial?_append (initial?_append (initial?_append (initial?_append
    (initial?_append rfl _) _) _) _) _) _

theorem initial?_validateLength {steps : List RecipeStep} {text : String}
    (h : text ∈ (validateLength steps).warnings) : initial? text = some 'R' := by
  unfold validateLength at h
  split at h
  · obtain rfl := List.mem_singleton.mp h
    rfl
  · simp at h

theorem initial?_validateStep {registry : Registry} {index : Nat} {step : RecipeStep}
    {text : String} (h : text ∈ (registry.validateStep index step).warnings) :
    initial? text = some 'B' := by
  unfold Registry.validateStep at h
  split at h
  · simp at h
  · split at h
    · obtain rfl := List.mem_singleton.mp h
      exact initial?_append (initial?_append rfl _) _
    · simp at h

theorem initial?_validateForks {index : Nat} {opened : Option Nat} {steps : List RecipeStep}
    {text : String} (h : text ∈ (validateForks index opened steps).warnings) :
    initial? text = some 'F' ∨ initial? text = some 'M' := by
  fun_induction validateForks index opened steps with
  | case1 => simp at h
  | case2 =>
    obtain rfl := List.mem_singleton.mp h
    exact .inl (initial?_append (initial?_append rfl _) _)
  | case3 index opened step rest hdisabled ih => exact ih h
  | case4 index opened step rest hdisabled hfork ih => exact ih h
  | case5 index step rest hdisabled hfork hmerge first ih => exact ih h
  | case6 index step rest hdisabled hfork hmerge ih =>
    rcases List.mem_append.mp h with h | h
    · obtain rfl := List.mem_singleton.mp h
      exact .inr (initial?_append (initial?_append rfl _) _)
    · exact ih h
  | case7 index opened step rest hdisabled hfork hmerge ih => exact ih h

end Kitchen
