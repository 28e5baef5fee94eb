import Kitchen.CommandLine.Disk
import Kitchen.CommandLine.Execution
import Kitchen.Proofs.Text.Search

/-!
# Places on a disk

Where paths lead, and what commands change there. More directories leave every path where it led. A
name that is neither idle nor the one above is the last one on the way to its place, so two outputs in
one directory get in each other's way only if they have the same name.
-/

namespace Kitchen

/-! ## Names -/

namespace Path

open Text

/-- A name that leads to something in the directory in which it is looked for. -/
structure IsPlain (name : String) : Prop where
  noSlash : ∀ c ∈ name.toList, (c == '/') = false
  notIdle : isIdle name = false
  notAbove : name ≠ above

/-- A plain name in a directory is the last one of its path. -/
theorem exists_names_join (directory : String) {name : String} (h : IsPlain name) :
    ∃ front, names (join directory name) = front ++ [name] := by
  have halone : splitAt (· == '/') name.toList = [name.toList] := splitAt_of_forall h.noSlash
  have hbehind (front : List Char) :
      (splitAt (· == '/') (front ++ '/' :: name.toList)).map String.ofList =
        (splitAt (· == '/') front).map String.ofList ++ [name] := by
    rw [splitAt_append rfl, halone, List.map_append, List.map_singleton, String.ofList_toList]
  unfold join
  split
  · exact ⟨[], by rw [names, halone, List.map_singleton, String.ofList_toList]; rfl⟩
  · split
    · rename_i hlast
      obtain ⟨front, hfront⟩ := List.getLast?_eq_some_iff.mp (beq_iff_eq.mp hlast)
      refine ⟨(splitAt (· == '/') front).map String.ofList, ?_⟩
      rw [names, String.toList_append, hfront, List.append_assoc, List.singleton_append, hbehind]
    · refine ⟨(splitAt (· == '/') directory.toList).map String.ofList, ?_⟩
      rw [names, String.toList_append, String.toList_append, List.append_assoc]
      exact hbehind directory.toList

theorem mem_dropIdle {name : String} {climbed : List String} (h : name ∈ dropIdle climbed) :
    name ∈ climbed := by
  induction climbed using dropIdle.induct with
  | case1 => exact h
  | case2 first => exact h
  | case3 first rest hrest hidle ih =>
    rw [dropIdle, if_pos hidle] at h
    · exact List.mem_cons_of_mem _ (ih h)
    · exact hrest
  | case4 first rest hrest hidle =>
    rw [dropIdle, if_neg hidle] at h
    · exact h
    · exact hrest

/-- The last name of a path is one between its slashes. -/
theorem noSlash_of_fileName? {path name : String} (h : fileName? path = some name) :
    ∀ c ∈ name.toList, (c == '/') = false := by
  have hmem : name ∈ names path := by
    unfold fileName? at h
    split at h
    · rename_i first rest hclimb
      split at h
      · simp at h
      · obtain rfl := Option.some.inj h
        have hfirst : first ∈ climb path := hclimb ▸ List.mem_cons_self
        exact List.mem_reverse.mp (mem_dropIdle hfirst)
    · simp at h
  obtain ⟨piece, hpiece, rfl⟩ := List.mem_map.mp hmem
  rw [String.toList_ofList]
  exact fun c => of_mem_splitAt hpiece

theorem mem_of_mem_stem {name : String} {c : Char} (h : c ∈ (stem name).toList) : c ∈ name.toList := by
  simp only [stem] at h
  split at h
  · exact h
  · rw [String.toList_ofList, List.mem_reverse] at h
    have hdropped := List.mem_of_mem_drop h
    exact List.mem_reverse.mp ((List.dropWhile_sublist _).mem hdropped)

end Path

namespace Host

/-- The name for which the output for an input is called: the name of the input without its
extension. -/
def outputStem (input : String) : String :=
  let name := (Path.fileName? input).getD ""
  if name.isEmpty then "dish" else Path.stem name

theorem outputPath_eq (directory input : String) :
    outputPath directory input = Path.join directory (outputStem input ++ ".out") := rfl

private theorem noSlash_outputStem (input : String) :
    ∀ c ∈ (outputStem input).toList, (c == '/') = false := by
  have hdish : ∀ c ∈ "dish".toList, (c == '/') = false := by simp
  unfold outputStem
  cases hname : Path.fileName? input with
  | none => exact hdish
  | some name =>
    dsimp only [Option.getD_some]
    split
    · exact hdish
    · exact fun c hc => Path.noSlash_of_fileName? hname c (Path.mem_of_mem_stem hc)

private theorem four_le_length_output (input : String) :
    4 ≤ (outputStem input ++ ".out").length := by
  rw [String.length_append]
  exact Nat.le_add_left _ _

theorem isPlain_output (input : String) : Path.IsPlain (outputStem input ++ ".out") where
  noSlash c hc := by
    have hout : ∀ c ∈ ".out".toList, (c == '/') = false := by simp
    rw [String.toList_append] at hc
    rcases List.mem_append.mp hc with hc | hc
    · exact noSlash_outputStem input c hc
    · exact hout c hc
  notIdle := by
    have hlength := four_le_length_output input
    refine Bool.eq_false_iff.mpr fun hidle => ?_
    rcases Bool.or_eq_true_iff.mp hidle with hempty | hcurrent
    · rw [String.isEmpty_iff.mp hempty] at hlength
      exact absurd hlength (by decide)
    · rw [beq_iff_eq.mp hcurrent] at hlength
      exact absurd hlength (by decide)
  notAbove habove := by
    have hlength := four_le_length_output input
    rw [habove] at hlength
    exact absurd hlength (by decide)

end Host

/-! ## Disks -/

namespace Disk

variable {disk disk' : Disk}

theorem hasDirectory_iff {place : List String} :
    disk.hasDirectory place = true ↔ place = [] ∨ place ∈ disk.directories := by
  unfold hasDirectory kindAt
  split
  · rename_i h
    simpa using h
  · rename_i h
    have hnot : ¬(place = [] ∨ place ∈ disk.directories) := by simpa using h
    refine iff_of_false ?_ hnot
    split <;> simp

/-- All directories of a disk stand on another. -/
def Extends (disk disk' : Disk) : Prop := ∀ place ∈ disk.directories, place ∈ disk'.directories

theorem Extends.refl (disk : Disk) : disk.Extends disk := fun _ => id

theorem Extends.trans {disk'' : Disk} (h : disk.Extends disk') (h' : disk'.Extends disk'') :
    disk.Extends disk'' := fun place hmem => h' place (h place hmem)

/-- Where a name leads from a place, if that is a directory. -/
def enter? (place : List String) (name : String) : Option (List String) :=
  if Path.isIdle name then some place
  else if name = Path.above then if place.isEmpty then none else some place.dropLast
  else some (place ++ [name])

theorem enter?_of_isPlain {name : String} (h : Path.IsPlain name) (place : List String) :
    enter? place name = some (place ++ [name]) := by
  rw [enter?, h.notIdle, if_neg Bool.false_ne_true, if_neg h.notAbove]

theorem follow_cons (disk : Disk) (place : List String) (name : String) (rest : List String) :
    disk.follow place (name :: rest) =
      if disk.hasDirectory place then (enter? place name).bind (disk.follow · rest) else none := by
  rw [follow, enter?]
  cases disk.hasDirectory place with
  | false => rfl
  | true =>
    rw [Bool.not_true, if_neg Bool.false_ne_true, if_pos rfl]
    split
    · rfl
    · split
      · split <;> rfl
      · rfl

theorem Extends.follow (h : disk.Extends disk') {place goal names : List String}
    (hf : disk.follow place names = some goal) : disk'.follow place names = some goal := by
  induction names generalizing place with
  | nil => exact hf
  | cons name names ih =>
    rw [follow_cons] at hf ⊢
    split at hf
    · rename_i hd
      obtain ⟨next, hnext, hf⟩ := Option.bind_eq_some_iff.mp hf
      have hd' : disk'.hasDirectory place = true :=
        hasDirectory_iff.mpr ((hasDirectory_iff.mp hd).imp id (h place))
      rw [if_pos hd', hnext]
      exact ih hf
    · simp at hf

theorem Extends.place? (h : disk.Extends disk') {path : String} {place : List String}
    (hp : disk.place? path = some place) : disk'.place? path = some place := by
  unfold Disk.place? at hp ⊢
  split at hp
  · simp at hp
  · rename_i hpath
    rw [if_neg hpath]
    exact h.follow hp

/-- A path that ends in a plain name leads to a place of this name. -/
theorem getLast?_of_follow {front place goal : List String} {name : String} (h : Path.IsPlain name)
    (hf : disk.follow place (front ++ [name]) = some goal) : goal.getLast? = some name := by
  induction front generalizing place with
  | nil =>
    rw [List.nil_append, follow_cons, enter?_of_isPlain h] at hf
    split at hf
    · obtain rfl : place ++ [name] = goal := Option.some.inj hf
      exact List.getLast?_concat
    · simp at hf
  | cons first front ih =>
    rw [List.cons_append, follow_cons] at hf
    split at hf
    · obtain ⟨next, _, hf⟩ := Option.bind_eq_some_iff.mp hf
      exact ih hf
    · simp at hf

/-- Outputs in one directory have a common place only if they have a common name. -/
theorem outputStem_eq_of_place? {directory input other : String} {place : List String}
    (h : disk.place? (Host.outputPath directory input) = some place)
    (h' : disk.place? (Host.outputPath directory other) = some place) :
    Host.outputStem input = Host.outputStem other := by
  have hlast (path : String) (hp : disk.place? (Host.outputPath directory path) = some place) :
      place.getLast? = some (Host.outputStem path ++ ".out") := by
    have hplain := Host.isPlain_output path
    obtain ⟨front, hnames⟩ := Path.exists_names_join directory hplain
    unfold place? at hp
    split at hp
    · simp at hp
    · rw [Host.outputPath_eq, hnames] at hp
      exact getLast?_of_follow hplain hp
  have hsame := Option.some.inj ((hlast input h).symm.trans (hlast other h'))
  exact (String.append_left_inj _).mp hsame

/-! ## Changes -/

private theorem lookup_filter_ne {place other : List String} (h : other ≠ place)
    (files : List (List String × List UInt8)) :
    (files.filter fun file => file.1 != place).lookup other = files.lookup other := by
  induction files with
  | nil => rfl
  | cons file files ih =>
    obtain ⟨first, content⟩ := file
    by_cases hfirst : first = place
    · subst hfirst
      have hbeq : (other == first) = false := beq_eq_false_iff_ne.mpr h
      rw [List.filter_cons_of_neg (by simp), List.lookup_cons, hbeq, ih]
    · rw [List.filter_cons_of_pos (by simpa using hfirst), List.lookup_cons, List.lookup_cons, ih]

theorem lookup_put (disk : Disk) (place other : List String) (content : List UInt8) :
    (disk.put place content).files.lookup other =
      if other = place then some content else disk.files.lookup other := by
  rw [put, List.lookup_cons]
  by_cases h : other = place
  · simp [h]
  · rw [beq_eq_false_iff_ne.mpr h, if_neg h]
    exact lookup_filter_ne h disk.files

/-- A file that is written is at its place, all others are as they were. -/
theorem write?_eq_some {path : String} {content : List UInt8}
    (h : disk.write? path content = some disk') :
    ∃ place, disk.place? path = some place ∧ disk' = disk.put place content := by
  unfold write? at h
  split at h
  · rename_i place hplace
    split at h
    · simp at h
    · exact ⟨place, hplace, (Option.some.inj h).symm⟩
  · simp at h

theorem extends_put (disk : Disk) (place : List String) (content : List UInt8) :
    disk.Extends (disk.put place content) := .refl disk

theorem makeFrom_eq_some {place names : List String} (h : disk.makeFrom place names = some disk') :
    disk'.files = disk.files ∧ disk.Extends disk' := by
  induction names generalizing disk place with
  | nil =>
    obtain rfl := Option.some.inj h
    exact ⟨rfl, .refl disk⟩
  | cons name names ih =>
    simp only [makeFrom] at h
    split at h
    · exact ih h
    · split at h
      · split at h
        · simp at h
        · exact ih h
      · split at h
        · exact ih h
        · simp at h
        · obtain ⟨hfiles, hextends⟩ := ih h
          exact ⟨hfiles, fun place hmem => hextends place (List.mem_cons_of_mem _ hmem)⟩

/-- Making a directory leaves all files and all other directories. -/
theorem makeDirectory?_eq_some {path : String} (h : disk.makeDirectory? path = some disk') :
    disk'.files = disk.files ∧ disk.Extends disk' := by
  unfold makeDirectory? at h
  split at h
  · simp at h
  · exact makeFrom_eq_some h

end Disk
end Kitchen
