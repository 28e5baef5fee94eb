import Kitchen.Proofs.Metrics.Scraping
import Kitchen.Proofs.Number.Written

/-!
# Expositions read back

A collector reads the counters and the times that were written, each under the name that it had, if no
name has a line feed. The line feed is the one character of the format that the exposition does not
escape: a name that has one ends its line inside the value of a label, and such a text has no meaning.
-/

namespace Kitchen

open Text

namespace Scrape

/-! ## Numbers -/

/-- A fraction in decimal digits is read as a number, with a sign before it or without. -/
theorem isSome_ofChars? {s body : List Char} {negative : Bool} (hsign : splitSign s = (negative, body))
    (hbody : (readDecimal? body).isSome = true) : (Binary64.ofChars? s).isSome = true := by
  rw [Binary64.ofChars?, hsign]
  dsimp only
  split
  · rfl
  · split
    · rfl
    · rw [Option.isSome_map]
      exact hbody

theorem notMem_delimiters_of_digit {c : Char} (h : isAsciiDigit c = true) : c ∉ delimiters := by
  intro hmem
  have hnone : delimiters.all (!isAsciiDigit ·) = true := by decide
  have hc := List.all_eq_true.mp hnone c hmem
  rw [h] at hc
  cases hc

theorem isNumber_toDigits (n : Nat) : IsNumber (Nat.toDigits 10 n) where
  reads := by
    have hdigits := allDigits_toDigits n
    have hne : (Nat.toDigits 10 n).isEmpty = false := List.isEmpty_eq_false_iff.mpr Nat.toDigits_ne_nil
    have htake : (Nat.toDigits 10 n).takeWhile isAsciiDigit = Nat.toDigits 10 n :=
      List.takeWhile_eq_self_iff.mpr hdigits
    have hdrop : (Nat.toDigits 10 n).dropWhile isAsciiDigit = [] := List.dropWhile_eq_nil_iff.mpr hdigits
    refine isSome_ofChars? hdigits.splitSign_eq ?_
    rw [readDecimal?, htake, hdrop]
    simp only [hne, Bool.false_and, Bool.false_eq_true, if_false, Option.isSome_some]
  chars c hc := notMem_delimiters_of_digit (allDigits_toDigits n c hc)

/-- Digits with a point among them. -/
theorem isNumber_point {whole places : List Char} (hwhole : AllDigits whole) (hne : whole ≠ [])
    (hplaces : AllDigits places) (negative : Bool) :
    IsNumber ((if negative then ['-'] else []) ++ whole ++ '.' :: places) where
  reads := by
    have hbody : (readDecimal? (whole ++ '.' :: places)).isSome = true := by
      rw [readDecimal?_point hwhole hne hplaces]
      rfl
    rw [List.append_assoc]
    cases negative with
    | true => exact isSome_ofChars? rfl hbody
    | false =>
      cases whole with
      | nil => exact absurd rfl hne
      | cons c whole => exact isSome_ofChars? (splitSign_of_digit rfl (hwhole c List.mem_cons_self)) hbody
  chars c hc := by
    rw [List.append_assoc, List.mem_append, List.mem_append, List.mem_cons] at hc
    rcases hc with hsign | hwhole' | rfl | hplaces'
    · cases negative with
      | true =>
        obtain rfl := List.mem_singleton.mp hsign
        decide
      | false => cases hsign
    · exact notMem_delimiters_of_digit (hwhole c hwhole')
    · decide
    · exact notMem_delimiters_of_digit (hplaces c hplaces')

/-- Digits with a point before the last of them. -/
theorem isNumber_placed {digits : List Char} {places : Nat} (h : AllDigits digits)
    (hlong : places < digits.length) (negative : Bool) :
    IsNumber ((if negative then ['-'] else []) ++ digits.take (digits.length - places) ++ ['.'] ++
      digits.drop (digits.length - places)) := by
  have hwhole : AllDigits (digits.take (digits.length - places)) := fun c hc => h c (List.mem_of_mem_take hc)
  have hplaces : AllDigits (digits.drop (digits.length - places)) := fun c hc => h c (List.mem_of_mem_drop hc)
  have hne : digits.take (digits.length - places) ≠ [] := by
    rw [← List.length_pos_iff, List.length_take]
    omega
  rw [List.append_assoc _ ['.'], List.singleton_append]
  exact isNumber_point hwhole hne hplaces negative

theorem isNumber_fixed (places : Nat) (x : Binary64) : IsNumber (Binary64.fixed places x).toList := by
  cases x with
  | nan =>
    change IsNumber "NaN".toList
    exact isNumber_of_all (by decide) (by decide)
  | infinite negative =>
    cases negative with
    | true =>
      change IsNumber ("-" ++ "inf").toList
      exact isNumber_of_all (by decide) (by decide)
    | false =>
      change IsNumber ("" ++ "inf").toList
      exact isNumber_of_all (by decide) (by decide)
  | finite negative rank =>
    rw [Binary64.fixed, String.toList_ofList]
    apply isNumber_placed
    · exact (allDigits_replicate _).append (allDigits_toDigits _)
    · rw [List.length_append, List.length_replicate]
      omega

/-! ## Lines -/

theorem readLines_append (lines rest : List (List Char)) :
    readLines (lines ++ rest) =
      (readLines lines).bind fun readings => (readLines rest).map (readings ++ ·) := by
  induction lines with
  | nil => simp [readLines]
  | cons line lines ih =>
    rw [List.cons_append, readLines, readLines, ih]
    cases readLine line with
    | none => rfl
    | some first =>
      cases readLines lines with
      | none => rfl
      | some readings =>
        cases readLines rest with
        | none => rfl
        | some others => simp

/-- Lines that come from items are read if those of every item are. -/
theorem readLines_flatMap {α : Type} {lines : α → List (List Char)} {readings : α → List Reading}
    {ok : α → Prop} [DecidablePred ok] {items : List α}
    (h : ∀ item ∈ items, readLines (lines item) = if ok item then some (readings item) else none) :
    readLines (items.flatMap lines) =
      if ∀ item ∈ items, ok item then some (items.flatMap readings) else none := by
  induction items with
  | nil => simp [readLines]
  | cons item items ih =>
    have hrest := ih fun other hmem => h other (List.mem_cons_of_mem item hmem)
    rw [List.flatMap_cons, readLines_append, h item List.mem_cons_self, hrest]
    by_cases hfirst : ok item
    · by_cases hothers : ∀ other ∈ items, ok other
      · have hall : ∀ other ∈ item :: items, ok other := List.forall_mem_cons.mpr ⟨hfirst, hothers⟩
        rw [if_pos hfirst, if_pos hothers, if_pos hall]
        rfl
      · have hall : ¬ ∀ other ∈ item :: items, ok other :=
          fun hall => hothers (List.forall_mem_cons.mp hall).2
        rw [if_pos hfirst, if_neg hothers, if_neg hall, Option.bind_some, Option.map_none]
    · have hall : ¬ ∀ other ∈ item :: items, ok other :=
        fun hall => hfirst (List.forall_mem_cons.mp hall).1
      rw [if_neg hfirst, if_neg hall, Option.bind_none]

end Scrape

/-! ## Samples -/

namespace Exposition

open Scrape

/-- Escaping each character is replacing the backslashes first and the quotes after them. -/
theorem escaped_eq_replaceAll (value : String) :
    escaped value = String.ofList
      (replaceAll ['"'] ['\\', '"'] (replaceAll ['\\'] ['\\', '\\'] value.toList)) := by
  rw [replaceAll_singleton, replaceAll_singleton, List.flatMap_assoc, escaped]
  congr 2
  funext c
  by_cases hslash : c = '\\'
  · subst hslash
    rfl
  · rw [escapedChar, if_neg hslash, beq_false_of_ne (Ne.symm hslash), if_neg Bool.false_ne_true,
      List.flatMap_singleton]
    by_cases hquote : c = '"'
    · subst hquote
      rfl
    · rw [if_neg hquote, beq_false_of_ne (Ne.symm hquote), if_neg Bool.false_ne_true]

/-- A sample under a name as it is to be read. -/
def Sample.reading (name : String) (sample : Sample) : Reading :=
  ⟨name, sample.label.toList, sample.value⟩

/-- The value of the label does not end the line. -/
def Sample.IsOnOneLine (sample : Sample) : Prop := ∀ label ∈ sample.label, '\n' ∉ label.2.toList

instance : DecidablePred Sample.IsOnOneLine := fun sample =>
  inferInstanceAs (Decidable (∀ label ∈ sample.label, '\n' ∉ label.2.toList))

/-- The label has a name, and the value is a number. -/
structure Sample.IsRegular (sample : Sample) : Prop where
  key : ∀ label ∈ sample.label, IsName false label.1.toList
  value : IsNumber sample.value.toList

theorem lineFeed_notMem_name {colons : Bool} {name : List Char} (h : IsName colons name) : '\n' ∉ name := by
  intro hmem
  cases colons <;> exact absurd (h.chars _ hmem) (by decide)

theorem lineFeed_notMem_escaped {label : List Char} (h : '\n' ∉ label) :
    '\n' ∉ label.flatMap escapedChar := by
  intro hmem
  obtain ⟨c, hc, hmem⟩ := List.mem_flatMap.mp hmem
  rw [escapedChar] at hmem
  split at hmem
  · exact absurd hmem (by decide)
  · split at hmem
    · exact absurd hmem (by decide)
    · rw [List.mem_singleton.mp hmem] at h
      exact h hc

theorem toList_line (name key label value : String) :
    (Sample.line name ⟨some (key, label), value⟩).toList =
      name.toList ++ '{' :: (key.toList ++ '=' :: '"' ::
        (label.toList.flatMap escapedChar ++ '"' :: '}' :: ' ' :: value.toList)) := by
  simp [Sample.line, labelText, escaped]

/-- A text without line feeds is one line. -/
theorem readLines_single {line : List Char} (h : '\n' ∉ line) :
    readLines (splitAt (· == '\n') line) = readLine line := by
  have hone : splitAt (· == '\n') line = [line] :=
    splitAt_of_forall fun c hc => beq_false_of_ne (ne_of_mem_of_not_mem hc h)
  rw [hone, readLines, readLines]
  cases readLine line with
  | none => rfl
  | some readings => simp

/-- A sample whose label ends the line has no meaning. -/
theorem readLines_broken {name key : List Char} (hname : IsName true name) (hkey : IsName false key)
    {label : List Char} (h : '\n' ∈ label) (rest : List Char) :
    readLines (splitAt (· == '\n')
      (name ++ '{' :: (key ++ '=' :: '"' :: (label.flatMap escapedChar ++ rest)))) = none := by
  obtain ⟨before, after, rfl, hbefore⟩ := List.eq_append_cons_of_mem h
  have hline : name ++ '{' :: (key ++ '=' :: '"' :: ((before ++ '\n' :: after).flatMap escapedChar ++ rest)) =
      name ++ '{' :: (key ++ '=' :: '"' :: before.flatMap escapedChar) ++
        '\n' :: (after.flatMap escapedChar ++ rest) := by
    have hfeed : escapedChar '\n' = ['\n'] := rfl
    simp only [List.flatMap_append, List.flatMap_cons, hfeed, List.append_assoc, List.cons_append,
      List.nil_append]
  have hfirst : '\n' ∉ name ++ '{' :: (key ++ '=' :: '"' :: before.flatMap escapedChar) := by
    simp only [List.mem_append, List.mem_cons, not_or]
    exact ⟨lineFeed_notMem_name hname, by decide, lineFeed_notMem_name hkey, by decide, by decide,
      lineFeed_notMem_escaped hbefore⟩
  rw [hline, splitAt_append (by decide), readLines_append, readLines_single hfirst,
    readLine_unclosed hname hkey, Option.bind_none]

/-- A line is read as the sample that it was written for, if the value of its label does not end it. -/
theorem readLines_line {name : String} (hname : IsName true name.toList) {sample : Sample}
    (h : sample.IsRegular) :
    readLines (splitAt (· == '\n') (sample.line name).toList) =
      if sample.IsOnOneLine then some [sample.reading name] else none := by
  obtain ⟨_ | ⟨key, label⟩, value⟩ := sample
  · have hline : (Sample.line name ⟨none, value⟩).toList = name.toList ++ ' ' :: value.toList := by
      simp [Sample.line, labelText]
    have hone : Sample.IsOnOneLine ⟨none, value⟩ := fun label hlabel => absurd hlabel (Option.not_mem_none _)
    have hfeed : '\n' ∉ name.toList ++ ' ' :: value.toList := by
      simp only [List.mem_append, List.mem_cons, not_or]
      exact ⟨lineFeed_notMem_name hname, by decide, fun hmem => h.value.chars _ hmem (by decide)⟩
    rw [hline, readLines_single hfeed, readLine_bare hname h.value, if_pos hone, String.ofList_toList,
      String.ofList_toList]
    rfl
  · have hkey : IsName false key.toList := h.key _ rfl
    rw [toList_line]
    by_cases hlabel : '\n' ∈ label.toList
    · have hbroken : ¬ Sample.IsOnOneLine ⟨some (key, label), value⟩ := fun hone => hone _ rfl hlabel
      rw [readLines_broken hname hkey hlabel, if_neg hbroken]
    · have hone : Sample.IsOnOneLine ⟨some (key, label), value⟩ := by
        rintro _ ⟨⟩
        exact hlabel
      have hfeed : '\n' ∉ name.toList ++ '{' :: (key.toList ++ '=' :: '"' ::
          (label.toList.flatMap escapedChar ++ '"' :: '}' :: ' ' :: value.toList)) := by
        simp only [List.mem_append, List.mem_cons, not_or]
        exact ⟨lineFeed_notMem_name hname, by decide, lineFeed_notMem_name hkey, by decide, by decide,
          lineFeed_notMem_escaped hlabel, by decide, by decide, by decide,
          fun hmem => h.value.chars _ hmem (by decide)⟩
      rw [readLines_single hfeed, readLine_labelled hname hkey h.value, if_pos hone]
      simp only [String.ofList_toList]
      rfl

/-! ## Families -/

def Family.readings (family : Family) : List Reading := family.samples.map (·.reading family.name)

/-- The samples of a family have a name and are numbers, and its comments stand on one line each. -/
structure Family.IsRegular (family : Family) : Prop where
  name : IsName true family.name.toList
  kind : '\n' ∉ family.kind.toList
  help : '\n' ∉ family.help.toList
  samples : ∀ sample ∈ family.samples, sample.IsRegular

theorem readLines_comment {text : String} {rest : List Char} (htext : text.toList = '#' :: rest)
    (h : '\n' ∉ rest) : readLines (splitAt (· == '\n') text.toList) = some [] := by
  have hfeed : '\n' ∉ '#' :: rest := by
    simp only [List.mem_cons, not_or]
    exact ⟨by decide, h⟩
  rw [htext, readLines_single hfeed, readLine, skipGap_cons (by decide)]
  rfl

theorem readLines_family {family : Family} (h : family.IsRegular) :
    readLines (family.lines.flatMap fun line => splitAt (· == '\n') line.toList) =
      if ∀ sample ∈ family.samples, sample.IsOnOneLine then some family.readings else none := by
  have hcomment (word text : String) (hword : '\n' ∉ word.toList) (htext : '\n' ∉ text.toList) :
      readLines (splitAt (· == '\n') ("# " ++ word ++ " " ++ family.name ++ " " ++ text).toList) =
        some [] := by
    have hlist : ("# " ++ word ++ " " ++ family.name ++ " " ++ text).toList =
        '#' :: ' ' :: (word.toList ++ ' ' :: (family.name.toList ++ ' ' :: text.toList)) := by
      simp
    refine readLines_comment hlist ?_
    simp only [List.mem_append, List.mem_cons, not_or]
    exact ⟨by decide, hword, by decide, lineFeed_notMem_name h.name, by decide, htext⟩
  have hhelp : s!"# HELP {family.name} {family.help}" =
      "# " ++ "HELP" ++ " " ++ family.name ++ " " ++ family.help := rfl
  have hkind : s!"# TYPE {family.name} {family.kind}" =
      "# " ++ "TYPE" ++ " " ++ family.name ++ " " ++ family.kind := rfl
  have hsamples : readLines ((family.samples.map (·.line family.name)).flatMap
      fun line => splitAt (· == '\n') line.toList) =
        if ∀ sample ∈ family.samples, sample.IsOnOneLine then some family.readings else none := by
    rw [List.flatMap_map, Family.readings, List.map_eq_flatMap]
    exact readLines_flatMap fun sample hmem => readLines_line h.name (h.samples sample hmem)
  rw [Family.lines, List.flatMap_cons, List.flatMap_cons, hhelp, hkind, readLines_append,
    hcomment _ _ (by decide) h.help, readLines_append, hcomment _ _ (by decide) h.kind, hsamples]
  split <;> rfl

theorem splitAt_join (lines : List String) :
    splitAt (· == '\n') (String.join (lines.map (· ++ "\n"))).toList =
      (lines.flatMap fun line => splitAt (· == '\n') line.toList) ++ [[]] := by
  rw [String.toList_join, List.flatMap_map]
  induction lines with
  | nil => rfl
  | cons line lines ih =>
    have hend : (line ++ "\n").toList = line.toList ++ ['\n'] := String.toList_append
    rw [List.flatMap_cons, hend, List.append_assoc, List.singleton_append, splitAt_append (by decide), ih,
      List.flatMap_cons, List.append_assoc]

/-- Families are read as their samples, if no value of a label ends its line. Otherwise their text has
no meaning. -/
theorem read_render {families : List Family} (h : ∀ family ∈ families, family.IsRegular) :
    read (render families) =
      if ∀ family ∈ families, ∀ sample ∈ family.samples, sample.IsOnOneLine then
        some (families.flatMap Family.readings)
      else none := by
  simp only [Scrape.read]
  rw [render, splitAt_join, List.getLast?_concat, if_pos rfl, List.dropLast_concat, List.flatMap_assoc]
  exact readLines_flatMap fun family hmem => readLines_family (h family hmem)

end Exposition

/-! ## Metrics -/

namespace Metrics

open Exposition Scrape

/-- Counters under names as the samples of one family. -/
def countedAs (family key : String) (counters : List (String × Nat)) : List Reading :=
  counters.map fun (name, count) => ⟨family, [(key, name)], toString count⟩

/-- A sample for each way in which bakes end, for each kind of failure, and for each operation its
calls and its failures. -/
def counted (metrics : Metrics) : List Reading :=
  countedAs "bakehouse_bakes_total" "outcome"
      [("completed", metrics.completed), ("paused", metrics.paused), ("failed", metrics.failed)] ++
    countedAs "bakehouse_bake_failures_total" "kind" metrics.failures ++
    countedAs "bakehouse_operation_calls_total" "operation"
      (metrics.operations.map fun (name, counters) => (name, counters.calls)) ++
    countedAs "bakehouse_operation_failures_total" "operation"
      (metrics.operations.map fun (name, counters) => (name, counters.failures))

/-- The samples of times. -/
def timed (metrics : Metrics) : List Reading :=
  (metrics.operations.map fun (name, counters) =>
      ⟨"bakehouse_operation_duration_seconds_total", [("operation", name)], seconds counters.total⟩) ++
    (metrics.operations.map fun (name, counters) =>
      ⟨"bakehouse_operation_duration_seconds_max", [("operation", name)], seconds counters.longest⟩) ++
    [⟨"bakehouse_last_bake_duration_seconds", [], seconds metrics.lastTime⟩]

/-- The names of operations and of kinds of failures that have been counted. -/
def names (metrics : Metrics) : List String :=
  metrics.operations.map Prod.fst ++ metrics.failures.map Prod.fst

private theorem isNumber_toString (n : Nat) : IsNumber (toString n).toList := by
  rw [toList_natToString]
  exact isNumber_toDigits n

private theorem labelled_regular {key name value : String} (hkey : IsName false key.toList)
    (hvalue : IsNumber value.toList) : (labelled key name value).IsRegular := by
  refine ⟨?_, hvalue⟩
  rintro _ ⟨⟩
  exact hkey

private theorem family_regular {name kind help : String} {samples : List Sample}
    (hname : IsName true name.toList) (hkind : '\n' ∉ kind.toList) (hhelp : '\n' ∉ help.toList)
    (hsamples : ∀ sample ∈ samples, sample.IsRegular) : Family.IsRegular ⟨name, kind, help, samples⟩ :=
  ⟨hname, hkind, hhelp, hsamples⟩

private theorem operationFamily_regular (metrics : Metrics) {name kind help : String}
    {value : OperationMetrics → String} (hname : IsName true name.toList) (hkind : '\n' ∉ kind.toList)
    (hhelp : '\n' ∉ help.toList) (hvalue : ∀ counters, IsNumber (value counters).toList) :
    (operationFamily metrics name kind help value).IsRegular := by
  refine family_regular hname hkind hhelp fun sample hmem => ?_
  obtain ⟨⟨operation, counters⟩, -, rfl⟩ := List.mem_map.mp hmem
  exact labelled_regular (by decide) (hvalue counters)

/-- All that is written before and behind the values can be read. -/
theorem families_regular (metrics : Metrics) : ∀ family ∈ families metrics, family.IsRegular := by
  intro family hmem
  simp only [families, List.mem_cons, List.not_mem_nil, or_false] at hmem
  rcases hmem with rfl | rfl | rfl | rfl | rfl | rfl | rfl
  · refine family_regular (by decide) (by decide) (by decide) fun sample hsample => ?_
    simp only [List.mem_cons, List.not_mem_nil, or_false] at hsample
    rcases hsample with rfl | rfl | rfl
    all_goals exact labelled_regular (by decide) (isNumber_toString _)
  · refine family_regular (by decide) (by decide) (by decide) fun sample hsample => ?_
    obtain ⟨⟨kind, count⟩, -, rfl⟩ := List.mem_map.mp hsample
    exact labelled_regular (by decide) (isNumber_toString count)
  · exact metrics.operationFamily_regular (by decide) (by decide) (by decide)
      fun counters => isNumber_toString counters.calls
  · exact metrics.operationFamily_regular (by decide) (by decide) (by decide)
      fun counters => isNumber_toString counters.failures
  · exact metrics.operationFamily_regular (by decide) (by decide) (by decide) fun _ => isNumber_fixed 6 _
  · exact metrics.operationFamily_regular (by decide) (by decide) (by decide) fun _ => isNumber_fixed 6 _
  · refine family_regular (by decide) (by decide) (by decide) fun sample hsample => ?_
    obtain rfl := List.mem_singleton.mp hsample
    exact ⟨fun label hlabel => absurd hlabel (Option.not_mem_none _), isNumber_fixed 6 _⟩

theorem labelled_isOnOneLine {key name value : String} :
    (labelled key name value).IsOnOneLine ↔ '\n' ∉ name.toList := by
  constructor
  · exact fun h => h _ rfl
  · rintro h _ ⟨⟩
    exact h

/-- The names that have been counted are all that can end a line. -/
theorem isOnOneLine_families (metrics : Metrics) :
    (∀ family ∈ families metrics, ∀ sample ∈ family.samples, sample.IsOnOneLine) ↔
      ∀ name ∈ metrics.names, '\n' ∉ name.toList := by
  have hbare (value : String) : Sample.IsOnOneLine ⟨none, value⟩ :=
    fun label hlabel => absurd hlabel (Option.not_mem_none _)
  have hcompleted : '\n' ∉ "completed".toList := by decide
  have hpaused : '\n' ∉ "paused".toList := by decide
  have hfailed : '\n' ∉ "failed".toList := by decide
  simp only [families, operationFamily, names, List.forall_mem_cons, List.forall_mem_append,
    List.forall_mem_map, labelled_isOnOneLine, hbare, hcompleted, hpaused, hfailed, List.not_mem_nil,
    false_imp_iff, implies_true, not_false_eq_true, and_true, true_and, and_self]
  exact and_comm

theorem readings_families (metrics : Metrics) :
    (families metrics).flatMap Family.readings = metrics.counted ++ metrics.timed := by
  simp only [families, Family.readings, counted, timed, countedAs, operationFamily, Sample.reading, labelled,
    List.flatMap_cons, List.flatMap_nil, List.map_cons, List.map_nil, List.map_map, List.append_assoc,
    List.append_nil]
  rfl

/-- A collector reads each counter and each time once, under the name that it was counted for, if no name
has a line feed. Otherwise the exposition has no meaning. -/
theorem read_exposition (metrics : Metrics) :
    Scrape.read metrics.exposition =
      if ∀ name ∈ metrics.names, '\n' ∉ name.toList then some (metrics.counted ++ metrics.timed)
      else none := by
  rw [exposition, read_render metrics.families_regular, readings_families]
  exact if_congr metrics.isOnOneLine_families rfl rfl

/-- One call of an operation whose name has two lines. -/
def twoLines : Metrics :=
  { Metrics.zero with operations := [("a\nb", { OperationMetrics.zero with calls := 1 })] }

/-- The call is lost with all else. -/
theorem not_read_exposition_twoLines : Scrape.read twoLines.exposition = none := by
  have hfeed : ¬ ∀ name ∈ twoLines.names, '\n' ∉ name.toList := by decide
  rw [exposition, read_render twoLines.families_regular, if_neg (mt twoLines.isOnOneLine_families.mp hfeed)]

end Metrics
end Kitchen
