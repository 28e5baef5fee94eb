import Kitchen.Proofs.Batch.Interleaving
import Kitchen.Proofs.CommandLine.Commands
import Mathlib.Data.List.Nodup

/-!
# Outputs of batches

A batch writes the dish of each input to the output directory, under the name of the input without its
directory and its extension. Inputs that differ in nothing else write to the same file, and the last
of them wins. So when a batch ends well, every input whose name in the output directory no later input
has finds the bytes of its own bake there, and the other outputs are lost.
-/

namespace Kitchen

open Host

/-! ## Outputs on a disk -/

namespace Disk

variable {disk mid disk' : Disk} {directory input : String}

/-- A file has been written to a place, and all others are as they were. -/
structure Wrote (disk : Disk) (path : String) (content : List UInt8) (place : List String)
    (disk' : Disk) : Prop where
  keeps : disk.Extends disk'
  leads : disk'.place? path = some place
  lookup : ∀ other, disk'.files.lookup other =
    if other = place then some content else disk.files.lookup other

/-- A result has been written, and is still there unless a later input has the same name. -/
def HasWritten (disk' : Disk) (directory input : String) (result : Result)
    (later : List (String × Result)) : Prop :=
  ∃ outcome bytes place, result = .ok outcome ∧ outcome.dish.served = .ok bytes ∧
    disk'.place? (outputPath directory input) = some place ∧
    ((∀ pair ∈ later, outputStem pair.1 ≠ outputStem input) →
      disk'.files.lookup place = some bytes)

/-- What results that have all been written leave on a disk. -/
structure WroteAll (disk : Disk) (directory : String) (pairs : List (String × Result))
    (disk' : Disk) : Prop where
  keeps : disk.Extends disk'
  others : ∀ place, (∀ pair ∈ pairs, disk'.place? (outputPath directory pair.1) ≠ some place) →
    disk'.files.lookup place = disk.files.lookup place
  written : ∀ earlier input result later, pairs = earlier ++ (input, result) :: later →
    disk'.HasWritten directory input result later

/-- A later output leaves an earlier one unless it has the same name. -/
theorem Wrote.cons {outcome : Outcome} {bytes : List UInt8} {place : List String}
    {pairs : List (String × Result)} (h : disk.Wrote (outputPath directory input) bytes place mid)
    (hserved : outcome.dish.served = .ok bytes) (hrest : mid.WroteAll directory pairs disk') :
    disk.WroteAll directory ((input, .ok outcome) :: pairs) disk' where
  keeps := h.keeps.trans hrest.keeps
  others other hother := by
    obtain ⟨hfirst, hothers⟩ := List.forall_mem_cons.mp hother
    have hne : other ≠ place := by
      rintro rfl
      exact hfirst (hrest.keeps.place? h.leads)
    rw [hrest.others other hothers, h.lookup, if_neg hne]
  written earlier other result later heq := by
    cases earlier with
    | nil =>
      obtain ⟨hhead, rfl⟩ := List.cons.inj heq
      obtain ⟨rfl, rfl⟩ := Prod.mk.inj hhead
      have hplace := hrest.keeps.place? h.leads
      refine ⟨outcome, bytes, place, rfl, hserved, hplace, fun hlater => ?_⟩
      -- A later output at the place would have the same name.
      have hothers : ∀ pair ∈ pairs, disk'.place? (outputPath directory pair.1) ≠ some place := by
        intro pair hmem hsame
        exact hlater pair hmem (outputStem_eq_of_place? hsame hplace)
      rw [hrest.others place hothers, h.lookup, if_pos rfl]
    | cons first earlier =>
      obtain ⟨_, rfl⟩ := List.cons.inj heq
      exact hrest.written earlier other result later rfl

end Disk

namespace Terminal

variable {before after : Terminal}

/-! ## Reading -/

theorem does_readRecipe {path : String} {recipe : Recipe}
    (h : before.Does (host.readRecipe path) recipe after) : before = after := by
  obtain ⟨bytes, mid, hbytes, h⟩ := does_bind.mp h
  obtain ⟨_, rfl⟩ := gives_readFile.mp (does_need.mp hbytes)
  obtain ⟨text, mid, htext, h⟩ := does_bind.mp h
  obtain ⟨_, rfl⟩ := gives_pure.mp (does_need.mp htext)
  exact (gives_pure.mp (does_need.mp h)).2

/-- The dish is the content of the file. -/
def HoldsContent (terminal : Terminal) (path : String) (dish : Dish) : Prop :=
  ∃ content, terminal.disk.read? path = some content ∧ dish = .byteArray content

theorem does_readDishes {inputs : List String} {dishes : List Dish}
    (h : before.Does (inputs.mapM host.readDish) dishes after) :
    before = after ∧ List.Forall₂ before.HoldsContent inputs dishes := by
  induction inputs generalizing dishes with
  | nil =>
    rw [List.mapM_nil] at h
    obtain ⟨rfl, rfl⟩ := does_pure.mp h
    exact ⟨rfl, .nil⟩
  | cons input inputs ih =>
    rw [List.mapM_cons] at h
    obtain ⟨dish, mid, hdish, h⟩ := does_bind.mp h
    obtain ⟨others, last, hothers, h⟩ := does_bind.mp h
    obtain ⟨rfl, rfl⟩ := does_pure.mp h
    obtain ⟨content, mid', hcontent, hdish⟩ := does_bind.mp hdish
    obtain ⟨hread, rfl⟩ := gives_readFile.mp (does_need.mp hcontent)
    obtain ⟨rfl, rfl⟩ := does_pure.mp hdish
    obtain ⟨rfl, hrest⟩ := ih hothers
    exact ⟨rfl, .cons ⟨content, hread, rfl⟩ hrest⟩

/-! ## Writing -/

theorem does_makeParent {path : String} (h : before.Does (host.makeParent path) () after) :
    after.disk.files = before.disk.files ∧ before.disk.Extends after.disk := by
  have hsame : before.Does (pure ()) () after →
      after.disk.files = before.disk.files ∧ before.disk.Extends after.disk := by
    intro h
    obtain ⟨_, rfl⟩ := does_pure.mp h
    exact ⟨rfl, .refl _⟩
  unfold makeParent at h
  split at h
  · split at h
    · obtain ⟨disk, hdisk, rfl⟩ := gives_makeDirectory.mp (does_must.mp h)
      exact Disk.makeDirectory?_eq_some hdisk
    · exact hsame h
  · exact hsame h

theorem does_write {path : String} {content : List UInt8} {fault : CommandFault}
    (h : before.Does (host.write path content fault) () after) :
    ∃ place, before.disk.Wrote path content place after.disk := by
  obtain ⟨_, mid, hparent, h⟩ := does_bind.mp h
  obtain ⟨hfiles, hextends⟩ := does_makeParent hparent
  obtain ⟨disk, hdisk, rfl⟩ := gives_writeFile.mp (does_must.mp h)
  obtain ⟨place, hplace, rfl⟩ := Disk.write?_eq_some hdisk
  have hput := mid.disk.extends_put place content
  refine ⟨place, hextends.trans hput, hput.place? hplace, fun other => ?_⟩
  rw [← hfiles]
  exact mid.disk.lookup_put place other content

theorem does_writeDish {path : String} {dish : Dish}
    (h : before.Does (host.writeDish (some path) dish) () after) :
    ∃ bytes place, dish.served = .ok bytes ∧ before.disk.Wrote path bytes place after.disk := by
  obtain ⟨bytes, mid, hbytes, h⟩ := does_bind.mp h
  obtain ⟨hserved, rfl⟩ := does_except.mp hbytes
  obtain ⟨place, hwrote⟩ := does_write h
  exact ⟨bytes, place, hserved, hwrote⟩

/-- Results of which none is a failure are all written. -/
theorem does_writeResults {directory : String} {pairs : List (String × Result)}
    (h : before.Does (host.writeResults directory pairs) 0 after) :
    before.disk.WroteAll directory pairs after.disk := by
  induction pairs generalizing before with
  | nil =>
    obtain ⟨_, rfl⟩ := does_pure.mp h
    exact ⟨.refl _, fun _ _ => rfl, fun earlier _ _ _ heq => by simp at heq⟩
  | cons pair pairs ih =>
    obtain ⟨input, failure | outcome⟩ := pair
    · obtain ⟨_, mid, _, h⟩ := does_bind.mp h
      obtain ⟨failed, last, _, h⟩ := does_bind.mp h
      obtain ⟨hzero, _⟩ := does_pure.mp h
      exact absurd hzero (Nat.succ_ne_zero failed)
    · obtain ⟨_, mid, hdish, h⟩ := does_bind.mp h
      obtain ⟨bytes, place, hserved, hwrote⟩ := does_writeDish hdish
      exact hwrote.cons hserved (ih h)

/-- Failed bakes and metrics change nothing on the disk, and there are no failed bakes. -/
private theorem does_batchEnd {failed total : Nat} {printMetrics : Bool} {line : String}
    (h : before.Does
      (if printMetrics then do
        host.note line
        if failed ≠ 0 then throw (.bakes failed total) else pure ()
      else if failed ≠ 0 then throw (.bakes failed total) else pure ()) () after) :
    failed = 0 ∧ after.disk = before.disk := by
  have hend {before : Terminal} (h : before.Does
      (if failed ≠ 0 then throw (.bakes failed total) else pure ()) () after) :
      failed = 0 ∧ before = after := by
    split at h
    · exact absurd h does_throw
    · rename_i hzero
      exact ⟨not_ne_iff.mp hzero, (does_pure.mp h).2⟩
  split at h
  · obtain ⟨_, mid, hnote, h⟩ := does_bind.mp h
    obtain ⟨hzero, rfl⟩ := hend h
    exact ⟨hzero, disk_of_gives_note (does_request.mp hnote)⟩
  · obtain ⟨hzero, rfl⟩ := hend h
    exact ⟨hzero, rfl⟩

/-! ## Batches -/

/-- The bake of an input of a batch. -/
def Bakes (before : Terminal) (recipe : Recipe) (input : String) (attempt : Attempt) : Prop :=
  ∃ content, before.disk.read? input = some content ∧
    Registry.builtIn.Attempts recipe (.byteArray content) .default attempt

/-- The file that the output directory has for an input holds the bytes of the dish that the bake of
the input comes to on its own. -/
def KeepsOutput (before after : Terminal) (directory : String) (recipe : Recipe) (input : String) :
    Prop :=
  ∃ attempt outcome bytes, before.Bakes recipe input attempt ∧ attempt.result = .ok outcome ∧
    outcome.dish.served = .ok bytes ∧
    after.disk.read? (outputPath directory input) = some bytes

/-- The inputs were files before there was an output directory, and it has not changed them. -/
theorem forall₂_bakes {disk : Disk} {recipe : Recipe} {fuel : Nat} {inputs : List String}
    {dishes : List Dish} {attempts : List Attempt}
    (hfiles : ∀ path ∈ inputs, before.Gives (host.isFile path) true before)
    (hextends : before.disk.Extends disk) (hsame : disk.files = before.disk.files)
    (hheld : List.Forall₂ { before with disk }.HoldsContent inputs dishes)
    (hbakes : List.Forall₂ (Registry.builtIn.bake fuel recipe · .default = some ·) dishes attempts) :
    List.Forall₂ (before.Bakes recipe) inputs attempts := by
  induction hheld generalizing attempts with
  | nil =>
    cases hbakes
    exact .nil
  | cons hdish _ ih =>
    obtain ⟨hfile, hfiles⟩ := List.forall_mem_cons.mp hfiles
    cases hbakes with
    | cons hbake hbakes =>
      obtain ⟨content, hread, rfl⟩ := hdish
      obtain ⟨found, hfound⟩ := exists_content hfile
      obtain rfl := Option.some.inj ((hfound disk hextends hsame).symm.trans hread)
      have hbefore := hfound before.disk (.refl _) rfl
      exact .cons ⟨found, hbefore, fuel, hbake⟩ (ih hfiles hbakes)

/-- What a batch that ends well has done: the bakes of its inputs, and then their outputs. -/
theorem does_batch {fuel : Nat} {request : BatchRequest}
    (h : before.Does (host.batch fuel request) () after) :
    ∃ recipe inputs attempts, before.Does (host.readRecipe request.recipe) recipe before ∧
      before.Does (host.expand fuel request.patterns) inputs before ∧
      List.Forall₂ (before.Bakes recipe) inputs attempts ∧
      ∃ disk : Disk, disk.WroteAll request.outputDirectory
        (inputs.zip (attempts.map (·.result))) after.disk := by
  obtain ⟨recipe, mid, hrecipe, h⟩ := does_bind.mp h
  obtain rfl := does_readRecipe hrecipe
  obtain ⟨inputs, mid, hinputs, h⟩ := does_bind.mp h
  obtain ⟨rfl, hfiles⟩ := does_expand hinputs
  obtain ⟨_, mid, hmade, h⟩ := does_bind.mp h
  obtain ⟨disk, hdisk, rfl⟩ := gives_makeDirectory.mp (does_must.mp hmade)
  obtain ⟨hsame, hextends⟩ := Disk.makeDirectory?_eq_some hdisk
  obtain ⟨dishes, mid, hdishes, h⟩ := does_bind.mp h
  obtain ⟨rfl, hheld⟩ := does_readDishes hdishes
  obtain ⟨⟨results, last⟩, mid, hbaked, h⟩ := does_bind.mp h
  obtain ⟨hbatch, rfl⟩ := gives_pure.mp (does_need.mp hbaked)
  obtain ⟨attempts, hattempts, rfl, _⟩ := Chef.bakeBatch_eq_some.mp hbatch
  obtain ⟨failed, written, hwritten, h⟩ := does_bind.mp h
  obtain ⟨rfl, hlast⟩ := does_batchEnd h
  have hwrote := does_writeResults hwritten
  rw [← hlast] at hwrote
  exact ⟨recipe, inputs, attempts, hrecipe, hinputs,
    forall₂_bakes hfiles hextends hsame hheld hattempts, disk, hwrote⟩

/-- What has become of the bake of an input among those of others. -/
theorem exists_hasWritten {disk disk' : Disk} {directory input : String} {recipe : Recipe}
    {earlier later : List String} {attempts : List Attempt}
    (hbakes : List.Forall₂ (before.Bakes recipe) (earlier ++ input :: later) attempts)
    (hwrote : disk.WroteAll directory
      ((earlier ++ input :: later).zip (attempts.map (·.result))) disk') :
    ∃ attempt pairs, before.Bakes recipe input attempt ∧ (∀ pair ∈ pairs, pair.1 ∈ later) ∧
      disk'.HasWritten directory input attempt.result pairs := by
  have hrest := List.forall₂_drop_append attempts earlier (input :: later) hbakes.flip
  obtain ⟨attempt, back, hbake, _, heq⟩ := List.forall₂_cons_right_iff.mp hrest
  have hsplit : attempts = attempts.take earlier.length ++ attempt :: back := by
    rw [← heq, List.take_append_drop]
  have hlength : earlier.length = ((attempts.take earlier.length).map (·.result)).length := by
    have htotal := hbakes.length_eq
    rw [List.length_append] at htotal
    rw [List.length_map, List.length_take]
    omega
  rw [hsplit, List.map_append, List.map_cons, List.zip_append hlength, List.zip_cons_cons] at hwrote
  refine ⟨attempt, later.zip (back.map (·.result)), hbake, fun pair hmem => ?_, ?_⟩
  · exact (List.of_mem_zip hmem).1
  · exact hwrote.written _ _ _ _ rfl

/-- After a batch that has ended well the output directory has a file for every input. It holds the
bytes of the dish that the bake of the input comes to, unless a later input has the same name, without
its directory and its extension: these two have one file. So if no two inputs have the same name, no
output is lost. -/
theorem batch_keeps_outputs {fuel : Nat} {request : BatchRequest}
    (h : before.Does (host.batch fuel request) () after) :
    ∃ recipe inputs, before.Does (host.readRecipe request.recipe) recipe before ∧
      before.Does (host.expand fuel request.patterns) inputs before ∧
      (∀ earlier input later, inputs = earlier ++ input :: later →
        (∀ other ∈ later, outputStem other ≠ outputStem input) →
        before.KeepsOutput after request.outputDirectory recipe input) ∧
      (∀ input ∈ inputs, ∀ other ∈ inputs,
        after.disk.place? (outputPath request.outputDirectory input) =
          after.disk.place? (outputPath request.outputDirectory other) ↔
        outputStem input = outputStem other) ∧
      ((inputs.map outputStem).Nodup →
        (∀ input ∈ inputs, before.KeepsOutput after request.outputDirectory recipe input) ∧
        (inputs.map fun input =>
          after.disk.place? (outputPath request.outputDirectory input)).Nodup) := by
  obtain ⟨recipe, inputs, attempts, hrecipe, hinputs, hbakes, disk, hwrote⟩ := does_batch h
  have hlast (earlier : List String) (input : String) (later : List String)
      (heq : inputs = earlier ++ input :: later)
      (hlater : ∀ other ∈ later, outputStem other ≠ outputStem input) :
      before.KeepsOutput after request.outputDirectory recipe input := by
    -- The file of an input is the last that was written under its name.
    rw [heq] at hbakes hwrote
    obtain ⟨attempt, pairs, hbake, hpairs, outcome, bytes, place, hresult, hserved, hplace, hlookup⟩ :=
      exists_hasWritten hbakes hwrote
    refine ⟨attempt, outcome, bytes, hbake, hresult, hserved, ?_⟩
    rw [Disk.read?, hplace]
    exact hlookup fun pair hmem => hlater pair.1 (hpairs pair hmem)
  have hplaces : ∀ input ∈ inputs, ∀ other ∈ inputs,
      after.disk.place? (outputPath request.outputDirectory input) =
        after.disk.place? (outputPath request.outputDirectory other) ↔
      outputStem input = outputStem other := by
    intro input hinput other _
    constructor
    · intro hsame
      obtain ⟨earlier, later, heq⟩ := List.append_of_mem hinput
      rw [heq] at hbakes hwrote
      obtain ⟨_, _, _, _, _, _, place, _, _, hplace, _⟩ := exists_hasWritten hbakes hwrote
      exact Disk.outputStem_eq_of_place? hplace (hsame ▸ hplace)
    · intro hstem
      rw [outputPath_eq, outputPath_eq, hstem]
  refine ⟨recipe, inputs, hrecipe, hinputs, hlast, hplaces, fun hdistinct => ⟨?_, ?_⟩⟩
  · intro input hinput
    obtain ⟨earlier, later, heq⟩ := List.append_of_mem hinput
    refine hlast earlier input later heq fun other hother hstem => ?_
    rw [heq, List.map_append, List.map_cons] at hdistinct
    have hhead := (List.nodup_cons.mp (List.Nodup.of_append_right hdistinct)).1
    exact hhead (hstem ▸ List.mem_map_of_mem hother)
  · refine List.Nodup.map_on (fun input hinput other hother hsame => ?_) (.of_map _ hdistinct)
    have hstem := (hplaces input hinput other hother).mp hsame
    exact List.inj_on_of_nodup_map hdistinct hinput hother hstem

end Terminal

/-- Letters become capitals. -/
def Recipe.capitals : Recipe := ⟨1, [⟨"To Upper case", [], false, false⟩], .default⟩

/-- A disk with some files beside a recipe. -/
def Terminal.besideRecipe (files : List (String × String)) : Terminal :=
  let recipe := ("r.yaml", "steps:\n  - op: To Upper case\n")
  .start (.ofFiles ((recipe :: files).map fun file => (file.1, Text.utf8Encode file.2))) []

/-- A request for the outputs of some files by the recipe beside them. -/
def BatchRequest.besideRecipe (patterns : List String) : BatchRequest :=
  ⟨"r.yaml", patterns, "out", false⟩

namespace Terminal

/-- Two files in two directories have an output each if their names differ. -/
theorem batch_keeps_outputs_apart :
    ∃ after, (besideRecipe [("a/x.txt", "one"), ("b/y.txt", "two")]).Does
        (host.batch 9 (.besideRecipe ["a/x.txt", "b/y.txt"])) () after ∧
      (∀ input ∈ ["a/x.txt", "b/y.txt"],
        (besideRecipe [("a/x.txt", "one"), ("b/y.txt", "two")]).KeepsOutput after "out" .capitals
          input) ∧
      (["a/x.txt", "b/y.txt"].map fun input => after.disk.place? (outputPath "out" input)).Nodup ∧
      ["out/x.out", "out/y.out"].map after.disk.read? =
        [some (Text.utf8Encode "ONE"), some (Text.utf8Encode "TWO")] := by
  let before := besideRecipe [("a/x.txt", "one"), ("b/y.txt", "two")]
  let request := BatchRequest.besideRecipe ["a/x.txt", "b/y.txt"]
  have h : before.Does (host.batch 9 request) () ((host.batch 9 request).run.run before).run.2 := by
    decide +kernel
  have hread : before.Does (host.readRecipe "r.yaml") .capitals before := by decide +kernel
  have hfound : before.Does (host.expand 9 request.patterns) ["a/x.txt", "b/y.txt"] before := by
    decide +kernel
  obtain ⟨recipe, inputs, hrecipe, hinputs, _, _, hkeeps⟩ := batch_keeps_outputs h
  obtain ⟨rfl, _⟩ := hrecipe.unique hread
  obtain ⟨rfl, _⟩ := hinputs.unique hfound
  obtain ⟨hkept, hplaces⟩ := hkeeps (by decide +kernel)
  exact ⟨_, h, hkept, hplaces, by decide +kernel⟩

/-- Two files in two directories have a common output if their names are the same: the one that comes
last. -/
theorem not_keepsOutput_twins :
    ¬ ∀ (before after : Terminal) fuel request recipe inputs,
      before.Does (host.batch fuel request) () after →
      before.Does (host.readRecipe request.recipe) recipe before →
      before.Does (host.expand fuel request.patterns) inputs before → inputs.Nodup →
      ∀ input ∈ inputs, before.KeepsOutput after request.outputDirectory recipe input := by
  intro h
  let before := besideRecipe [("a/x.txt", "one"), ("b/x.txt", "two")]
  let request := BatchRequest.besideRecipe ["a/x.txt", "b/x.txt"]
  have hdoes : before.Does (host.batch 9 request) ()
      ((host.batch 9 request).run.run before).run.2 := by decide +kernel
  have hread : before.Does (host.readRecipe "r.yaml") .capitals before := by decide +kernel
  have hfound : before.Does (host.expand 9 request.patterns) ["a/x.txt", "b/x.txt"] before := by
    decide +kernel
  obtain ⟨attempt, outcome, bytes, ⟨content, hcontent, hbake⟩, hresult, hserved, hkept⟩ :=
    h before _ 9 request _ _ hdoes hread hfound (by decide) "a/x.txt" List.mem_cons_self
  have hone : before.disk.read? "a/x.txt" = some (Text.utf8Encode "one") := by decide +kernel
  obtain rfl := Option.some.inj (hone.symm.trans hcontent)
  have hbaked : (Registry.builtIn.bake 9 .capitals (.byteArray (Text.utf8Encode "one")) .default).map
      (fun attempt => attempt.result.toOption.bind fun outcome => outcome.dish.served.toOption) =
        some (some (Text.utf8Encode "ONE")) := by
    decide +kernel
  obtain ⟨own, hown, hbytes⟩ := Option.map_eq_some_iff.mp hbaked
  obtain rfl := hbake.unique ⟨9, hown⟩
  have hout : some bytes = some (Text.utf8Encode "ONE") := by
    rw [← hbytes, hresult]
    exact congrArg Except.toOption hserved.symm
  have hlost : ((host.batch 9 request).run.run before).run.2.disk.read? (outputPath "out" "a/x.txt") =
      some (Text.utf8Encode "TWO") := by
    decide +kernel
  exact absurd ((hkept.trans hout).symm.trans hlost) (by decide +kernel)

end Terminal
end Kitchen
