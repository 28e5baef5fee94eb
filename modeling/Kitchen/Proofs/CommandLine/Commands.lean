import Kitchen.Proofs.CommandLine.Places
import Mathlib.Data.List.Forall2

/-!
# Commands on a terminal

What requests and commands come to on a terminal, part by part. A search for files changes nothing,
and whatever it finds is a file.
-/

namespace Kitchen.Terminal

variable {α β : Type} {before mid after : Terminal}

/-! ## Parts of commands -/

/-- A request on a terminal gets an answer and leaves the terminal as another. -/
def Gives (before : Terminal) (request : StateM Terminal α) (answer : α) (after : Terminal) : Prop :=
  (request.run before).run = (answer, after)

/-- A command on a terminal ends well with an answer. -/
def Does (before : Terminal) (command : CommandM (StateM Terminal) α) (answer : α)
    (after : Terminal) : Prop :=
  before.Gives command.run (.ok answer) after

theorem does_iff {command : CommandM (StateM Terminal) α} {answer : α} :
    before.Does command answer after ↔
      (command.run.run before).run.1.toOption = some answer ∧
        (command.run.run before).run.2 = after := by
  rw [Does, Gives, Prod.ext_iff]
  refine and_congr_left' ?_
  generalize (command.run.run before).run.1 = ending
  cases ending <;> simp [Except.toOption]

instance [DecidableEq α] (before after : Terminal) (command : CommandM (StateM Terminal) α)
    (answer : α) : Decidable (before.Does command answer after) := decidable_of_iff' _ does_iff

theorem Does.unique {command : CommandM (StateM Terminal) α} {answer other : α} {after' : Terminal}
    (h : before.Does command answer after) (h' : before.Does command other after') :
    answer = other ∧ after = after' := by
  obtain ⟨hanswer, hafter⟩ := does_iff.mp h
  obtain ⟨hother, hafter'⟩ := does_iff.mp h'
  exact ⟨Option.some.inj (hanswer.symm.trans hother), hafter.symm.trans hafter'⟩

theorem gives_pure {value answer : α} :
    before.Gives (pure value) answer after ↔ value = answer ∧ before = after := by
  simp [Gives]

theorem gives_bind {request : StateM Terminal α} {next : α → StateM Terminal β} {answer : β} :
    before.Gives (request >>= next) answer after ↔
      ∃ first mid, before.Gives request first mid ∧ mid.Gives (next first) answer after := by
  simp only [Gives, StateT.run_bind, Id.run_bind]
  constructor
  · exact fun h => ⟨_, _, rfl, h⟩
  · rintro ⟨first, mid, hfirst, h⟩
    rwa [hfirst]

theorem gives_map {request : StateM Terminal α} {change : α → β} {answer : β} :
    before.Gives (change <$> request) answer after ↔
      ∃ first, before.Gives request first after ∧ change first = answer := by
  rw [map_eq_pure_bind, gives_bind]
  simp only [gives_pure]
  constructor
  · rintro ⟨first, mid, hfirst, hchange, rfl⟩
    exact ⟨first, hfirst, hchange⟩
  · rintro ⟨first, hfirst, hchange⟩
    exact ⟨first, after, hfirst, hchange, rfl⟩

theorem does_pure {value answer : α} :
    before.Does (pure value) answer after ↔ value = answer ∧ before = after := by
  simp [Does, gives_pure]

theorem does_throw {fault : CommandFault} {answer : α} :
    ¬ before.Does (throw fault) answer after := by
  simp [Does, Gives]

theorem does_bind {command : CommandM (StateM Terminal) α}
    {next : α → CommandM (StateM Terminal) β} {answer : β} :
    before.Does (command >>= next) answer after ↔
      ∃ first mid, before.Does command first mid ∧ mid.Does (next first) answer after := by
  rw [Does, ExceptT.run_bind, gives_bind]
  constructor
  · rintro ⟨fault | first, mid, hfirst, h⟩
    · simp [gives_pure] at h
    · exact ⟨first, mid, hfirst, h⟩
  · rintro ⟨first, mid, hfirst, h⟩
    exact ⟨.ok first, mid, hfirst, h⟩

theorem does_request {request : StateM Terminal α} {answer : α} :
    before.Does (request : CommandM (StateM Terminal) α) answer after ↔
      before.Gives request answer after := by
  simp [Does, Gives, Prod.ext_iff]

theorem does_except {value : Except CommandFault α} {answer : α} :
    before.Does (value : CommandM (StateM Terminal) α) answer after ↔
      value = .ok answer ∧ before = after :=
  gives_pure

theorem does_need {request : StateM Terminal (Option α)} {fault : CommandFault} {answer : α} :
    before.Does (Host.need request fault) answer after ↔
      before.Gives request (some answer) after := by
  rw [Host.need, does_bind]
  constructor
  · rintro ⟨found, mid, hfound, h⟩
    cases found with
    | none => exact absurd h does_throw
    | some found =>
      obtain ⟨rfl, rfl⟩ := does_pure.mp h
      exact does_request.mp hfound
  · exact fun h => ⟨_, _, does_request.mpr h, does_pure.mpr ⟨rfl, rfl⟩⟩

theorem does_must {request : StateM Terminal Bool} {fault : CommandFault} :
    before.Does (Host.must request fault) () after ↔ before.Gives request true after := by
  rw [Host.must, does_bind]
  constructor
  · rintro ⟨met, mid, hmet, h⟩
    cases met with
    | false => exact absurd h does_throw
    | true =>
      obtain ⟨_, rfl⟩ := does_pure.mp h
      exact does_request.mp hmet
  · exact fun h => ⟨_, _, does_request.mpr h, does_pure.mpr ⟨rfl, rfl⟩⟩

/-! ## Requests -/

theorem gives_readFile {path : String} {answer : Option (List UInt8)} :
    before.Gives (host.readFile path) answer after ↔
      before.disk.read? path = answer ∧ before = after := by
  simp [host, Gives]

theorem gives_kindAt {path : String} {answer : Option FileKind} :
    before.Gives (host.kindAt path) answer after ↔
      (before.disk.place? path).bind before.disk.kindAt = answer ∧ before = after := by
  simp [host, Gives]

private theorem gives_change (changed : Disk → Option Disk) :
    before.Gives (change changed) true after ↔
      ∃ disk, changed before.disk = some disk ∧ { before with disk } = after := by
  cases h : changed before.disk <;> simp [Gives, change, h]

theorem gives_makeDirectory {path : String} :
    before.Gives (host.makeDirectory path) true after ↔
      ∃ disk, before.disk.makeDirectory? path = some disk ∧ { before with disk } = after :=
  gives_change fun disk => disk.makeDirectory? path

theorem gives_writeFile {path : String} {content : List UInt8} :
    before.Gives (host.writeFile path content) true after ↔
      ∃ disk, before.disk.write? path content = some disk ∧ { before with disk } = after :=
  gives_change fun disk => disk.write? path content

theorem disk_of_gives_note {line : String} (h : before.Gives (host.note line) () after) :
    after.disk = before.disk := by
  obtain ⟨_, rfl⟩ : _ ∧ { before with notes := line :: before.notes } = after := Prod.mk.inj h
  rfl

/-! ## Searches -/

/-- A request changes nothing. -/
def Looks (request : StateM Terminal α) : Prop :=
  ∀ (before : Terminal) (answer : α) (after : Terminal),
    before.Gives request answer after → before = after

theorem looks_pure (value : α) : Looks (pure value) := fun _ _ _ h => (gives_pure.mp h).2

theorem Looks.bind {request : StateM Terminal α} {next : α → StateM Terminal β}
    (h : Looks request) (hnext : ∀ first, Looks (next first)) : Looks (request >>= next) := by
  intro before answer after hgives
  obtain ⟨first, mid, hfirst, hrest⟩ := gives_bind.mp hgives
  exact (h _ _ _ hfirst).trans (hnext first _ _ _ hrest)

theorem Looks.map {request : StateM Terminal α} (h : Looks request) (change : α → β) :
    Looks (change <$> request) := by
  intro before answer after hgives
  obtain ⟨first, hfirst, _⟩ := gives_map.mp hgives
  exact h _ _ _ hfirst

theorem Looks.ite {condition : Prop} [Decidable condition] {request other : StateM Terminal α}
    (h : Looks request) (h' : Looks other) : Looks (if condition then request else other) := by
  split
  · exact h
  · exact h'

theorem Looks.mapM {request : α → StateM Terminal β} (h : ∀ value, Looks (request value))
    (values : List α) : Looks (values.mapM request) := by
  induction values with
  | nil =>
    rw [List.mapM_nil]
    exact looks_pure []
  | cons value values ih =>
    rw [List.mapM_cons]
    exact (h value).bind fun _ => ih.bind fun _ => looks_pure _

theorem looks_kindAt (path : String) : Looks (host.kindAt path) :=
  fun _ _ _ h => (gives_kindAt.mp h).2

theorem looks_list (path : String) : Looks (host.list path) :=
  fun _ _ _ h => (Prod.mk.inj h).2

theorem looks_isDirectory (path : String) : Looks (host.isDirectory path) :=
  (looks_kindAt path).bind fun _ => looks_pure _

theorem looks_isFile (path : String) : Looks (host.isFile path) :=
  (looks_kindAt path).bind fun _ => looks_pure _

theorem looks_descend (names : List (List GlobPart)) (path : String) :
    Looks (host.descend names path) := by
  induction names generalizing path with
  | nil => exact looks_pure []
  | cons name rest ih =>
    have hgoOn (next : String) : Looks
        (if rest.isEmpty then pure [⟨next, []⟩] else host.descend rest next) :=
      .ite (looks_pure _) (ih next)
    rw [Host.descend]
    refine (looks_isDirectory path).bind fun inside => ?_
    dsimp only
    split
    · refine .ite (.bind (looks_pure inside) ?isThere) (.bind ((looks_kindAt _).map _) ?isThere)
      exact fun isThere => .ite (hgoOn _) (looks_pure [])
    · refine .ite (looks_pure []) ((looks_list path).bind fun children => .bind ?_ fun dots => ?_)
      · exact .mapM (fun _ => hgoOn _) _
      · exact looks_pure _

theorem looks_visit (reached : Host.Reached) : Looks (host.visit reached) := by
  obtain ⟨path, names⟩ := reached
  rw [Host.visit]
  dsimp only
  split
  · exact looks_pure _
  · apply Looks.ite
    case' h' =>
      refine (looks_isDirectory path).bind fun inside => ?_
      refine .ite (.bind (looks_descend _ path) ?children) (.bind (looks_pure []) ?children)
      refine fun children => .ite (looks_pure _) (.bind ?_ fun _ => looks_pure _)
    -- The last name is compared with a pattern, the first one or the one behind a recursive one.
    all_goals
      split
      · refine .ite (looks_pure _) (.ite (looks_pure _) ?_)
        exact (looks_descend _ path).bind fun _ => looks_pure _
      · exact looks_pure _

/-- A search finds files, and changes nothing. -/
theorem gives_search {glob : Glob} {fuel : Nat} {reached : List Host.Reached}
    {found : Option (List String)} (h : before.Gives (host.search glob fuel reached) found after) :
    before = after ∧ ∀ paths, found = some paths → ∀ path ∈ paths,
      before.Gives (host.isFile path) true before := by
  induction fuel generalizing reached found with
  | zero =>
    obtain ⟨rfl, rfl⟩ := gives_pure.mp h
    exact ⟨rfl, by simp⟩
  | succ fuel ih =>
    cases reached with
    | nil =>
      obtain ⟨rfl, rfl⟩ := gives_pure.mp h
      exact ⟨rfl, by simp⟩
    | cons first rest =>
      rw [Host.search] at h
      obtain ⟨⟨isFound, more⟩, mid, hvisit, h⟩ := gives_bind.mp h
      obtain rfl := looks_visit first _ _ _ hvisit
      -- A place that matches the whole pattern is listed if it is a file, which is asked of the disk.
      have hfile : ∃ isMeant,
          (isMeant = true → before.Gives (host.isFile first.path) true before) ∧
          before.Gives (do
            let paths ← host.search glob fuel (more ++ rest)
            return paths.map fun paths => if isMeant then first.path :: paths else paths)
            found after := by
        dsimp only at h
        split at h
        · obtain ⟨isMeant, mid, hmeant, h⟩ := gives_bind.mp h
          obtain rfl := looks_isFile _ _ _ _ hmeant
          exact ⟨isMeant, fun hm => hm ▸ hmeant, h⟩
        · obtain ⟨isMeant, mid, hmeant, h⟩ := gives_bind.mp h
          obtain ⟨rfl, rfl⟩ := gives_pure.mp hmeant
          exact ⟨false, by simp, h⟩
      obtain ⟨isMeant, hfirst, h⟩ := hfile
      obtain ⟨paths, last, hpaths, h⟩ := gives_bind.mp h
      obtain ⟨rfl, rfl⟩ := gives_pure.mp h
      obtain ⟨rfl, hothers⟩ := ih hpaths
      refine ⟨rfl, fun all hall path hmem => ?_⟩
      obtain ⟨others, rfl, rfl⟩ := Option.map_eq_some_iff.mp hall
      split at hmem
      · rename_i hm
        rcases List.mem_cons.mp hmem with rfl | hmem
        · exact hfirst hm
        · exact hothers others rfl path hmem
      · exact hothers others rfl path hmem

/-- The inputs of a batch are files that stand on the disk. -/
theorem does_expand {fuel : Nat} {patterns inputs : List String}
    (h : before.Does (host.expand fuel patterns) inputs after) :
    before = after ∧ ∀ path ∈ inputs, before.Gives (host.isFile path) true before := by
  induction patterns generalizing inputs with
  | nil =>
    obtain ⟨rfl, rfl⟩ := does_pure.mp h
    exact ⟨rfl, by simp⟩
  | cons pattern rest ih =>
    rw [Host.expand] at h
    obtain ⟨glob, mid, hglob, h⟩ := does_bind.mp h
    obtain ⟨_, rfl⟩ := gives_pure.mp (does_need.mp hglob)
    obtain ⟨found, mid, hfound, h⟩ := does_bind.mp h
    obtain ⟨reached, mid', hreached, hfound⟩ := gives_bind.mp (does_need.mp hfound)
    obtain rfl := looks_descend _ _ _ _ _ hreached
    obtain ⟨rfl, hfiles⟩ := gives_search hfound
    dsimp only at h
    split at h
    · obtain ⟨_, _, hthrow, _⟩ := does_bind.mp h
      exact absurd hthrow does_throw
    · obtain ⟨others, last, hothers, h⟩ := does_bind.mp h
      obtain ⟨rfl, rfl⟩ := does_pure.mp h
      obtain ⟨rfl, hrest⟩ := ih hothers
      refine ⟨rfl, fun path hmem => ?_⟩
      rcases List.mem_append.mp hmem with hmem | hmem
      · exact hfiles found rfl path hmem
      · exact hrest path hmem

/-- A file that stands on the disk can be read, and it still can when there are more directories. -/
theorem exists_content {path : String} (h : before.Gives (host.isFile path) true before) :
    ∃ content, ∀ disk : Disk, before.disk.Extends disk → disk.files = before.disk.files →
      disk.read? path = some content := by
  obtain ⟨kind, mid, hkind, hfile⟩ := gives_bind.mp h
  obtain ⟨hkind, _⟩ := gives_kindAt.mp hkind
  obtain ⟨hfile, _⟩ := gives_pure.mp hfile
  obtain rfl := beq_iff_eq.mp hfile
  obtain ⟨place, hplace, hkind⟩ := Option.bind_eq_some_iff.mp hkind
  unfold Disk.kindAt at hkind
  split at hkind
  · simp at hkind
  · split at hkind
    · rename_i hsome
      obtain ⟨content, hcontent⟩ := Option.isSome_iff_exists.mp hsome
      refine ⟨content, fun disk hextends hfiles => ?_⟩
      rw [Disk.read?, hextends.place? hplace, Option.bind_some, hfiles, hcontent]
    · simp at hkind

end Kitchen.Terminal
