import Mathlib.Logic.IsEmpty.Basic
import Mutant.Build.Tool
import Mutant.Proofs.AtomicReplacement
import Mutant.Proofs.Outlines

/-!
What a build does to the disk. It makes the script that it is started with executable, and nothing
else. A second build finds the same script and has nothing left to do, even when the content of files
has changed between the two. What is built lies where the path of the repository leads.
-/

namespace Mutant

namespace BuildTool

theorem firstPresent_congr {first second : Disk} (same : first.SameShape second)
    (files : List (BuildTool × Path)) : firstPresent first files = firstPresent second files := by
  induction files with
  | nil => rfl
  | cons head rest ih =>
    obtain ⟨tool, file⟩ := head
    have probed := Disk.map_isFile_probe_congr same file
    rw [firstPresent, firstPresent, ih]
    cases found : first.probe file with
    | error failure =>
      cases otherFound : second.probe file with
      | error otherFailure =>
        rw [found, otherFound] at probed
        rw [Except.error.inj probed]
      | ok otherEntry =>
        rw [found, otherFound] at probed
        exact absurd probed (by simp [Except.map])
    | ok entry =>
      cases otherFound : second.probe file with
      | error otherFailure =>
        rw [found, otherFound] at probed
        exact absurd probed (by simp [Except.map])
      | ok otherEntry =>
        rw [found, otherFound] at probed
        have kinds : entry.any Entry.isFile = otherEntry.any Entry.isFile := by
          simpa [Option.any_map] using congrArg (Option.any id) (Except.ok.inj probed)
        simp only [kinds]

theorem firstPresent_eq_some {disk : Disk} {files : List (BuildTool × Path)} {tool : BuildTool}
    {file : Path} (found : firstPresent disk files = .ok (some (tool, file))) :
    (tool, file) ∈ files ∧ ∃ content mode, disk.find file = .ok (.file content mode) := by
  induction files with
  | nil => exact absurd found (by simp [firstPresent])
  | cons head rest ih =>
    obtain ⟨firstTool, firstFile⟩ := head
    rw [firstPresent] at found
    split at found
    · exact absurd found (by simp)
    next entry probed =>
      split at found
      next isFile =>
        simp only [Except.ok.injEq, Option.some.injEq, Prod.mk.injEq] at found
        obtain ⟨rfl, rfl⟩ := found
        rcases entry with _ | ⟨content, mode⟩ | entries
        · exact absurd isFile (by simp)
        · exact ⟨List.mem_cons_self, content, mode, Disk.probe_eq_some.mp probed⟩
        · exact absurd isFile (by simp [Entry.isFile])
      next =>
        obtain ⟨member, isFile⟩ := ih found
        exact ⟨List.mem_cons_of_mem _ member, isFile⟩

theorem permissionsOf_and_ownerBit (mode : Nat) :
    Entry.permissionsOf mode &&& ownerBit = mode &&& ownerBit := by
  apply Nat.eq_of_testBit_eq
  intro bit
  have owner : ownerBit = 2 ^ 6 := rfl
  have width : Entry.permissionsOf mode = mode % 2 ^ 12 := rfl
  rw [owner, width, Nat.testBit_and, Nat.testBit_and, Nat.testBit_mod_two_pow, Nat.testBit_two_pow]
  by_cases here : 6 = bit
  · subst here
    simp
  · simp [here]

theorem or_executeBits_and_ownerBit (mode : Nat) : (mode ||| executeBits) &&& ownerBit ≠ 0 := by
  intro none
  have bit := congrArg (Nat.testBit · 6) none
  simp only [Nat.testBit_and, Nat.testBit_or] at bit
  have execute : executeBits.testBit 6 = true := by decide
  have owner : ownerBit.testBit 6 = true := by decide
  simp [execute, owner] at bit

end BuildTool

namespace World

open BuildTool

theorem child_of_mem_wrappers {world : World} {repo : Path} {known : BuildTool × Path}
    (member : known ∈ world.wrappers repo) :
    ∃ name, known.2 = ⟨repo.root, repo.names ++ [name]⟩ := by
  have single : ∀ windows : Bool, ∀ tool ∈ BuildTool.all,
      let name := if windows then tool.windowsWrapper else tool.wrapper
      Path.ofText name = ⟨"", [name]⟩ := by
    decide
  obtain ⟨tool, listed, rfl⟩ := List.mem_map.mp member
  have path : tool.wrapperPath world.windows repo = repo.join _ :=
    congrArg repo.join (single world.windows tool listed)
  exact ⟨_, path⟩

theorem child_of_mem_markers {repo : Path} {known : BuildTool × Path}
    (member : known ∈ markers repo) : ∃ name, known.2 = ⟨repo.root, repo.names ++ [name]⟩ := by
  have single : ∀ tool ∈ BuildTool.all, ∀ marker ∈ tool.markers,
      Path.ofText marker = ⟨"", [marker]⟩ := by
    decide
  obtain ⟨tool, listed, inside⟩ := List.mem_flatMap.mp member
  obtain ⟨marker, shown, rfl⟩ := List.mem_map.mp inside
  exact ⟨marker, congrArg repo.join (single tool listed marker shown)⟩

/-- The script that builds a repository, when its owner may not execute it. -/
structure LockedScript (world : World) (repo : Path) where
  tool : BuildTool
  path : Path
  folder : List String
  name : String
  content : Bytes
  mode : Nat
  unix : world.windows = false
  first : firstPresent world.disk (world.wrappers repo) = .ok (some (tool, path))
  located : world.disk.locate path = .ok (folder ++ [name])
  present : world.disk.at? (folder ++ [name]) = some (.file content mode)
  locked : mode &&& ownerBit = 0

namespace LockedScript

variable {world : World} {repo : Path} (script : world.LockedScript repo)

def location : List String :=
  script.folder ++ [script.name]

def disk : Disk :=
  world.disk.put script.location (.file script.content (script.mode ||| executeBits))

theorem status?_location : world.disk.status? script.location =
    some (.file script.content (Entry.permissionsOf script.mode)) :=
  Disk.status?_of_at? script.present

theorem status?_disk (other : List String) :
    script.disk.status? other =
      if other = script.location then
        some (.file script.content (Entry.permissionsOf (script.mode ||| executeBits)))
      else world.disk.status? other :=
  (Disk.room_of_at? script.present).status?_put _ _ other

theorem sameShape_disk : script.disk.SameShape world.disk :=
  Disk.sameShape_put script.present _ _

end LockedScript

/-- The disk as it is when a build begins. -/
@[irreducible]
def readied (world : World) (repo : Path) : Disk :=
  match firstPresent world.disk (world.wrappers repo) with
  | .ok (some (_, wrapper)) =>
      if world.windows then world.disk else makeExecutable world.disk wrapper
  | _ => world.disk

def ready (world : World) (repo : Path) : World :=
  { world with disk := world.readied repo }

def built (world : World) (repo : Path) : World :=
  { world.ready repo with builds := world.builds ++ [world.readied repo] }

theorem detectCommand_world (world : World) (repo : Path) (skipTests : Bool) :
    (world.detectCommand repo skipTests).2 = world.ready repo := by
  unfold detectCommand ready readied
  rcases firstPresent world.disk (world.wrappers repo) with ⟨trouble, path⟩ | _ | ⟨tool, wrapper⟩
  · rfl
  · rcases firstPresent world.disk (markers repo) with ⟨trouble, path⟩ | _ | ⟨tool, marker⟩ <;> rfl
  · rfl

theorem LockedScript.readied_eq {world : World} {repo : Path} (script : world.LockedScript repo) :
    world.readied repo = script.disk := by
  have mode : world.disk.mode? script.path = some script.mode :=
    Disk.mode?_eq_some.mpr ⟨_, Disk.find_eq_file.mpr ⟨_, script.located, script.present⟩⟩
  unfold readied makeExecutable
  simp only [script.first, script.unix, Bool.false_eq_true, if_false, mode, script.locked, if_true]
  exact Disk.setMode_of_at? script.located script.present _

theorem readied_of_isEmpty {world : World} {repo : Path} (none : IsEmpty (world.LockedScript repo)) :
    world.readied repo = world.disk := by
  unfold readied
  split
  next tool wrapper first =>
    split
    · rfl
    next unix =>
      obtain ⟨member, content, mode, found⟩ := firstPresent_eq_some first
      obtain ⟨location, located, present⟩ := Disk.find_eq_file.mp found
      rw [makeExecutable, Disk.mode?_eq_some.mpr ⟨content, found⟩]
      simp only
      split
      next locked =>
        obtain ⟨script, inside⟩ := child_of_mem_wrappers member
        have named : wrapper.names ≠ [] := by
          rw [show wrapper = _ from inside]
          exact List.concat_ne_nil script repo.names
        obtain ⟨folder, name, rfl⟩ := Disk.exists_folder_of_locate located present named
        exact (none.false ⟨tool, wrapper, folder, name, content, mode, by simpa using unix, first,
          located, present, locked⟩).elim
      · rfl
  · rfl

/-- What shows on a disk that was made ready: a script that was locked is executable. -/
theorem status?_readied (world : World) (repo : Path) (location : List String) :
    (world.readied repo).status? location = world.disk.status? location ∨
      ∃ script : world.LockedScript repo, location = script.location ∧
        (world.readied repo).status? location =
          some (.file script.content (Entry.permissionsOf (script.mode ||| executeBits))) := by
  rcases isEmpty_or_nonempty (world.LockedScript repo) with none | ⟨⟨script⟩⟩
  · rw [readied_of_isEmpty none]
    exact Or.inl rfl
  · rw [script.readied_eq, script.status?_disk]
    split
    next here => exact Or.inr ⟨script, here, rfl⟩
    next => exact Or.inl rfl

theorem sameShape_readied (world : World) (repo : Path) :
    (world.readied repo).SameShape world.disk := by
  rcases isEmpty_or_nonempty (world.LockedScript repo) with none | ⟨⟨script⟩⟩
  · rw [readied_of_isEmpty none]
    exact ⟨rfl, rfl⟩
  · rw [script.readied_eq]
    exact script.sameShape_disk

theorem bytes?_readied (world : World) (repo : Path) (location : List String) :
    (world.readied repo).bytes? location = world.disk.bytes? location := by
  rcases status?_readied world repo location with same | ⟨script, here, executable⟩
  · rw [Disk.bytes?, same, Disk.bytes?]
  · rw [Disk.bytes?, executable, Disk.bytes?, here, script.status?_location]
    rfl

theorem wrappers_congr {before after : World} (system : after.windows = before.windows)
    (repo : Path) : after.wrappers repo = before.wrappers repo := by
  rw [wrappers, wrappers, system]

/-- No script is left locked when a build begins. -/
theorem isEmpty_lockedScript_of_readied {before after : World} {repo : Path}
    (readied : after.disk = before.readied repo) (system : after.windows = before.windows) :
    IsEmpty (after.LockedScript repo) := by
  refine ⟨fun left => ?_⟩
  rcases isEmpty_or_nonempty (before.LockedScript repo) with none | ⟨⟨script⟩⟩
  · rw [readied_of_isEmpty none] at readied
    have first := left.first
    have located := left.located
    have present := left.present
    rw [readied] at first located present
    rw [wrappers_congr system] at first
    exact none.false ⟨_, _, _, _, _, _, system ▸ left.unix, first, located, present, left.locked⟩
  · -- The script that would be left is the one that was made executable, and its owner may execute it.
    rw [script.readied_eq] at readied
    have first := left.first
    rw [readied, wrappers_congr system, firstPresent_congr script.sameShape_disk, script.first] at first
    have samePath : script.path = left.path := by simpa using (congrArg Prod.snd
      (Option.some.inj (Except.ok.inj first)))
    have located := left.located
    rw [readied, Disk.locate_congr script.sameShape_disk, ← samePath, script.located] at located
    have present := left.present
    rw [readied, ← Except.ok.inj located, LockedScript.disk, LockedScript.location,
      (Disk.room_of_at? script.present).at?_put] at present
    have sameMode : script.mode ||| executeBits = left.mode := by
      simpa using (Entry.file.inj (Option.some.inj present)).2
    exact or_executeBits_and_ownerBit script.mode (sameMode ▸ left.locked)

theorem isEmpty_lockedScript_of_sameOutline {before after : World} {repo : Path}
    (same : after.disk.SameOutline before.disk) (system : after.windows = before.windows)
    (none : IsEmpty (before.LockedScript repo)) : IsEmpty (after.LockedScript repo) := by
  refine ⟨fun left => ?_⟩
  have first := left.first
  rw [wrappers_congr system, firstPresent_congr same.sameShape] at first
  have located := left.located
  rw [Disk.locate_congr same.sameShape] at located
  obtain ⟨content, mode, present, permissions⟩ := Disk.exists_at?_of_sameOutline same left.present
  have locked : mode &&& ownerBit = 0 := by
    rw [← permissionsOf_and_ownerBit, permissions, permissionsOf_and_ownerBit, left.locked]
  exact none.false ⟨_, _, _, _, _, _, system ▸ left.unix, first, located, present, locked⟩

theorem resolve_of_locate {world : World} {path : Path} {location : List String}
    (located : world.disk.locate path = .ok location) : world.resolve path = ⟨"/", location⟩ := by
  obtain ⟨_, _, followed⟩ := Disk.locate_eq_ok.mp located
  rw [resolve, Disk.settle_of_follow followed]

theorem exists_locate_of_firstPresent {disk : Disk} {repo file : Path} {tool : BuildTool}
    {files : List (BuildTool × Path)} (found : firstPresent disk files = .ok (some (tool, file)))
    (inside : ∀ known ∈ files, ∃ name, known.2 = ⟨repo.root, repo.names ++ [name]⟩) :
    ∃ place, disk.locate repo = .ok place := by
  obtain ⟨member, content, mode, isFile⟩ := firstPresent_eq_some found
  obtain ⟨location, located, -⟩ := Disk.find_eq_file.mp isFile
  obtain ⟨name, same⟩ := inside _ member
  rw [show file = _ from same] at located
  obtain ⟨place, reached, -⟩ := Disk.exists_locate_of_concat located
  exact ⟨place, reached⟩

theorem exists_locate_of_detectCommand {world : World} {repo : Path} {skipTests : Bool}
    {command : Command} {after : World}
    (detected : world.detectCommand repo skipTests = (.ok command, after)) :
    ∃ place, world.disk.locate repo = .ok place := by
  unfold detectCommand at detected
  split at detected
  · exact absurd (congrArg Prod.fst detected) (by simp)
  next tool wrapper found =>
    exact exists_locate_of_firstPresent found fun _ => child_of_mem_wrappers
  next =>
    split at detected
    · exact absurd (congrArg Prod.fst detected) (by simp)
    next tool marker found =>
      exact exists_locate_of_firstPresent found fun _ => child_of_mem_markers
    · exact absurd (congrArg Prod.fst detected) (by simp)

/-- The build tool that is started as number `number` exits with a code, if only because it is
killed. -/
def Exits (world : World) (number : Nat) (code : Int) : Prop :=
  ∃ invocation, code =
    (world.buildTool number invocation).exitCode.getD BuildOutcome.timeoutExit

theorem Exits.congr {first second : World} (same : first.buildTool = second.buildTool) {number : Nat}
    {code : Int} (exits : first.Exits number code) : second.Exits number code := by
  rwa [Exits, same] at exits

/-- A build is refused, or it is started once on the disk that was made ready for it. It succeeds
exactly when its exit code is zero. -/
theorem build_cases (world : World) (settings : BuildSettings) (repo : Path) (skipTests : Bool) :
    (∃ error, world.build settings repo skipTests = (.error error, world.ready repo)) ∨
    ∃ outcome, (outcome.success = true ↔ outcome.exitCode = 0) ∧
      world.Exits world.builds.length outcome.exitCode ∧
      (∃ place, world.disk.locate repo = .ok place) ∧
      world.build settings repo skipTests = (.ok outcome, world.built repo) := by
  have ready := world.detectCommand_world repo skipTests
  unfold build
  rcases detected : world.detectCommand repo skipTests with ⟨error | command, after⟩
  · rw [detected] at ready
    exact Or.inl ⟨error, congrArg _ ready⟩
  · have lies := exists_locate_of_detectCommand detected
    rw [detected] at ready
    obtain rfl : after = _ := ready
    dsimp only
    split
    next fault _ => exact Or.inl ⟨.environment fault, rfl⟩
    · split
      · exact Or.inl ⟨_, rfl⟩
      next trouble _ _ => exact Or.inl ⟨_, rfl⟩
      · exact Or.inr ⟨_, beq_iff_eq, ⟨_, rfl⟩, lies, rfl⟩

end World

end Mutant
