import Mutant.Proofs.Outlines
import Mutant.Repository

/-!
Putting files back. A backup holds what its file held when it was first tracked. If every file that has
changed since has a backup, and only contents have changed, then writing the backups back leaves
everything as it was, unless there is a file among them that may not be overwritten.
-/

namespace Mutant.Repository

def Faithful (backups : List (Path × Bytes)) (disk : Disk) : Prop :=
  ∀ backup ∈ backups, disk.read backup.1 = .ok backup.2

theorem faithful_nil (disk : Disk) : Faithful [] disk :=
  fun _ member => absurd member List.not_mem_nil

theorem track_cases {repository tracked : Repository} {disk : Disk} {file : Path}
    (done : repository.track disk file = .ok tracked) :
    (tracked = repository ∧ (repository.isGit = false → ∀ content, disk.read file = .ok content →
      ∃ kept, (file, kept) ∈ repository.backups)) ∨
    ∃ content, disk.read file = .ok content ∧
      tracked = { repository with backups := repository.backups ++ [(file, content)] } := by
  unfold track at done
  split at done
  next git =>
    obtain rfl := Except.ok.inj done
    exact Or.inl ⟨rfl, by simp [git]⟩
  next =>
    split at done
    · exact absurd done (by simp)
    next old mode probed =>
      split at done
      next kept =>
        obtain rfl := Except.ok.inj done
        obtain ⟨kept, found⟩ := Option.isSome_iff_exists.mp kept
        obtain ⟨before, later, split, _⟩ := List.lookup_eq_some_iff.mp found
        exact Or.inl ⟨rfl, fun _ _ _ => ⟨kept, by simp [split]⟩⟩
      next =>
        split at done
        · exact absurd done (by simp)
        next content reads =>
          obtain rfl := Except.ok.inj done
          exact Or.inr ⟨content, reads, rfl⟩
    next entry noFile probed =>
      obtain rfl := Except.ok.inj done
      refine Or.inl ⟨rfl, fun _ content reads => ?_⟩
      obtain ⟨mode, found⟩ := Disk.find_of_read reads
      rw [Disk.probe_eq_some.mpr found] at probed
      exact (noFile content mode (Except.ok.inj probed).symm).elim

theorem isGit_of_track {repository tracked : Repository} {disk : Disk} {file : Path}
    (done : repository.track disk file = .ok tracked) : tracked.isGit = repository.isGit := by
  rcases track_cases done with ⟨rfl, _⟩ | ⟨content, _, rfl⟩ <;> rfl

theorem faithful_of_track {repository tracked : Repository} {disk : Disk} {file : Path}
    (faithful : Faithful repository.backups disk) (done : repository.track disk file = .ok tracked) :
    Faithful tracked.backups disk := by
  rcases track_cases done with ⟨rfl, _⟩ | ⟨content, reads, rfl⟩
  · exact faithful
  · intro backup member
    rcases List.mem_append.mp member with before | new
    · exact faithful backup before
    · rw [List.mem_singleton.mp new]
      exact reads

theorem mem_backups_of_track {repository tracked : Repository} {disk : Disk} {file : Path}
    {content : Bytes} (plain : repository.isGit = false) (reads : disk.read file = .ok content)
    (done : repository.track disk file = .ok tracked) : ∃ kept, (file, kept) ∈ tracked.backups := by
  rcases track_cases done with ⟨rfl, already⟩ | ⟨content, _, rfl⟩
  · exact already plain content reads
  · exact ⟨content, by simp⟩

/-- The backups lead from a later state of the disk back to an earlier one. -/
structure Recoverable (backups : List (Path × Bytes)) (original current : Disk) : Prop where
  faithful : Faithful backups original
  same : current.SameOutline original
  root : current.status? [] = original.status? []
  covered : ∀ location, current.status? location ≠ original.status? location →
    ∃ backup ∈ backups, original.locate backup.1 = .ok location

theorem Recoverable.refl {backups : List (Path × Bytes)} {disk : Disk}
    (faithful : Faithful backups disk) : Recoverable backups disk disk :=
  ⟨faithful, .refl disk, rfl, fun _ different => absurd rfl different⟩

theorem Recoverable.tail {file : Path} {content : Bytes} {rest : List (Path × Bytes)}
    {original current written : Disk} {location : List String}
    (recoverable : Recoverable ((file, content) :: rest) original current)
    (located : original.locate file = .ok location) (home : written.home = current.home)
    (refusal : written.refusal = current.refusal)
    (shows : ∀ other, written.status? other =
      if other = location then original.status? other else current.status? other) :
    Recoverable rest original written where
  faithful backup member := recoverable.faithful backup (List.mem_cons_of_mem _ member)
  same := by
    refine ⟨home.trans recoverable.same.home, refusal.trans recoverable.same.refusal,
      funext fun other => ?_⟩
    rw [Disk.outline, shows]
    split
    · rfl
    · exact congrFun recoverable.same.outline other
  root := by
    rw [shows]
    split
    · rfl
    · exact recoverable.root
  covered other different := by
    rw [shows] at different
    split at different
    next => exact absurd rfl different
    next elsewhere =>
      obtain ⟨backup, member, leads⟩ := recoverable.covered other different
      rcases List.mem_cons.mp member with rfl | later
      · exact absurd (Except.ok.inj (leads.symm.trans located)) elsewhere
      · exact ⟨backup, later, leads⟩

/-- Writing one backup back makes its file show what it did, and nothing else, if that is permitted. -/
theorem Recoverable.write {file : Path} {content : Bytes} {rest : List (Path × Bytes)}
    {original current : Disk} (recoverable : Recoverable ((file, content) :: rest) original current) :
    current.hasEntry file = true ∧
      ((∃ trouble, current.write file content = .error trouble ∧ original.Protects file trouble) ∨
        ∃ written, current.write file content = .ok written ∧ Recoverable rest original written) := by
  obtain ⟨location, mode, located, present, -⟩ :=
    Disk.read_eq_ok.mp (recoverable.faithful _ List.mem_cons_self)
  obtain ⟨old, currentMode, here, permissions⟩ :=
    Disk.exists_at?_of_sameOutline recoverable.same.symm present
  have reached : current.locate file = .ok location := by
    rw [Disk.locate_congr recoverable.same.sameShape, located]
  -- What the file may be opened for has not changed since the backup was made.
  refine ⟨by rw [Disk.hasEntry, Disk.find_of_locate reached, here]; rfl, ?_⟩
  rcases refused : current.refuses? .write location currentMode with _ | trouble
  · have wrote : current.write file content =
        .ok (current.put location (.file content currentMode)) :=
      Disk.write_eq_ok.mpr ⟨location, reached, Or.inr ⟨old, currentMode, here, refused, rfl⟩⟩
    refine Or.inr ⟨_, wrote, recoverable.tail located (Disk.home_put ..) (Disk.refusal_put ..)
      fun other => ?_⟩
    rcases List.eq_nil_or_concat location with rfl | ⟨folder, name, rfl⟩
    · -- Nothing is written in the place of the whole tree, where nothing can have changed either.
      split
      next top =>
        rw [top]
        exact recoverable.root
      next => rfl
    · rw [List.concat_eq_append] at here present ⊢
      rw [(Disk.room_of_at? here).status?_put]
      split
      next top => rw [top, Disk.status?_of_at? present, permissions]
      next => rfl
  · refine Or.inl ⟨trouble, by simp only [Disk.write, reached, here, refused], location, located, ?_⟩
    rw [← recoverable.same.refusalAt, Disk.refusalAt_of_at? .write here, refused]

/-- How writing backups back can end: everything shows what it did, or one of the files may not be
overwritten, and still nothing but the content of files is different. -/
inductive PutBack (backups : List (Path × Bytes)) (original : Disk) : Disk × Option Failure → Prop
  | whole (restored : Disk) (same : restored.SameOutline original)
      (shows : restored.status? = original.status?) : PutBack backups original (restored, none)
  | stopped (left : Disk) (same : left.SameOutline original) (backup : Path × Bytes)
      (member : backup ∈ backups) (trouble : Trouble)
      (protects : original.Protects backup.1 trouble) :
      PutBack backups original (left, some (.disk trouble backup.1))

theorem Recoverable.putBack {backups : List (Path × Bytes)} {original current : Disk}
    (recoverable : Recoverable backups original current) :
    PutBack backups original (writeBack current backups) := by
  induction backups generalizing current with
  | nil =>
    refine .whole current recoverable.same (funext fun location => ?_)
    refine Classical.byContradiction fun different => ?_
    obtain ⟨backup, member, _⟩ := recoverable.covered location different
    exact absurd member List.not_mem_nil
  | cons backup rest ih =>
    obtain ⟨file, content⟩ := backup
    obtain ⟨present, ⟨trouble, refused, protects⟩ | ⟨written, wrote, later⟩⟩ := recoverable.write
    · rw [writeBack, if_pos present, refused]
      exact .stopped current recoverable.same (file, content) List.mem_cons_self trouble protects
    · rw [writeBack, if_pos present, wrote]
      have others := ih later
      dsimp only
      generalize writeBack written rest = state at others ⊢
      cases others with
      | whole restored same shows => exact .whole restored same shows
      | stopped left same backup member trouble protects =>
        exact .stopped left same backup (List.mem_cons_of_mem _ member) trouble protects

def nextReply (world : World) : GitReply :=
  world.git world.gitCalls.length

def called (world : World) (arguments : List String) : World :=
  { world with
    disk := { world.disk with root := world.gitMakes world.gitCalls.length world.disk.root }
    gitCalls := world.gitCalls ++ [(arguments, nextReply world)] }

def unreadable? : GitReply → Option Failure
  | .ended _ out err => brokenOutput? [out, err]
  | _ => none

theorem callGit_eq (world : World) (arguments : List String) :
    callGit world arguments = (nextReply world, called world arguments, unreadable? (nextReply world)) :=
  rfl

theorem snapshot_cases (repository : Repository) (world : World) :
    ∃ stashed failure, repository.snapshot world =
      ({ repository with stashed },
        if repository.isGit then called world stashPush else world, failure) := by
  unfold snapshot
  split
  · rw [callGit_eq]
    cases unreadable? (nextReply world) with
    | none => exact ⟨_, _, rfl⟩
    | some failure => exact ⟨repository.stashed, some failure, rfl⟩
  · exact ⟨repository.stashed, none, rfl⟩

/-- Setting work aside can change files only with git. -/
theorem snapshot_frame (repository : Repository) (world : World) :
    (repository.snapshot world).1.backups = repository.backups ∧
      (repository.snapshot world).1.isGit = repository.isGit ∧
      (repository.isGit = false → (repository.snapshot world).2.1 = world) ∧
      (repository.snapshot world).2.1.buildTool = world.buildTool ∧
      (repository.snapshot world).2.1.builds = world.builds := by
  obtain ⟨_, _, taken⟩ := repository.snapshot_cases world
  rw [taken]
  refine ⟨rfl, rfl, fun plain => by simp [plain], ?_⟩
  split <;> exact ⟨rfl, rfl⟩

theorem restoreGit_cases (repository : Repository) (world : World) :
    ∃ stashed failure, ∃ pops : List (List String), (∀ call ∈ pops, call = stashPop) ∧
      repository.restoreGit world =
        ({ repository with stashed }, pops.foldl called (called world resetHard), failure) := by
  unfold restoreGit
  rw [callGit_eq]
  cases unreadable? (nextReply world) with
  | some failure => exact ⟨repository.stashed, some failure, [], by simp⟩
  | none =>
    dsimp only
    split
    · rw [callGit_eq]
      cases unreadable? (nextReply (called world resetHard)) with
      | some failure => exact ⟨repository.stashed, some failure, [stashPop], by simp⟩
      | none => exact ⟨false, none, [stashPop], by simp⟩
    · exact ⟨repository.stashed, none, [], by simp⟩

theorem builds_foldl_called (world : World) (calls : List (List String)) :
    (calls.foldl called world).builds = world.builds := by
  induction calls generalizing world with
  | nil => rfl
  | cons call rest ih => exact ih (called world call)

theorem restore_builds (repository : Repository) (world : World) :
    (repository.restore world).2.1.builds = world.builds := by
  unfold restore
  split
  · obtain ⟨_, _, pops, _, restored⟩ := repository.restoreGit_cases world
    rw [restored]
    exact builds_foldl_called (called world resetHard) pops
  · rcases writeBack world.disk repository.backups with ⟨disk, _ | failure⟩ <;> rfl

theorem status?_restore {repository : Repository} {world : World} {original : Disk}
    (plain : repository.isGit = false)
    (recoverable : Recoverable repository.backups original world.disk)
    (done : (repository.restore world).2.2 = none) :
    (repository.restore world).2.1.disk.status? = original.status? := by
  have putBack := recoverable.putBack
  rw [restore, if_neg (by simp [plain])] at done ⊢
  generalize writeBack world.disk repository.backups = state at putBack done ⊢
  cases putBack with
  | whole restored same shows => exact shows
  | stopped left same backup member trouble protects => exact absurd done (by simp)

end Mutant.Repository
