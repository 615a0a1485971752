import Mutant.Proofs.Builds
import Mutant.Proofs.FileMutation
import Mutant.Proofs.Restoration
import Mutant.Run.Session

/-!
The part of a run between setting work aside and putting it back. Files are tried one after another and
tracked before they are touched. Those that are passed over leave no change, so the one that is judged
is the only difference, and there is a backup of it.
-/

namespace Mutant

open Repository

namespace World.Revision

variable {world : World} {operator : Operator} {settings : Settings} {policy : Policy} {path : Path}
  (revision : world.Revision operator settings policy path)

theorem sameOutline_disk : revision.disk.SameOutline world.disk :=
  Disk.sameOutline_put revision.present _ (Entry.permissionsOf_permissionsOf _)

theorem status?_disk_ne_iff (marked : settings.marker ≠ []) (other : List String) :
    revision.disk.status? other ≠ world.disk.status? other ↔ other = revision.location := by
  rw [status?_disk]
  split
  next here =>
    rw [here, revision.status?_location]
    simp [revision.render_ne_source marked]
  next elsewhere => simp [elsewhere]

theorem recoverable {backups : List (Path × Bytes)} (faithful : Faithful backups world.disk)
    (tracked : ∃ kept, (path, kept) ∈ backups) : Recoverable backups world.disk revision.disk := by
  obtain ⟨kept, member⟩ := tracked
  refine ⟨faithful, revision.sameOutline_disk, ?_, fun other different => ?_⟩
  · have below : [] ≠ revision.location := by simp [location]
    rw [status?_disk, if_neg below]
  · rw [status?_disk] at different
    split at different
    next here => exact ⟨(path, kept), member, here ▸ revision.located⟩
    next => exact absurd rfl different

end World.Revision

namespace Session

def Mutates (session : Session) (world : World) (file : Path) : Prop :=
  ∃ mutation, (world.mutateFile session.operator session.settings session.policy file).1 =
    .ok mutation ∧ mutation.changed = true

abbrev Revision (session : Session) (world : World) (target : Path) : Type :=
  world.Revision session.operator session.settings session.policy target

/-- What is kept for the end of a run over some files. -/
structure Keeps (repository : Repository) (isGit : Bool) (files : List Path) (disk : Disk) :
    Prop where
  kind : repository.isGit = isGit
  faithful : Faithful repository.backups disk
  named : ∀ backup ∈ repository.backups, backup.1 ∈ files

theorem Keeps.track {repository tracked : Repository} {isGit : Bool} {files : List Path} {disk : Disk}
    {file : Path} (keeps : Keeps repository isGit files disk) (member : file ∈ files)
    (done : repository.track disk file = .ok tracked) : Keeps tracked isGit files disk := by
  refine ⟨(isGit_of_track done).trans keeps.kind, faithful_of_track keeps.faithful done, ?_⟩
  rcases track_cases done with ⟨rfl, _⟩ | ⟨content, _, rfl⟩
  · exact keeps.named
  · exact List.forall_mem_append.mpr ⟨keeps.named, List.forall_mem_singleton.mpr member⟩

/-- How trying some of the files of a run one after another can end. The world is as before in the
first two cases; in the last, the first file that can be mutated is judged. -/
inductive Trial (session : Session) (baseline : BuildOutcome) (first : Option Path)
    (all files : List Path) (isGit : Bool) (world : World) : Except RunError Report × State → Prop
  | failed (error : RunError) (repository : Repository)
      (keeps : Keeps repository isGit all world.disk) :
      Trial session baseline first all files isGit world (.error error, repository, world)
  | exhausted (repository : Repository) (mutation : Mutation)
      (keeps : Keeps repository isGit all world.disk)
      (passed : ∀ file ∈ files, ¬session.Mutates world file) :
      Trial session baseline first all files isGit world
        (.ok (session.report world .noMutation first (some mutation) baseline none none),
          repository, world)
  | found (earlier later : List Path) (target : Path) (repository : Repository)
      (revision : session.Revision world target) (keeps : Keeps repository isGit all world.disk)
      (tracked : isGit = false → ∃ kept, (target, kept) ∈ repository.backups)
      (split : files = earlier ++ target :: later)
      (passed : ∀ file ∈ earlier, ¬session.Mutates world file)
      (worked : world.mutateFile session.operator session.settings session.policy target =
        (.ok revision.mutation, revision.after)) :
      Trial session baseline first all files isGit world
        (session.judge (repository, revision.after) target revision.mutation baseline)

variable {session : Session} {baseline : BuildOutcome} {first : Option Path} {all : List Path}
  {isGit : Bool} {world : World}

theorem not_mutates {file : Path} {mutation : Mutation} {after : World}
    (worked : world.mutateFile session.operator session.settings session.policy file =
      (.ok mutation, after)) (unchanged : mutation.changed = false) :
    ¬session.Mutates world file := by
  rintro ⟨other, same, changed⟩
  rw [worked] at same
  obtain rfl := Except.ok.inj same
  rw [unchanged] at changed
  exact absurd changed (by decide)

theorem Trial.cons {files : List Path} {file : Path} {result : Except RunError Report × State}
    (passed : ¬session.Mutates world file)
    (trial : Trial session baseline first all files isGit world result) :
    Trial session baseline first all (file :: files) isGit world result := by
  cases trial with
  | failed error repository keeps => exact .failed error repository keeps
  | exhausted repository mutation keeps others =>
    exact .exhausted repository mutation keeps (List.forall_mem_cons.mpr ⟨passed, others⟩)
  | found earlier later target repository revision keeps tracked split others worked =>
    exact .found (file :: earlier) later target repository revision keeps tracked
      (congrArg (file :: ·) split) (List.forall_mem_cons.mpr ⟨passed, others⟩) worked

theorem tryFiles_trial {files : List Path} (among : ∀ file ∈ files, file ∈ all)
    {repository : Repository} (keeps : Keeps repository isGit all world.disk) :
    Trial session baseline first all files isGit world
      (session.tryFiles baseline first files (repository, world)) := by
  -- The world stays the same along the list; only the backups grow.
  induction files generalizing repository with
  | nil => exact .exhausted repository _ keeps (by simp)
  | cons target rest ih =>
    obtain ⟨member, others⟩ := List.forall_mem_cons.mp among
    unfold tryFiles
    split
    · exact .failed _ repository keeps
    next tracked done =>
      have kept := keeps.track member done
      have outcome := world.mutateFile_outcome session.operator session.settings session.policy target
      rcases worked : world.mutateFile session.operator session.settings session.policy target with
        ⟨result, after⟩
      rw [worked] at outcome
      cases outcome with
      | failed error => exact .failed _ tracked kept
      | skipped mutation unchanged _ =>
        simp only [unchanged, Bool.false_eq_true, if_false]
        exact (ih others kept).cons (not_mutates worked unchanged)
      | revised revision =>
        simp only [revision.changed, if_true]
        exact .found [] rest target tracked revision kept
          (fun plain => mem_backups_of_track (keeps.kind.trans plain) revision.read_source done) rfl
          (by simp) worked

theorem build_cases (session : Session) (world : World) :
    (∃ error, session.build world = (.error error, world.ready session.repo)) ∨
    ∃ outcome, (outcome.success = true ↔ outcome.exitCode = 0) ∧
      world.Exits world.builds.length outcome.exitCode ∧
      (∃ place, world.disk.locate session.repo = .ok place) ∧
      session.build world = (.ok outcome, world.built session.repo) := by
  unfold build
  rcases world.build_cases {} session.repo session.config.skipTests with
    ⟨error, refused⟩ | ⟨outcome, judged, exits, lies, ended⟩
  · rw [refused]
    exact Or.inl ⟨_, rfl⟩
  · rw [ended]
    exact Or.inr ⟨outcome, judged, exits, lies, rfl⟩

theorem exits_of_build {outcome : BuildOutcome} {after : World}
    (ended : session.build world = (.ok outcome, after)) :
    world.Exits world.builds.length outcome.exitCode ∧
      ∃ place, world.disk.locate session.repo = .ok place := by
  rcases session.build_cases world with ⟨error, refused⟩ | ⟨other, _, exits, lies, started⟩
  · rw [refused] at ended
    exact absurd (congrArg Prod.fst ended) (by simp)
  · rw [started] at ended
    cases ended
    exact ⟨exits, lies⟩

theorem judge_state (session : Session) (repository : Repository) (world : World) (target : Path)
    (mutation : Mutation) (baseline : BuildOutcome) :
    (session.judge (repository, world) target mutation baseline).2.1 = repository ∧
      (session.judge (repository, world) target mutation baseline).2.2.disk =
        world.readied session.repo := by
  unfold judge
  rcases session.build_cases world with ⟨error, refused⟩ | ⟨outcome, _, _, _, ended⟩
  · simp only [refused, true_and]
    rfl
  · simp only [ended]
    split
    · exact ⟨rfl, rfl⟩
    · split <;> exact ⟨rfl, rfl⟩

theorem judge_eq_ok {repository : Repository} {target : Path} {mutation : Mutation} {report : Report}
    {state : State}
    (judged : session.judge (repository, world) target mutation baseline = (.ok report, state)) :
    ∃ outcome diagnostics, session.build world = (.ok outcome, world.built session.repo) ∧
      state = (repository, world.built session.repo) ∧
      report = session.report (world.built session.repo)
        (if outcome.exitCode = 0 then .ok else .mutatedBuildFailed) (some target) (some mutation)
        baseline (some outcome) diagnostics ∧
      (diagnostics.isSome = true ↔ outcome.exitCode ≠ 0) := by
  unfold judge at judged
  rcases session.build_cases world with ⟨error, refused⟩ | ⟨outcome, success, _, _, ended⟩
  · simp [refused] at judged
  · simp only [ended] at judged
    split at judged
    next succeeded =>
      have zero := success.mp succeeded
      obtain ⟨same, rfl⟩ := Prod.mk.inj judged
      refine ⟨outcome, none, ended, rfl, ?_, by simp [zero]⟩
      rw [if_pos zero, Except.ok.inj same]
    next unsuccessful =>
      have nonzero : outcome.exitCode ≠ 0 := fun zero => unsuccessful (success.mpr zero)
      split at judged
      · exact absurd (Prod.mk.inj judged).1 (by simp)
      next diagnostics _ =>
        obtain ⟨same, rfl⟩ := Prod.mk.inj judged
        refine ⟨outcome, some diagnostics, ended, rfl, ?_, by simp [nonzero]⟩
        rw [if_neg nonzero, Except.ok.inj same]

end Session

end Mutant
