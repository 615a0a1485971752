import Mutant.Proofs.Trials

/-!
A whole run. Without git it leaves everything as it found it, but for the script that it made
executable, whichever way it ends, unless it tried a file that may not be overwritten. Such a file ends
the work of putting things back, and the mutation can stay.
-/

namespace Mutant.Session

open Repository World

/-- How an attempt can end: the first build is refused, it fails, or files are tried. -/
inductive Attempt (session : Session) (files : List Path) (repository : Repository) (world : World) :
    Except RunError Report × State → Prop
  | refused (error : RunError) :
      Attempt session files repository world (.error error, repository, world.ready session.repo)
  | baselineFailed (baseline : BuildOutcome)
      (ended : session.build world = (.ok baseline, world.built session.repo))
      (nonzero : baseline.exitCode ≠ 0) :
      Attempt session files repository world
        (.ok (session.report (world.built session.repo) .baselineFailed files.head? none baseline none
          none), repository, world.built session.repo)
  | tried (baseline : BuildOutcome)
      (ended : session.build world = (.ok baseline, world.built session.repo))
      (zero : baseline.exitCode = 0) (result : Except RunError Report × State)
      (trial : Trial session baseline files.head? files files repository.isGit
        (world.built session.repo) result) :
      Attempt session files repository world result

theorem attempt_cases (session : Session) (files : List Path) {repository : Repository}
    (world : World) (fresh : repository.backups = []) :
    Attempt session files repository world (session.attempt files (repository, world)) := by
  unfold attempt
  dsimp only
  rcases session.build_cases world with ⟨error, refused⟩ | ⟨baseline, success, _, _, ended⟩
  · rw [refused]
    exact .refused error
  · rw [ended]
    dsimp only
    split
    next succeeded =>
      have keeps : Keeps repository repository.isGit files (world.built session.repo).disk :=
        ⟨rfl, fresh ▸ faithful_nil _, by simp [fresh]⟩
      exact .tried baseline ended (success.mp succeeded) _ (tryFiles_trial (fun _ => id) keeps)
    next unsuccessful =>
      exact .baselineFailed baseline ended fun zero => unsuccessful (success.mpr zero)

variable {session : Session} {files : List Path} {repository : Repository} {world : World}

theorem readied_after_revision {target : Path}
    (revision : session.Revision (world.built session.repo) target) :
    revision.after.readied session.repo = revision.disk := by
  have none : IsEmpty ((world.built session.repo).LockedScript session.repo) :=
    World.isEmpty_lockedScript_of_readied rfl rfl
  exact World.readied_of_isEmpty
    (World.isEmpty_lockedScript_of_sameOutline revision.sameOutline_disk rfl none)

/-- However an attempt ends, the backups lead back to the disk of the first build. -/
theorem Attempt.recoverable {result : Except RunError Report} {kept : Repository} {ended : World}
    (attempt : Attempt session files repository world (result, kept, ended))
    (plain : repository.isGit = false) (fresh : repository.backups = []) :
    kept.isGit = false ∧ (∀ backup ∈ kept.backups, backup.1 ∈ files) ∧
      Recoverable kept.backups (world.readied session.repo) ended.disk := by
  have faithful : Faithful repository.backups (world.readied session.repo) := fresh ▸ faithful_nil _
  have named : ∀ backup ∈ repository.backups, backup.1 ∈ files := by simp [fresh]
  generalize whole : (result, kept, ended) = outcome at attempt
  cases attempt with
  | refused error =>
    cases whole
    exact ⟨plain, named, .refl faithful⟩
  | baselineFailed baseline _ _ =>
    cases whole
    exact ⟨plain, named, .refl faithful⟩
  | tried baseline _ _ _ trial =>
    cases trial with
    | failed error held keeps =>
      cases whole
      exact ⟨keeps.kind.trans plain, keeps.named, .refl keeps.faithful⟩
    | exhausted held mutation keeps _ =>
      cases whole
      exact ⟨keeps.kind.trans plain, keeps.named, .refl keeps.faithful⟩
    | found earlier later target held revision keeps tracked _ _ _ =>
      -- The second build touches nothing, so the new version is all there is to put back.
      obtain ⟨sameRepository, sameDisk⟩ :=
        session.judge_state held revision.after target revision.mutation baseline
      rw [← whole] at sameRepository sameDisk
      obtain rfl : kept = held := sameRepository
      have disk : ended.disk = revision.disk := sameDisk.trans (readied_after_revision revision)
      exact ⟨keeps.kind.trans plain, keeps.named,
        disk ▸ revision.recoverable keeps.faithful (tracked plain)⟩

theorem start_eq_ok {disk : Disk} {repo : Path} {config : RunConfig}
    (started : Session.start disk repo config = .ok session) :
    session.repo = repo ∧ session.config = config ∧ session.repository.backups = [] := by
  unfold start at started
  split at started
  · exact absurd started (by simp)
  next repository opened =>
    split at started
    · exact absurd started (by simp)
    · obtain rfl := Except.ok.inj started
      unfold openAt at opened
      cases probed : disk.probe (repo.child ".git") with
      | error failure =>
        rw [probed] at opened
        exact absurd opened (by simp [Except.map])
      | ok entry =>
        rw [probed] at opened
        obtain rfl := Except.ok.inj opened
        exact ⟨rfl, rfl, rfl⟩

def negation : RunConfig where
  operation := "double-negate-if"
  pickIndex := none
  randomSeed := none
  limit := 1
  timeoutMinutes := Double.ofInt 30
  skipTests := true
  failOnBuild := false
  symbolResolution := true
  diagnosticsLines := 50
  keepMutation := false

def negating : Session :=
  ⟨{}, negation, .doubleNegateIf, { path := {}, isGit := false }⟩

theorem start_negating : Session.start projectDisk {} negation = .ok negating :=
  rfl

def succeeded : BuildOutcome where
  success := true
  command := ["/work/gradlew", "--no-daemon", "clean", "build", "-x", "test"]
  exitCode := 0

def tracking : Repository where
  path := {}
  isGit := false
  backups := [(guarded.path, guarded.source)]

theorem attempt_negating {disk negated : Disk}
    (first : negating.build (project disk []) = (.ok succeeded, project disk [disk]))
    (tracked : negating.repository.track disk guarded.path = .ok tracking)
    (readable : disk.read guarded.path = .ok guarded.source)
    (replaced : disk.replaceContent false guarded.path doubleNegated.render = .ok (true, negated))
    (second : negating.build (project negated [disk]) =
      (.ok succeeded, project negated [disk, negated])) :
    negating.attempt [guarded.path] (negating.repository, project disk []) =
      (.ok (negating.report (project negated [disk, negated]) .ok (some guarded.path)
        (some doubleNegation) succeeded (some succeeded) none), tracking,
        project negated [disk, negated]) := by
  have trackedHere : negating.repository.track (project disk [disk]).disk guarded.path = .ok tracking :=
    tracked
  have worked : (project disk [disk]).mutateFile negating.operator negating.settings negating.policy
      guarded.path = (.ok doubleNegation, project negated [disk]) :=
    mutateFile_guarded [disk] readable replaced
  have success : succeeded.success = true := rfl
  have changed : doubleNegation.changed = true := rfl
  unfold attempt
  simp only [first, success, if_true]
  unfold tryFiles
  simp only [trackedHere, worked, changed, if_true]
  unfold judge
  simp only [second, success, if_true]

end Mutant.Session
