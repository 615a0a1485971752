import Mutant.Proofs.Runs

/-!
What a report says of a run. The first build is always made; if it succeeds, the first file that can be
mutated is, and a second build decides. The disks of the two builds differ in the reported file only.
-/

namespace Mutant

theorem Verdict.preservesBuild_iff (verdict : Verdict) :
    verdict.preservesBuild = true ↔ verdict = .ok ∨ verdict = .noMutation := by
  cases verdict <;> decide

/-- The parts of a report agree with its verdict and with the number of builds. -/
structure Report.Coherent (report : Report) (builds : Nat) : Prop where
  diagnosed : report.diagnostics.isSome = true ↔ report.verdict = .mutatedBuildFailed
  rebuilt : report.mutatedBuild.isSome = true ↔ builds = 2
  preserved : report.buildabilityPreserved = true ↔
    report.verdict = .ok ∨ report.verdict = .noMutation

namespace Session

open Repository World

variable {session : Session} {files : List Path} {repository : Repository} {world : World}

theorem coherent_report {verdict : Verdict} (target : Option Path) (mutation : Option Mutation)
    (baseline : BuildOutcome) {mutated : Option BuildOutcome} {diagnostics : Option String}
    {builds : Nat} (diagnosed : diagnostics.isSome = true ↔ verdict = .mutatedBuildFailed)
    (rebuilt : mutated.isSome = true ↔ builds = 2) :
    (session.report world verdict target mutation baseline mutated diagnostics).Coherent builds where
  diagnosed := diagnosed
  rebuilt := by
    rw [← rebuilt]
    exact iff_of_eq (congrArg (· = true) Option.isSome_map)
  preserved := verdict.preservesBuild_iff

theorem marker_ne_nil (session : Session) : session.settings.marker ≠ [] := by
  change Candidate.defaultMarker ≠ []
  decide

theorem relative_congr {first second : World} (home : first.disk.home = second.disk.home) :
    session.relative first = session.relative second := by
  funext file
  simp only [relative, World.resolve, Disk.origin_congr home]

/-- How a report names the file at a location: by the names that lead to it from the place of the
repository, or as it was given if it lies elsewhere. -/
def Names (place location : List String) (file : Path) (text : String) : Prop :=
  (∃ names, place ++ names = location ∧ text = Path.text ⟨"", names⟩) ∨
    (¬place <+: location ∧ text = file.text)

theorem names_relative {place location : List String} {file : Path}
    (repoLocated : world.disk.locate session.repo = .ok place)
    (located : world.disk.locate file = .ok location) :
    Names place location file (session.relative world file) := by
  obtain ⟨clean, _, _⟩ := Disk.locate_eq_ok.mp located
  rw [relative, if_neg (by simp [clean]), World.resolve_of_locate located,
    World.resolve_of_locate repoLocated, Path.relativeTo?]
  by_cases inside : place <+: location
  · obtain ⟨names, rfl⟩ := inside
    exact Or.inl ⟨names, rfl, by simp⟩
  · exact Or.inr ⟨inside, by simp [inside]⟩

/-- How a run that makes a report can end. Its first build fails, no file that is tried can be mutated,
or the first one that can be is mutated and a second build decides. -/
inductive Ending (session : Session) (limited : List Path) (place : List String)
    (baseline : BuildOutcome) (report : Report) (world ready : World) : World → Prop where
  | baselineFailed (nonzero : baseline.exitCode ≠ 0) (verdict : report.verdict = .baselineFailed) :
      Ending session limited place baseline report world ready ready
  | noMutation (zero : baseline.exitCode = 0)
      (passed : ∀ file ∈ limited, ¬session.Mutates ready file)
      (verdict : report.verdict = .noMutation) :
      Ending session limited place baseline report world ready ready
  | judged {earlier later : List Path} {target : Path} {mutation : Mutation} {mutated ended : World}
      {location : List String} {second : BuildOutcome} (zero : baseline.exitCode = 0)
      (split : limited = earlier ++ target :: later)
      (passed : ∀ file ∈ earlier, ¬session.Mutates ready file)
      (worked : ready.mutateFile session.operator session.settings session.policy target =
        (.ok mutation, mutated))
      (changed : mutation.changed = true)
      (located : ready.disk.locate target = .ok location)
      (named : Names place location target report.targetFile)
      (differs : ∀ other, mutated.disk.status? other ≠ ready.disk.status? other ↔ other = location)
      (rebuilt : session.build mutated = (.ok second, ended))
      (exits : world.Exits (world.builds.length + 1) second.exitCode)
      (untouched : ended.disk = mutated.disk)
      (builds : ended.builds = world.builds ++ [ready.disk, mutated.disk])
      (verdict : report.verdict = if second.exitCode = 0 then .ok else .mutatedBuildFailed) :
      Ending session limited place baseline report world ready ended

theorem built_frame {baseline : BuildOutcome}
    (ended : session.build world = (.ok baseline, world.built session.repo)) :
    world.Exits world.builds.length baseline.exitCode ∧
      ∃ place, (world.built session.repo).disk.locate session.repo = .ok place := by
  obtain ⟨exits, place, located⟩ := exits_of_build ended
  have shape := world.sameShape_readied session.repo
  exact ⟨exits, place, (Disk.locate_congr shape session.repo).trans located⟩

theorem ending_of_judge {baseline : BuildOutcome} {earlier later : List Path} {target : Path}
    {place : List String} {held kept : Repository} {report : Report} {ended : World}
    (zero : baseline.exitCode = 0)
    (repoLocated : (world.built session.repo).disk.locate session.repo = .ok place)
    (revision : session.Revision (world.built session.repo) target)
    (passed : ∀ file ∈ earlier, ¬session.Mutates (world.built session.repo) file)
    (worked : (world.built session.repo).mutateFile session.operator session.settings session.policy
      target = (.ok revision.mutation, revision.after))
    (judged : session.judge (held, revision.after) target revision.mutation baseline =
      (.ok report, kept, ended)) :
    Ending session (earlier ++ target :: later) place baseline report world
        (world.built session.repo) ended ∧
      ended.builds.length = world.builds.length + 2 ∧ report.Coherent 2 := by
  obtain ⟨second, diagnostics, rebuilt, same, rfl, explained⟩ := judge_eq_ok judged
  obtain ⟨rfl, rfl⟩ := Prod.mk.inj same
  have disk : (revision.after.built session.repo).disk = revision.disk :=
    readied_after_revision revision
  have home : (revision.after.built session.repo).disk.home = (world.built session.repo).disk.home :=
    (congrArg Disk.home disk).trans (Disk.home_put ..)
  -- The first build has made the script executable, so the second one finds nothing to change.
  have builds : (revision.after.built session.repo).builds =
      world.builds ++ [(world.built session.repo).disk, revision.disk] := by
    change (world.builds ++ [world.readied session.repo]) ++ [revision.after.readied session.repo] = _
    rw [readied_after_revision revision, List.append_assoc]
    rfl
  have exits : world.Exits (world.builds ++ [_]).length second.exitCode := (exits_of_build rebuilt).1
  rw [List.length_append] at exits
  -- The report is made after the second build, when paths still lead where they led.
  have named : Names place revision.location target
      (session.relative (revision.after.built session.repo) target) := by
    rw [relative_congr home]
    exact names_relative repoLocated revision.located
  have diagnosed : diagnostics.isSome = true ↔
      (if second.exitCode = 0 then Verdict.ok else .mutatedBuildFailed) = .mutatedBuildFailed := by
    rw [explained]
    split <;> simp [*]
  refine ⟨.judged zero rfl passed worked revision.changed revision.located named
    (revision.status?_disk_ne_iff session.marker_ne_nil) rebuilt exits disk builds rfl, ?_,
    coherent_report (some target) (some revision.mutation) baseline diagnosed (by simp)⟩
  rw [builds]
  simp

/-- An attempt that makes a report has built the project, and ends in one of the three ways. -/
theorem Attempt.ending {report : Report} {kept : Repository} {ended : World}
    (attempt : Attempt session files repository world (.ok report, kept, ended)) :
    ∃ baseline place builds, session.build world = (.ok baseline, world.built session.repo) ∧
      world.Exits world.builds.length baseline.exitCode ∧
      (world.built session.repo).disk.locate session.repo = .ok place ∧
      Ending session files place baseline report world (world.built session.repo) ended ∧
      ended.builds.length = world.builds.length + builds ∧ report.Coherent builds := by
  have once : (world.built session.repo).builds.length = world.builds.length + 1 := by
    simp [World.built]
  generalize whole : (Except.ok report, kept, ended) = outcome at attempt
  cases attempt with
  | refused error => exact absurd (congrArg Prod.fst whole) (by simp)
  | baselineFailed baseline built nonzero =>
    obtain ⟨exits, place, located⟩ := built_frame built
    cases whole
    exact ⟨baseline, place, 1, built, exits, located, .baselineFailed nonzero rfl, once,
      coherent_report files.head? none baseline (by simp) (by simp)⟩
  | tried baseline built zero _ trial =>
    obtain ⟨exits, place, located⟩ := built_frame built
    cases trial with
    | failed error held keeps => exact absurd (congrArg Prod.fst whole) (by simp)
    | exhausted held mutation keeps passed =>
      cases whole
      exact ⟨baseline, place, 1, built, exits, located, .noMutation zero passed rfl, once,
        coherent_report files.head? (some mutation) baseline (by simp) (by simp)⟩
    | found earlier later target held revision keeps tracked split passed worked =>
      obtain ⟨ending, twice, coherent⟩ :=
        ending_of_judge zero located revision passed worked whole.symm
      exact ⟨baseline, place, 2, built, exits, located, split ▸ ending, twice, coherent⟩

theorem run_eq_ok {report : Report} {after : World}
    (ran : session.run files world = (.ok report, after)) :
    ∃ kept ended, session.attempt (files.take session.config.limit.toNat)
        ((session.repository.snapshot world).1, (session.repository.snapshot world).2.1) =
          (.ok report, kept, ended) ∧
      after = (if session.config.keepMutation then ended else (kept.restore ended).2.1) ∧
      (session.config.keepMutation = false → (kept.restore ended).2.2 = none) := by
  unfold run at ran
  rcases taken : session.repository.snapshot world with ⟨repository, begun, _ | failure⟩
  · rcases attempted : session.attempt (files.take session.config.limit.toNat) (repository, begun)
      with ⟨result, kept, ended⟩
    rw [taken] at ran
    simp only [attempted] at ran
    split at ran
    next keeps =>
      cases ran
      exact ⟨kept, after, rfl, by simp [keeps], fun discarded => by simp [keeps] at discarded⟩
    next discarded =>
      rcases restored : kept.restore ended with ⟨emptied, final, _ | failure⟩
      · rw [restored] at ran
        cases ran
        exact ⟨kept, ended, rfl, by simp [restored, discarded], fun _ => by rw [restored]⟩
      · rw [restored] at ran
        exact absurd (congrArg Prod.fst ran) (by simp)
  · rw [taken] at ran
    exact absurd (congrArg Prod.fst ran) (by simp)

theorem builds_of_ended {kept : Repository} {ended after : World} {keeps : Bool}
    (left : after = if keeps then ended else (kept.restore ended).2.1) :
    after.builds = ended.builds := by
  rw [left]
  split
  · rfl
  · exact kept.restore_builds ended

/-- What a run without git shows in the end, if it keeps no mutation or has made none. -/
theorem status?_of_ended {original : Disk} {kept : Repository} {ended after : World} {keeps : Bool}
    (left : after = if keeps then ended else (kept.restore ended).2.1)
    (done : keeps = false → (kept.restore ended).2.2 = none) (plain : kept.isGit = false)
    (recoverable : Recoverable kept.backups original ended.disk)
    (idle : keeps = true → ended.disk.status? = original.status?) :
    after.disk.status? = original.status? := by
  rw [left]
  split
  next kept => exact idle kept
  next discarded => exact status?_restore plain recoverable (done (by simpa using discarded))

/-- How the builds of a run and its report belong together. The first build is made on the files as they
are once work was set aside, and then the run ends in one of three ways. Whatever it keeps or restores
afterwards, nothing more is built; without git, no file has changed in the end if no mutation was made
or none is kept. -/
theorem run_verdict {disk : Disk} {repo : Path} {config : RunConfig} {report : Report} {after : World}
    (started : Session.start disk repo config = .ok session)
    (ran : session.run files world = (.ok report, after)) :
    let aside := (session.repository.snapshot world).1
    let begun := (session.repository.snapshot world).2.1
    let limited := files.take config.limit.toNat
    (session.repository.isGit = false → begun = world) ∧
    begun.buildTool = world.buildTool ∧ begun.builds = world.builds ∧
    ∃ baseline ready place kept ended builds,
      session.build begun = (.ok baseline, ready) ∧
      begun.Exits begun.builds.length baseline.exitCode ∧
      ready.builds = begun.builds ++ [ready.disk] ∧
      (∀ location, ready.disk.bytes? location = begun.disk.bytes? location) ∧
      ready.disk.locate repo = .ok place ∧
      session.attempt limited (aside, begun) = (.ok report, kept, ended) ∧
      Ending session limited place baseline report begun ready ended ∧
      after = (if config.keepMutation then ended else (kept.restore ended).2.1) ∧
      after.builds = ended.builds ∧ after.builds.length = begun.builds.length + builds ∧
      report.Coherent builds ∧
      (session.repository.isGit = false → config.keepMutation = false ∨ ended = ready →
        after.disk.status? = ready.disk.status?) := by
  obtain ⟨rfl, rfl, fresh⟩ := start_eq_ok started
  obtain ⟨kept, ended, attempted, left, done⟩ := run_eq_ok ran
  obtain ⟨sameBackups, sameKind, sameWorld, sameTool, sameBuilds⟩ :=
    session.repository.snapshot_frame world
  have attempt := session.attempt_cases (files.take session.config.limit.toNat)
    (session.repository.snapshot world).2.1 (sameBackups.trans fresh)
  rw [attempted] at attempt
  obtain ⟨baseline, place, builds, built, exits, located, ending, count, coherent⟩ := attempt.ending
  have same := builds_of_ended left
  refine ⟨sameWorld, sameTool, sameBuilds, baseline, _, place, kept, ended, builds, built, exits, rfl,
    World.bytes?_readied _ _, located, attempted, ending, left, same, ?_, coherent, ?_⟩
  · rw [same, count]
  · intro plain idle
    obtain ⟨keptPlain, -, recoverable⟩ := attempt.recoverable (sameKind.trans plain)
      (sameBackups.trans fresh)
    refine status?_of_ended left done keptPlain recoverable fun keeps => ?_
    rw [idle.resolve_left (by simp [keeps])]

theorem run_negating : ∃ report after,
    negating.run [guarded.path] (project projectDisk []) = (.ok report, after) ∧
      report.verdict = .ok := by
  have attempted := attempt_negating rfl rfl rfl replaceContent_projectDisk rfl
  have restored : (tracking.restore (project negatedDisk [projectDisk, negatedDisk])).2.2 = none :=
    rfl
  rcases final : tracking.restore (project negatedDisk [projectDisk, negatedDisk]) with
    ⟨emptied, after, failure⟩
  rw [final] at restored
  obtain rfl : failure = none := restored
  have taken : negating.repository.snapshot (project projectDisk []) =
      (negating.repository, project projectDisk [], none) :=
    rfl
  have one : [guarded.path].take negating.config.limit.toNat = [guarded.path] := rfl
  have discarded : negating.config.keepMutation = false := rfl
  unfold run
  simp only [taken, one, attempted, discarded, Bool.false_eq_true, if_false, final]
  exact ⟨_, after, rfl, rfl⟩

theorem negating_run_verdict : ∃ report after,
    negating.run [guarded.path] (project projectDisk []) = (.ok report, after) ∧
      report.verdict = .ok ∧ report.targetFile = "A.java" ∧
      ∃ first second, after.builds = [first, second] ∧
        ∀ other, second.status? other ≠ first.status? other ↔ other = ["work", "A.java"] := by
  obtain ⟨report, after, ran, verdict⟩ := run_negating
  refine ⟨report, after, ran, verdict, ?_⟩
  obtain ⟨-, -, -, baseline, ready, place, kept, ended, builds, built, -, -, -, repo, -, ending, -, same,
    -⟩ := run_verdict start_negating ran
  have ready_eq : project projectDisk [projectDisk] = ready := congrArg Prod.snd built
  cases ending with
  | baselineFailed _ failed => exact absurd (failed.symm.trans verdict) (by decide)
  | noMutation _ _ unchanged => exact absurd (unchanged.symm.trans verdict) (by decide)
  | @judged earlier later target mutation mutated _ location second _ split _ _ _ located named differs _
      _ _ twice =>
    have target_eq : target = guarded.path := by
      have only : [guarded.path] = earlier ++ target :: later := split
      exact List.mem_singleton.mp (only ▸ List.mem_append_right _ List.mem_cons_self)
    rw [← ready_eq] at located repo
    rw [target_eq] at located named
    obtain rfl : ["work", "A.java"] = location := Except.ok.inj located
    obtain rfl : ["work"] = place := Except.ok.inj repo
    refine ⟨?_, ready.disk, mutated.disk, same.trans twice, differs⟩
    rcases named with ⟨names, below, text⟩ | ⟨outside, -⟩
    · obtain rfl : names = ["A.java"] := by simpa using below
      exact text
    · exact absurd (by decide) outside

end Session

end Mutant
