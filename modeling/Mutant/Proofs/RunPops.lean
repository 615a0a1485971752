import Mutant.Proofs.Runs
import Mutant.Proofs.StashPops

/-!
Pops during a run. Between setting work aside and taking it up again git is not called, so a run calls it
three times at most. Own stashes alone are popped as long as the output of git is text. A pop that ends
with another output is forgotten, and the next one takes a stash of somebody else.
-/

namespace Mutant

open Repository

structure World.Uncalled (before after : World) : Prop where
  git : after.git = before.git
  gitCalls : after.gitCalls = before.gitCalls

namespace World.Uncalled

theorem refl (world : World) : Uncalled world world :=
  ⟨rfl, rfl⟩

theorem trans {first second third : World} (one : Uncalled first second)
    (other : Uncalled second third) : Uncalled first third :=
  ⟨other.git.trans one.git, other.gitCalls.trans one.gitCalls⟩

end World.Uncalled

namespace Session

open World

theorem uncalled_build (session : Session) (world : World) :
    Uncalled world (session.build world).2 := by
  rcases session.build_cases world with ⟨error, refused⟩ | ⟨outcome, -, -, -, ended⟩
  · rw [refused]
    exact ⟨rfl, rfl⟩
  · rw [ended]
    exact ⟨rfl, rfl⟩

theorem uncalled_mutateFile (world : World) (operator : Operator) (settings : Settings)
    (policy : Policy) (path : Path) :
    Uncalled world (world.mutateFile operator settings policy path).2 := by
  have outcome := world.mutateFile_outcome operator settings policy path
  generalize world.mutateFile operator settings policy path = worked at outcome
  cases outcome with
  | failed error => exact .refl world
  | skipped mutation unchanged reason => exact .refl world
  | revised revision => exact ⟨rfl, rfl⟩

/-- With git, nothing that is to be restored changes. -/
structure Untouched (before after : State) : Prop where
  repository : after.1 = before.1
  world : Uncalled before.2 after.2

section Untouched

variable (session : Session) {repository : Repository} (world : World)

theorem untouched_judge (target : Path) (mutation : Mutation) (baseline : BuildOutcome) :
    Untouched (repository, world)
      (session.judge (repository, world) target mutation baseline).2 := by
  have uncalled := session.uncalled_build world
  unfold judge
  dsimp only
  generalize session.build world = built at uncalled ⊢
  rcases built with ⟨error | outcome, after⟩
  · exact ⟨rfl, uncalled⟩
  · dsimp only
    split
    · exact ⟨rfl, uncalled⟩
    · split <;> exact ⟨rfl, uncalled⟩

theorem untouched_tryFiles (git : repository.isGit = true) (baseline : BuildOutcome)
    (first : Option Path) (files : List Path) :
    Untouched (repository, world) (session.tryFiles baseline first files (repository, world)).2 := by
  induction files generalizing world with
  | nil => exact ⟨rfl, .refl world⟩
  | cons target rest ih =>
    have tracked : repository.track world.disk target = .ok repository := if_pos git
    have uncalled := uncalled_mutateFile world session.operator session.settings session.policy target
    rw [tryFiles, tracked]
    dsimp only
    generalize world.mutateFile session.operator session.settings session.policy target = worked
      at uncalled ⊢
    rcases worked with ⟨error | mutation, after⟩
    · exact ⟨rfl, uncalled⟩
    · dsimp only
      split
      · have judged : Untouched (repository, after) _ :=
          session.untouched_judge after target mutation baseline
        exact ⟨judged.repository, uncalled.trans judged.world⟩
      · exact ⟨(ih after).repository, uncalled.trans (ih after).world⟩

theorem untouched_attempt (git : repository.isGit = true) (files : List Path) :
    Untouched (repository, world) (session.attempt files (repository, world)).2 := by
  have uncalled := session.uncalled_build world
  unfold attempt
  dsimp only
  generalize session.build world = built at uncalled ⊢
  rcases built with ⟨error | baseline, after⟩
  · exact ⟨rfl, uncalled⟩
  · dsimp only
    split
    · have tried := session.untouched_tryFiles after git baseline files.head? files
      exact ⟨tried.repository, uncalled.trans tried.world⟩
    · exact ⟨rfl, uncalled⟩

end Untouched

theorem calls_restore_attempt {session : Session} {repository kept : Repository}
    {files : List Path} {world ended : World} {result : Except RunError Report}
    (git : repository.isGit = true)
    (attempted : session.attempt files (repository, world) = (result, kept, ended)) :
    ∃ calls after, Answered repository.stashed world .restore calls after ∧
      (kept.restore ended).2.1.gitCalls = world.gitCalls ++ calls := by
  have untouched := session.untouched_attempt world git files
  rw [attempted] at untouched
  obtain ⟨same, uncalled⟩ := untouched
  obtain rfl : kept = repository := same
  obtain ⟨calls, after, answered, -, logged⟩ := answer_cases git ended .restore
  refine ⟨calls, after, answered.congr uncalled.git.symm uncalled.gitCalls.symm, ?_⟩
  rw [← uncalled.gitCalls]
  exact logged

/-- A run that keeps no mutation pushes, and if it could read the reply it takes up work again. -/
theorem run_calls {session : Session} (git : session.repository.isGit = true)
    (discarded : session.config.keepMutation = false) (files : List Path) (world : World) :
    ∃ calls, (session.run files world).2.gitCalls =
        world.gitCalls ++ (stashPush, nextReply world) :: calls ∧
      if isText (nextReply world) then
        ∃ after, Answered (madeStash (nextReply world)) (called world stashPush) .restore calls after
      else calls = [] := by
  rw [run, snapshot_eq git]
  rcases readable : unreadable? (nextReply world) with _ | failure
  · have text : isText (nextReply world) = true := by rw [isText, readable, Option.isNone_none]
    simp only [text, discarded, if_true, Bool.false_eq_true, if_false]
    generalize stashing : { session.repository with stashed := madeStash (nextReply world) } =
      repository
    have stillGit : repository.isGit = true := stashing ▸ git
    have noted : repository.stashed = madeStash (nextReply world) := by rw [← stashing]
    rcases attempted : session.attempt (files.take session.config.limit.toNat)
      (repository, called world stashPush) with ⟨result, kept, ended⟩
    obtain ⟨calls, after, answered, logged⟩ := calls_restore_attempt stillGit attempted
    rw [called, List.append_assoc, List.singleton_append] at logged
    refine ⟨calls, ?_, after, noted ▸ answered⟩
    rw [← logged]
    rcases kept.restore ended with ⟨_, _, _ | _⟩ <;> rfl
  · refine ⟨[], rfl, ?_⟩
    rw [isText, readable, Option.isNone_some, if_neg Bool.false_ne_true]

theorem nextReply_called (world : World) (arguments : List String) :
    nextReply (called world arguments) = world.git (world.gitCalls.length + 1) := by
  rw [nextReply, called, List.length_append, List.length_singleton]

/-- A run pops exactly if its push made a stash and git could be understood so far. -/
theorem run_pops_iff {session : Session} (git : session.repository.isGit = true)
    (discarded : session.config.keepMutation = false) (files : List Path) (world : World) :
    (∃ call ∈ callsSince world (session.run files world).2, call.1 = stashPop) ↔
      makesStash (stashPush, nextReply world) = true ∧ isText (nextReply world) = true ∧
        isText (world.git (world.gitCalls.length + 1)) = true := by
  obtain ⟨calls, logged, restored⟩ := run_calls git discarded files world
  have other : stashPush ≠ stashPop := by decide
  have otherToo : resetHard ≠ stashPop := by decide
  have makes : makesStash (stashPush, nextReply world) = madeStash (nextReply world) := rfl
  rw [callsSince_of_append logged, makes]
  split at restored
  next text =>
    obtain ⟨after, answered⟩ := restored
    rw [← nextReply_called world stashPush]
    cases answered with
    | reset kept =>
      have none : ¬(madeStash (nextReply world) = true ∧
          isText (nextReply (called world stashPush)) = true) := by
        rintro ⟨made, read⟩
        rw [kept made] at read
        exact absurd read Bool.false_ne_true
      simp [other, otherToo, text, none]
    | popped noted read => simp [noted, text, read]
  next unread => simp [restored, other, unread]

/-- Which stashes are popped. In every sequence of requests each pop directly follows a reset. Among the
pops that git's reply could be read of, there are never more than stashes made, and a stash is made
between any two. The same holds of all pops exactly when no pop with another reply is followed by a pop
without a new stash. A run that keeps no mutation pops exactly if its push made a stash and git's replies
up to then could be read. -/
theorem pops_own_stash {repository : Repository} (git : repository.isGit = true)
    (fresh : repository.stashed = false) (world : World) :
    (∀ requests, let calls := callsSince world (answerAll (repository, world) requests).2
      FollowsReset calls ∧ Owned isText calls ∧ (Owned anyReply calls ↔ Settled calls)) ∧
    ∀ (session : Session) (files : List Path), session.repository = repository →
      session.config.keepMutation = false →
      ((∃ call ∈ callsSince world (session.run files world).2, call.1 = stashPop) ↔
        makesStash (stashPush, nextReply world) = true ∧ isText (nextReply world) = true ∧
          isText (world.git (world.gitCalls.length + 1)) = true) := by
  constructor
  · intro requests calls
    obtain ⟨own, logged, kept⟩ := @kept_answerAll (repository, world) git fresh requests
    obtain rfl : calls = own := callsSince_of_append logged
    exact ⟨kept.followsReset, kept.covered.owned, kept.owned_iff_settled⟩
  · rintro session files rfl discarded
    exact run_pops_iff git discarded files world

def mumbling : World :=
  { replying .absent with git := fun number => if number = 2 then .ended 0 [0xff] [] else .ended 0 [] [] }

def versioned : Repository :=
  { path := {}, isGit := true }

theorem negating_pops :
    (∃ call ∈ callsSince (replying (.ended 0 [] []))
      ({ negating with repository := versioned }.run [] (replying (.ended 0 [] []))).2,
        call.1 = stashPop) ∧
      Owned isText (callsSince mumbling (answerAll (versioned, mumbling)
        [.snapshot, .restore, .restore]).2) :=
  ⟨((pops_own_stash rfl rfl _).2 _ [] rfl rfl).mpr (by decide),
    ((pops_own_stash rfl rfl mumbling).1 _).2.1⟩

/-- After a pop that ends with something else than text, the next one takes another stash. -/
theorem mumbling_not_owned :
    ¬Owned anyReply (callsSince mumbling (answerAll (versioned, mumbling)
      [.snapshot, .restore, .restore]).2) := by
  intro owned
  exact absurd (owned.bounded _ (List.prefix_refl _)) (by decide)

end Session

end Mutant
