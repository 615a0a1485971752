import Mutant.Proofs.GitCalls

/-!
Which stashes are popped. A push notes whether it made a stash, a pop takes it and notes that it is
gone. Nothing is noted when the output of git is no text. So a pop is followed by no other one before
there is a new stash, unless its own output is no text.
-/

namespace Mutant.Repository

abbrev Call := List String × GitReply

def isText (reply : GitReply) : Bool :=
  (unreadable? reply).isNone

def makesStash (call : Call) : Bool :=
  call.1 == stashPush && madeStash call.2

def popsStash (counts : GitReply → Bool) (call : Call) : Bool :=
  call.1 == stashPop && counts call.2

variable {counts : GitReply → Bool}

theorem makesStash_of_pops {call : Call} (pops : popsStash counts call = true) :
    makesStash call = false := by
  rw [popsStash, Bool.and_eq_true, beq_iff_eq] at pops
  have other : (stashPop == stashPush) = false := by decide
  rw [makesStash, pops.1, other, Bool.false_and]

/-- Of the stashes made and the pops that count, the most recent one is a stash made. -/
def owed (counts : GitReply → Bool) (calls : Calls) : Bool :=
  (calls.reverse.find? fun call => makesStash call || popsStash counts call).any makesStash

theorem owed_concat (calls : Calls) (call : Call) :
    owed counts (calls ++ [call]) =
      if makesStash call then true else if popsStash counts call then false else owed counts calls := by
  rw [owed, List.reverse_append, List.reverse_singleton, List.singleton_append, List.find?_cons]
  by_cases makes : makesStash call = true
  · simp [makes]
  · by_cases pops : popsStash counts call = true
    · simp [makes, pops]
    · simp [makes, pops, owed]

/-- Each pop that counts has a stash of its own. -/
def Covered (counts : GitReply → Bool) (calls : Calls) : Prop :=
  ∀ before call after, calls = before ++ call :: after → popsStash counts call = true →
    owed counts before = true

theorem covered_concat {calls : Calls} {call : Call} :
    Covered counts (calls ++ [call]) ↔
      Covered counts calls ∧ (popsStash counts call = true → owed counts calls = true) :=
  forall_split_concat

theorem Covered.countP_le {calls : Calls} (covered : Covered counts calls) :
    calls.countP (popsStash counts) + (if owed counts calls then 1 else 0) ≤
      calls.countP makesStash := by
  induction calls using List.reverseRecOn with
  | nil => simp [owed]
  | append_singleton calls call ih =>
    obtain ⟨before, last⟩ := covered_concat.mp covered
    have earlier := ih before
    rw [List.countP_append, List.countP_append, List.countP_singleton, List.countP_singleton,
      owed_concat]
    by_cases pops : popsStash counts call = true
    · have makes := makesStash_of_pops pops
      rw [last pops] at earlier
      simp only [pops, makes, if_true, Bool.false_eq_true, if_false] at earlier ⊢
      omega
    · by_cases makes : makesStash call = true
      · simp only [pops, makes, if_true, Bool.false_eq_true, if_false]
        omega
      · simp only [pops, makes, Bool.false_eq_true, if_false]
        omega

theorem exists_makesStash_of_owed {front between : Calls} (front_owed : owed counts front = false)
    (later : owed counts (front ++ between) = true) : ∃ push ∈ between, makesStash push = true := by
  induction between using List.reverseRecOn with
  | nil => simp [front_owed] at later
  | append_singleton between call ih =>
    rw [← List.append_assoc, owed_concat] at later
    split at later
    next makes => exact ⟨call, by simp, makes⟩
    next =>
      split at later
      · exact absurd later (by simp)
      · obtain ⟨push, member, makes⟩ := ih later
        exact ⟨push, List.mem_append_left _ member, makes⟩

/-- Only own stashes are popped, and each of them once: at every point there are at most as many pops
as stashes made, and a stash is made between any two pops. -/
structure Owned (counts : GitReply → Bool) (calls : Calls) : Prop where
  bounded : ∀ before, before <+: calls → before.countP (popsStash counts) ≤ before.countP makesStash
  apart : ∀ before first between second after,
    calls = before ++ first :: between ++ second :: after → popsStash counts first = true →
    popsStash counts second = true → ∃ push ∈ between, makesStash push = true

theorem Covered.owned {calls : Calls} (covered : Covered counts calls) : Owned counts calls where
  bounded := by
    rintro before ⟨after, rfl⟩
    have front : Covered counts before := fun earlier call later split =>
      covered earlier call (later ++ after) (by simp [split])
    exact Nat.le_trans (Nat.le_add_right _ _) front.countP_le
  apart before first between second after split pops popsToo := by
    have later : owed counts (before ++ [first] ++ between) = true := by
      rw [List.append_assoc]
      exact covered _ second after split popsToo
    refine exists_makesStash_of_owed ?_ later
    rw [owed_concat, makesStash_of_pops pops, pops]
    rfl

def FollowsReset (calls : Calls) : Prop :=
  ∀ before call after, calls = before ++ call :: after → call.1 = stashPop →
    before.getLast?.map Prod.fst = some resetHard

inductive Answered (stashed : Bool) (world : World) : Request → Calls → Bool → Prop
  | pushed : Answered stashed world .snapshot [(stashPush, nextReply world)]
      (if isText (nextReply world) then madeStash (nextReply world) else stashed)
  | reset (kept : stashed = true → isText (nextReply world) = false) :
      Answered stashed world .restore [(resetHard, nextReply world)] stashed
  | popped (noted : stashed = true) (text : isText (nextReply world) = true) :
      Answered stashed world .restore
        [(resetHard, nextReply world), (stashPop, nextReply (called world resetHard))]
        (!isText (nextReply (called world resetHard)))

theorem Answered.congr {stashed after : Bool} {world other : World} {request : Request} {calls : Calls}
    (answered : Answered stashed world request calls after) (git : other.git = world.git)
    (same : other.gitCalls = world.gitCalls) : Answered stashed other request calls after := by
  have next : nextReply other = nextReply world := by rw [nextReply, nextReply, git, same]
  have nextButOne : nextReply (called other resetHard) = nextReply (called world resetHard) := by
    simp only [nextReply, called, git, same]
  cases answered with
  | pushed => exact next ▸ .pushed
  | reset kept => exact next ▸ .reset (next.symm ▸ kept)
  | popped noted text => exact next ▸ nextButOne ▸ .popped noted (next.symm ▸ text)

theorem snapshot_eq {repository : Repository} (git : repository.isGit = true) (world : World) :
    repository.snapshot world =
      (if isText (nextReply world) then { repository with stashed := madeStash (nextReply world) }
        else repository, called world stashPush, unreadable? (nextReply world)) := by
  rw [snapshot, if_pos git, callGit_eq, isText]
  cases unreadable? (nextReply world) <;> rfl

theorem answer_cases {repository : Repository} (git : repository.isGit = true) (world : World)
    (request : Request) :
    ∃ calls stashed, Answered repository.stashed world request calls stashed ∧
      (answer (repository, world) request).1 = { repository with stashed } ∧
      (answer (repository, world) request).2.gitCalls = world.gitCalls ++ calls := by
  cases request with
  | snapshot =>
    refine ⟨_, _, .pushed, ?_⟩
    rw [answer, snapshot_eq git]
    cases isText (nextReply world) <;> exact ⟨rfl, rfl⟩
  | restore =>
    obtain ⟨path, isGit, backups, stashed⟩ := repository
    rw [answer, restore, if_pos git, restoreGit, callGit_eq]
    rcases readable : unreadable? (nextReply world) with _ | failure
    · have text : isText (nextReply world) = true := by rw [isText, readable, Option.isNone_none]
      cases stashed with
      | false => exact ⟨_, _, .reset fun noted => absurd noted Bool.false_ne_true, rfl, rfl⟩
      | true =>
        refine ⟨_, _, .popped rfl text, ?_⟩
        simp only [if_true, callGit_eq, isText]
        cases unreadable? (nextReply (called world resetHard)) <;> simp [called]
    · exact ⟨_, _, .reset fun _ => by rw [isText, readable, Option.isNone_some], rfl, rfl⟩

/-- What is noted agrees with the calls so far, and each pop had its reasons. -/
structure Kept (stashed : Bool) (calls : Calls) : Prop where
  noted : stashed = true → owed isText calls = true
  pops : ∀ before call after, calls = before ++ call :: after → call.1 = stashPop →
    before.getLast?.map Prod.fst = some resetHard ∧ owed isText before = true

namespace Kept

variable {stashed : Bool} {calls : Calls}

theorem of_fresh (fresh : stashed = false) : Kept stashed [] where
  noted some := absurd some (by simp [fresh])
  pops before call after split := absurd split (by simp)

theorem push (kept : Kept stashed calls) (reply : GitReply) :
    Kept (if isText reply then madeStash reply else stashed) (calls ++ [(stashPush, reply)]) where
  noted := by
    have makes : makesStash (stashPush, reply) = madeStash reply := rfl
    have pops : popsStash isText (stashPush, reply) = false := rfl
    rw [owed_concat, makes, pops]
    cases made : madeStash reply with
    | true => exact fun _ => rfl
    | false =>
      split
      · exact fun noted => absurd noted Bool.false_ne_true
      · exact kept.noted
  pops := forall_split_concat.mpr
    ⟨kept.pops, fun pop => absurd pop (by decide : stashPush ≠ stashPop)⟩

theorem reset (kept : Kept stashed calls) (reply : GitReply) :
    Kept stashed (calls ++ [(resetHard, reply)]) where
  noted := by
    rw [owed_concat]
    exact kept.noted
  pops := forall_split_concat.mpr
    ⟨kept.pops, fun pop => absurd pop (by decide : resetHard ≠ stashPop)⟩

theorem pop (kept : Kept true calls) (last : calls.getLast?.map Prod.fst = some resetHard)
    (reply : GitReply) : Kept (!isText reply) (calls ++ [(stashPop, reply)]) where
  noted text := by
    have makes : makesStash (stashPop, reply) = false := rfl
    have pops : popsStash isText (stashPop, reply) = isText reply := rfl
    rw [Bool.not_eq_true'] at text
    rw [owed_concat, makes, pops, text]
    exact kept.noted rfl
  pops := forall_split_concat.mpr ⟨kept.pops, fun _ => ⟨last, kept.noted rfl⟩⟩

theorem answered {after : Bool} {world : World} {request : Request} {new : Calls}
    (kept : Kept stashed calls) (answered : Answered stashed world request new after) :
    Kept after (calls ++ new) := by
  cases answered with
  | pushed => exact kept.push _
  | reset => exact kept.reset _
  | popped noted text =>
    subst noted
    rw [List.append_cons]
    exact (kept.reset _).pop (by simp) _

theorem followsReset (kept : Kept stashed calls) : FollowsReset calls :=
  fun before call after split pop => (kept.pops before call after split pop).1

end Kept

theorem popsStash_name {call : Call} (pops : popsStash counts call = true) : call.1 = stashPop := by
  rw [popsStash, Bool.and_eq_true, beq_iff_eq] at pops
  exact pops.1

/-- A pop the output of which is no text is followed by a new stash before the next pop. -/
def Settled (calls : Calls) : Prop :=
  ∀ before first between second after, calls = before ++ first :: between ++ second :: after →
    first.1 = stashPop → isText first.2 = false → second.1 = stashPop →
    ∃ push ∈ between, makesStash push = true

abbrev anyReply : GitReply → Bool :=
  fun _ => true

theorem exists_unreadable_of_owed {calls : Calls} (counted : owed isText calls = true)
    (all : owed anyReply calls = false) :
    ∃ before pop between, calls = before ++ pop :: between ∧ pop.1 = stashPop ∧
      isText pop.2 = false ∧ ∀ push ∈ between, makesStash push = false := by
  induction calls using List.reverseRecOn with
  | nil => exact absurd counted (by simp [owed])
  | append_singleton calls call ih =>
    rw [owed_concat] at counted all
    by_cases makes : makesStash call = true
    · simp [makes] at all
    · by_cases pops : call.1 = stashPop
      · by_cases text : isText call.2 = true
        · simp [makes, popsStash, pops, text] at counted
        · exact ⟨calls, call, [], rfl, pops, by simpa using text, List.forall_mem_nil _⟩
      · have other : popsStash isText call = false ∧ popsStash anyReply call = false := by
          simp [popsStash, pops]
        rw [if_neg makes, other.1] at counted
        rw [if_neg makes, other.2] at all
        obtain ⟨before, pop, between, split, name, unread, none⟩ := ih counted all
        refine ⟨before, pop, between ++ [call], by simp [split], name, unread, ?_⟩
        exact List.forall_mem_append.mpr ⟨none, List.forall_mem_singleton.mpr (by simpa using makes)⟩

namespace Kept

variable {stashed : Bool} {calls : Calls} (kept : Kept stashed calls)

include kept

theorem covered : Covered isText calls :=
  fun before call after split pops => (kept.pops before call after split (popsStash_name pops)).2

theorem covered_of_settled (settled : Settled calls) : Covered anyReply calls := by
  intro before second after split pops
  have pop := popsStash_name pops
  by_contra none
  obtain ⟨front, first, between, rfl, name, unread, fresh⟩ :=
    exists_unreadable_of_owed (kept.pops before second after split pop).2 (by simpa using none)
  obtain ⟨push, member, makes⟩ :=
    settled front first between second after split name unread pop
  rw [fresh push member] at makes
  exact absurd makes Bool.false_ne_true

/-- Only pops without a readable output can be followed by one too many. -/
theorem owned_iff_settled : Owned anyReply calls ↔ Settled calls := by
  refine ⟨fun owned before first between second after split pop _ popToo => ?_, fun settled =>
    (kept.covered_of_settled settled).owned⟩
  exact owned.apart before first between second after split (by simp [popsStash, pop])
    (by simp [popsStash, popToo])

end Kept

/-- The calls of git since an earlier time. -/
def callsSince (earlier world : World) : Calls :=
  world.gitCalls.drop earlier.gitCalls.length

theorem callsSince_of_append {earlier world : World} {calls : Calls}
    (same : world.gitCalls = earlier.gitCalls ++ calls) : callsSince earlier world = calls := by
  rw [callsSince, same, List.drop_left]

theorem kept_answerAll {state : Repository × World} (git : state.1.isGit = true)
    (fresh : state.1.stashed = false) (requests : List Request) :
    ∃ calls, (answerAll state requests).2.gitCalls = state.2.gitCalls ++ calls ∧
      Kept (answerAll state requests).1.stashed calls := by
  induction requests using List.reverseRecOn with
  | nil => exact ⟨[], (List.append_nil _).symm, .of_fresh fresh⟩
  | append_singleton requests request ih =>
    obtain ⟨calls, logged, kept⟩ := ih
    obtain ⟨new, stashed, answered, repository_eq, calls_eq⟩ :=
      answer_cases ((isGit_answerAll state requests).trans git) (answerAll state requests).2 request
    have last : answerAll state (requests ++ [request]) = answer (answerAll state requests) request :=
      List.foldl_append
    rw [logged, List.append_assoc] at calls_eq
    rw [last, repository_eq]
    exact ⟨calls ++ new, calls_eq, kept.answered answered⟩

end Mutant.Repository
