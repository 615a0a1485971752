import Mathlib.Data.List.Induction
import Mutant.Proofs.Restoration

/-!
What git is asked to do when work is set aside and taken up again, in any order and whatever git
replies. Setting work aside is one push of a stash. Taking it up begins with a hard reset, and nothing
is asked before it: also a push that was refused is followed by one, and then local changes are lost.
-/

namespace Mutant.Repository

inductive Request where
  | snapshot | restore
deriving DecidableEq, Repr

abbrev Calls := List (List String × GitReply)

def answer (state : Repository × World) : Request → Repository × World
  | .snapshot => ((state.1.snapshot state.2).1, (state.1.snapshot state.2).2.1)
  | .restore => ((state.1.restore state.2).1, (state.1.restore state.2).2.1)

def answerAll (state : Repository × World) (requests : List Request) : Repository × World :=
  requests.foldl answer state

/-- The most recent push of a stash, if any, ended well. Then there was nothing to put in it, or it holds
the local changes. -/
def setAside (calls : Calls) : Bool :=
  match calls.reverse.lookup stashPush with
  | some (.ended exitCode _ _) => exitCode == 0
  | _ => false

/-- Local changes are thrown away only once they are set aside. -/
def Careful (calls : Calls) : Prop :=
  ∀ before call after, calls = before ++ call :: after → call.1 = resetHard → setAside before = true

/-- What holds at each place of a longer list holds at each place of the list and at the new one. -/
theorem forall_split_concat {α : Type} {holds : List α → α → Prop} {items : List α} {last : α} :
    (∀ before item after, items ++ [last] = before ++ item :: after → holds before item) ↔
      (∀ before item after, items = before ++ item :: after → holds before item) ∧
        holds items last := by
  constructor
  · intro all
    refine ⟨fun before item after split => ?_, all items last [] rfl⟩
    exact all before item (after ++ [last]) (by rw [split, List.append_assoc, List.cons_append])
  · rintro ⟨earlier, new⟩ before item after split
    rcases List.eq_nil_or_concat after with rfl | ⟨others, final, rfl⟩
    · obtain ⟨rfl, same⟩ := List.append_inj' split rfl
      rw [← (List.cons.inj same).1]
      exact new
    · rw [List.concat_eq_append, ← List.cons_append, ← List.append_assoc] at split
      exact earlier before item others (List.append_inj' split rfl).1

theorem careful_concat {calls : Calls} {call : List String × GitReply} :
    Careful (calls ++ [call]) ↔ Careful calls ∧ (call.1 = resetHard → setAside calls = true) :=
  forall_split_concat

theorem careful_append {calls others : Calls} (harmless : ∀ call ∈ others, call.1 ≠ resetHard) :
    Careful (calls ++ others) ↔ Careful calls := by
  induction others using List.reverseRecOn with
  | nil => rw [List.append_nil]
  | append_singleton others last ih =>
    rw [← List.append_assoc, careful_concat,
      ih fun call member => harmless call (List.mem_append_left _ member)]
    exact and_iff_left fun reset => absurd reset (harmless last (by simp))

theorem isGit_answer (state : Repository × World) (request : Request) :
    (answer state request).1.isGit = state.1.isGit := by
  obtain ⟨repository, world⟩ := state
  cases request with
  | snapshot =>
    obtain ⟨_, _, taken⟩ := repository.snapshot_cases world
    simp only [answer, taken]
  | restore =>
    simp only [answer, restore]
    split
    · obtain ⟨_, _, _, _, restored⟩ := repository.restoreGit_cases world
      simp only [restored]
    · rcases writeBack world.disk repository.backups with ⟨disk, _ | failure⟩ <;> rfl

theorem isGit_answerAll (state : Repository × World) (requests : List Request) :
    (answerAll state requests).1.isGit = state.1.isGit := by
  induction requests generalizing state with
  | nil => rfl
  | cons request rest ih => exact (ih _).trans (isGit_answer state request)

theorem calls_snapshot {repository : Repository} (git : repository.isGit = true) (world : World) :
    (answer (repository, world) .snapshot).2.gitCalls =
      world.gitCalls ++ [(stashPush, nextReply world)] := by
  obtain ⟨_, _, taken⟩ := repository.snapshot_cases world
  simp only [answer, taken, git, if_true]
  rfl

theorem exists_gitCalls_foldl_called (world : World) (arguments : List (List String)) :
    ∃ calls : Calls, (∀ call ∈ calls, call.1 ∈ arguments) ∧
      (arguments.foldl called world).gitCalls = world.gitCalls ++ calls := by
  induction arguments generalizing world with
  | nil => exact ⟨[], by simp, (List.append_nil _).symm⟩
  | cons first rest ih =>
    obtain ⟨calls, named, logged⟩ := ih (called world first)
    refine ⟨(first, nextReply world) :: calls, List.forall_mem_cons.mpr ⟨List.mem_cons_self, ?_⟩, ?_⟩
    · exact fun call member => List.mem_cons_of_mem _ (named call member)
    · rw [List.foldl_cons, logged, List.append_cons]
      rfl

theorem calls_restore {repository : Repository} (git : repository.isGit = true) (world : World) :
    ∃ pops : Calls, (∀ call ∈ pops, call.1 = stashPop) ∧
      (answer (repository, world) .restore).2.gitCalls =
        world.gitCalls ++ [(resetHard, nextReply world)] ++ pops := by
  obtain ⟨_, _, pops, popped, restored⟩ := repository.restoreGit_cases world
  obtain ⟨calls, named, logged⟩ := exists_gitCalls_foldl_called (called world resetHard) pops
  refine ⟨calls, fun call member => popped _ (named call member), ?_⟩
  simp only [answer, restore, git, if_true, restored]
  exact logged

theorem careful_answer {state : Repository × World} (git : state.1.isGit = true)
    (request : Request) :
    Careful (answer state request).2.gitCalls ↔
      Careful state.2.gitCalls ∧ (request = .restore → setAside state.2.gitCalls = true) := by
  obtain ⟨repository, world⟩ := state
  cases request with
  | snapshot =>
    rw [calls_snapshot git, careful_concat]
    have push : stashPush ≠ resetHard := by decide
    simp [push]
  | restore =>
    obtain ⟨pops, popped, calls⟩ := calls_restore git world
    have pop : stashPop ≠ resetHard := by decide
    rw [calls, careful_append fun call member => popped call member ▸ pop, careful_concat]
    simp

/-- When local changes are safe. In every sequence of requests, and whatever git replies, no reset
comes before its time exactly if the most recent push had ended well at each request to take work up
again. -/
theorem careful_answerAll_iff {state : Repository × World} (git : state.1.isGit = true)
    (requests : List Request) :
    Careful (answerAll state requests).2.gitCalls ↔
      Careful state.2.gitCalls ∧ ∀ before request after, requests = before ++ request :: after →
        request = .restore → setAside (answerAll state before).2.gitCalls = true := by
  -- From the end: what a request may do depends on all calls before it.
  induction requests using List.reverseRecOn with
  | nil => simp [answerAll]
  | append_singleton requests request ih =>
    have last : answerAll state (requests ++ [request]) = answer (answerAll state requests) request :=
      List.foldl_append
    rw [last, careful_answer ((isGit_answerAll state requests).trans git), ih, forall_split_concat,
      and_assoc]

def replying (reply : GitReply) : World where
  grammar := fun _ => .mk (.other "program") none ⟨0, 0⟩ true false []
  now := ⟨2025, 8, 13, 19, 54, 32, 0, some 0⟩
  buildTool := fun _ _ => {}
  git := fun _ => reply

theorem obliging_careful :
    Careful (answerAll ({ path := {}, isGit := true }, replying (.ended 0 [] []))
      [.snapshot, .restore]).2.gitCalls := by
  refine (careful_answerAll_iff rfl _).mpr ⟨?_, fun before request after split taken => ?_⟩
  · intro before call after split
    exact absurd split (by simp [replying])
  · rcases before with _ | ⟨first, _ | ⟨second, more⟩⟩
    · exact absurd ((List.cons.inj split).1.trans taken) (by decide)
    · obtain rfl : .snapshot = first := (List.cons.inj split).1
      decide
    · exact absurd (List.cons.inj (List.cons.inj split).2).2 (by simp)

/-- Local changes that could not be set aside are thrown away all the same. -/
theorem refusing_not_careful :
    ¬Careful (answerAll ({ path := {}, isGit := true }, replying (.ended 1 [] []))
      [.snapshot, .restore]).2.gitCalls := by
  intro careful
  have aside := careful [(stashPush, .ended 1 [] [])] (resetHard, .ended 1 [] []) [] rfl rfl
  exact absurd aside (by decide)

end Mutant.Repository
