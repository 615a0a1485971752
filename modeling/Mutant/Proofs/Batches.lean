import Mathlib.Data.List.Permutation
import Mutant.Proofs.Rendering

/-!
Queueing edits batch by batch. The check compares neighbours in the sorted queue only, and that is
enough: a batch is taken exactly when no two of the queued edits overlap. So it does not matter how
the edits are divided into batches, and a batch that is refused leaves no trace.
-/

namespace Mutant

namespace Edit

theorem leftToRight_sort_iff {edits : List Edit}
    (forward : ∀ edit ∈ edits, edit.start ≤ edit.stop) :
    LeftToRight (sort edits) ↔ edits.Pairwise Apart :=
  ⟨fun ordered => (sort_perm edits).pairwise ordered.apart Or.symm, leftToRight_sort forward⟩

end Edit

namespace Overlap

open Edit

theorem firstIn_eq_some {edits : List Edit} {overlap : Overlap}
    (found : firstIn edits = some overlap) :
    [overlap.first, overlap.second].Sublist edits ∧ overlap.second.start < overlap.first.stop := by
  fun_induction firstIn edits with
  | case1 first second rest inside =>
    obtain rfl := Option.some_inj.mp found
    exact ⟨.cons_cons first (.cons_cons second (List.nil_sublist rest)), inside⟩
  | case2 first second rest apart ih =>
    obtain ⟨later, inside⟩ := ih found
    exact ⟨.cons first later, inside⟩
  | case3 => exact absurd found (by simp)

/-- Neighbours of which the second starts inside the first are not apart, also where one of them is
an insertion. -/
theorem not_apart_of_firstIn {edits : List Edit} {overlap : Overlap}
    (forward : ∀ edit ∈ edits, edit.start ≤ edit.stop)
    (found : firstIn (sort edits) = some overlap) : ¬overlap.first.Apart overlap.second := by
  obtain ⟨neighbours, inside⟩ := firstIn_eq_some found
  have sorted := (sort_pairwise edits).sublist neighbours
  have order : precedes overlap.first overlap.second = true :=
    (List.pairwise_cons.mp sorted).1 _ List.mem_cons_self
  have secondIn : overlap.second ∈ edits := mem_sort.mp (neighbours.subset (by simp))
  have secondForward := forward overlap.second secondIn
  rw [precedes_iff] at order
  rw [Apart]
  omega

end Overlap

namespace Draft

open Edit

def queueAll (draft : Draft) : List (List Edit) → Except Overlap Draft
  | [] => .ok draft
  | batch :: rest =>
      match draft.queue batch with
      | .error overlap => .error overlap
      | .ok next => next.queueAll rest

def attempt (draft : Draft) (batch : List Edit) : Draft :=
  match draft.queue batch with
  | .error _ => draft
  | .ok next => next

def attemptAll (draft : Draft) (batches : List (List Edit)) : Draft :=
  batches.foldl attempt draft

theorem queue_eq_ok_iff_apart {base draft : Draft} {batch : List Edit}
    (forward : ∀ edit ∈ base.edits ++ batch, edit.start ≤ edit.stop) :
    base.queue batch = .ok draft ↔
      (base.edits ++ batch).Pairwise Apart ∧ draft = ⟨base.source, base.edits ++ batch⟩ := by
  rw [queue_eq_ok_iff forward, leftToRight_sort_iff forward]

theorem queue_eq_error {base : Draft} {batch : List Edit} {overlap : Overlap}
    (forward : ∀ edit ∈ base.edits ++ batch, edit.start ≤ edit.stop)
    (refused : base.queue batch = .error overlap) :
    overlap.first ∈ base.edits ++ batch ∧ overlap.second ∈ base.edits ++ batch ∧
      ¬overlap.first.Apart overlap.second := by
  unfold queue at refused
  split at refused
  next reported found =>
    obtain rfl := Except.error.inj refused
    have members := (Overlap.firstIn_eq_some found).1.subset
    exact ⟨mem_sort.mp (members (by simp)), mem_sort.mp (members (by simp)),
      Overlap.not_apart_of_firstIn forward found⟩
  next => exact absurd refused (by simp)

theorem queueAll_edits {base draft : Draft} {batches : List (List Edit)}
    (accepted : base.queueAll batches = .ok draft) :
    draft = ⟨base.source, base.edits ++ batches.flatten⟩ := by
  induction batches generalizing base with
  | nil =>
    rw [List.flatten_nil, List.append_nil]
    exact (Except.ok.inj accepted).symm
  | cons batch rest ih =>
    rw [queueAll] at accepted
    split at accepted
    next => exact absurd accepted (by simp)
    next next taken =>
      rw [ih accepted, queue_edits taken, List.flatten_cons, List.append_assoc]

/-- The batches are taken when all edits together are, and they end up in the queue in order. Where
there is no batch, nothing is checked. -/
theorem queueAll_eq_ok_iff {base draft : Draft} {batches : List (List Edit)}
    (forward : ∀ edit ∈ base.edits ++ batches.flatten, edit.start ≤ edit.stop)
    (checked : batches = [] → base.edits.Pairwise Apart) :
    base.queueAll batches = .ok draft ↔
      (base.edits ++ batches.flatten).Pairwise Apart ∧
        draft = ⟨base.source, base.edits ++ batches.flatten⟩ := by
  induction batches generalizing base with
  | nil =>
    have sound := checked rfl
    simp [queueAll, sound, eq_comm]
  | cons batch rest ih =>
    rw [List.flatten_cons, ← List.append_assoc] at forward ⊢
    have taken : ∀ next, base.queue batch = .ok next ↔
        (base.edits ++ batch).Pairwise Apart ∧ next = ⟨base.source, base.edits ++ batch⟩ :=
      fun next => queue_eq_ok_iff_apart fun edit member =>
        forward edit (List.mem_append_left _ member)
    rw [queueAll]
    split
    next overlap refused =>
      -- What overlaps already overlaps in the whole queue.
      have overlaps : ¬((base.edits ++ batch) ++ rest.flatten).Pairwise Apart := fun apart => by
        have accepted := (taken _).mpr ⟨(List.pairwise_append.mp apart).1, rfl⟩
        rw [refused] at accepted
        exact absurd accepted (by simp)
      exact iff_of_false (by simp) fun whole => overlaps whole.1
    next next accepted =>
      obtain ⟨apart, rfl⟩ := (taken next).mp accepted
      exact ih forward fun _ => apart

theorem attempt_of_error {draft : Draft} {batch : List Edit} {overlap : Overlap}
    (refused : draft.queue batch = .error overlap) : draft.attempt batch = draft := by
  rw [attempt, refused]

theorem attemptAll_append (draft : Draft) (first second : List (List Edit)) :
    draft.attemptAll (first ++ second) = (draft.attemptAll first).attemptAll second :=
  List.foldl_append

theorem attemptAll_cons (draft : Draft) (batch : List Edit) (rest : List (List Edit)) :
    draft.attemptAll (batch :: rest) = (draft.attempt batch).attemptAll rest :=
  rfl

theorem attemptAll_eq_queueAll (draft : Draft) (batches : List (List Edit)) :
    ∃ taken, taken.Sublist batches ∧ draft.queueAll taken = .ok (draft.attemptAll batches) := by
  induction batches generalizing draft with
  | nil => exact ⟨[], .refl [], rfl⟩
  | cons batch rest ih =>
    obtain ⟨taken, inOrder, queued⟩ := ih (draft.attempt batch)
    cases accepted : draft.queue batch with
    | error overlap =>
      rw [attempt_of_error accepted] at queued
      exact ⟨taken, inOrder.cons batch, by rw [queued, attemptAll_cons, attempt_of_error accepted]⟩
    | ok next =>
      have goesOn : draft.attempt batch = next := by rw [attempt, accepted]
      rw [goesOn] at queued
      refine ⟨batch :: taken, inOrder.cons_cons batch, ?_⟩
      rw [queueAll, accepted, attemptAll_cons, goesOn]
      exact queued

theorem mem_edits_attemptAll {base : Draft} {batches : List (List Edit)} {edit : Edit}
    (queued : edit ∈ (base.attemptAll batches).edits) : edit ∈ base.edits ++ batches.flatten := by
  obtain ⟨taken, inOrder, accepted⟩ := attemptAll_eq_queueAll base batches
  rw [queueAll_edits accepted] at queued
  rcases List.mem_append.mp queued with own | new
  · exact List.mem_append_left _ own
  · obtain ⟨batch, batchIn, member⟩ := List.mem_flatten.mp new
    exact List.mem_append_right _ (List.mem_flatten.mpr ⟨batch, inOrder.subset batchIn, member⟩)

/-- The batches are taken exactly when no two of the queued edits overlap, with the same queue however
the edits are divided. A batch that is refused for two edits that overlap is as good as one that was
never handed in. -/
theorem queueAll_iff_apart {base : Draft} {batches : List (List Edit)}
    (forward : ∀ edit ∈ base.edits ++ batches.flatten, edit.start ≤ edit.stop)
    (checked : batches = [] → base.edits.Pairwise Apart) :
    ((∃ draft, base.queueAll batches = .ok draft) ↔
      (base.edits ++ batches.flatten).Pairwise Apart) ∧
    (∀ draft, base.queueAll batches = .ok draft →
      draft = ⟨base.source, base.edits ++ batches.flatten⟩) ∧
    (∀ others : List (List Edit), others.flatten = batches.flatten →
      (others = [] → base.edits.Pairwise Apart) →
      ∀ draft, base.queueAll others = .ok draft ↔ base.queueAll batches = .ok draft) ∧
    ∀ before batch after, batches = before ++ batch :: after →
      ∀ overlap, (base.attemptAll before).queue batch = .error overlap →
        (overlap.first ∈ (base.attemptAll before).edits ++ batch ∧
          overlap.second ∈ (base.attemptAll before).edits ++ batch ∧
          ¬overlap.first.Apart overlap.second) ∧
        base.attemptAll (before ++ [batch]) = base.attemptAll before ∧
        base.attemptAll batches = base.attemptAll (before ++ after) := by
  have accepts : ∀ draft, base.queueAll batches = .ok draft ↔
      (base.edits ++ batches.flatten).Pairwise Apart ∧
        draft = ⟨base.source, base.edits ++ batches.flatten⟩ :=
    fun draft => queueAll_eq_ok_iff forward checked
  refine ⟨?_, fun draft => queueAll_edits, ?_, ?_⟩
  · constructor
    · rintro ⟨draft, accepted⟩
      exact ((accepts draft).mp accepted).1
    · intro apart
      exact ⟨_, (accepts _).mpr ⟨apart, rfl⟩⟩
  · intro others same othersChecked draft
    rw [accepts draft, ← same]
    exact queueAll_eq_ok_iff (same ▸ forward) othersChecked
  · rintro before batch after rfl overlap refused
    have heldForward : ∀ edit ∈ (base.attemptAll before).edits ++ batch,
        edit.start ≤ edit.stop := by
      intro edit member
      apply forward
      rw [List.flatten_append, List.flatten_cons, ← List.append_assoc]
      rcases List.mem_append.mp member with held | new
      · exact List.mem_append_left _ (mem_edits_attemptAll held)
      · exact List.mem_append_right _ (List.mem_append_left _ new)
    refine ⟨queue_eq_error heldForward refused, ?_, ?_⟩
    · rw [attemptAll_append, attemptAll_cons, attempt_of_error refused]
      rfl
    · rw [attemptAll_append, attemptAll_cons, attempt_of_error refused, attemptAll_append]

def single : Draft :=
  ⟨[97, 98, 99, 100, 101, 102], [⟨2, 4, [88]⟩]⟩

theorem single_queueAll :
    let ends : List Edit := [⟨2, 2, [49]⟩, ⟨4, 4, [50]⟩]
    let inside : List Edit := [⟨3, 3, [51]⟩]
    let behind : List Edit := [⟨4, 6, []⟩]
    (∃ draft, single.queueAll [ends, behind] = .ok draft) ∧
      ¬(∃ draft, single.queueAll [ends, inside, behind] = .ok draft) ∧
      ∃ overlap, (single.attemptAll [ends]).queue inside = .error overlap ∧
        single.attemptAll [ends, inside, behind] = single.attemptAll [ends, behind] := by
  intro ends inside behind
  have forward : ∀ edit ∈ single.edits ++ [ends, inside, behind].flatten,
      edit.start ≤ edit.stop := by decide
  have checked : [ends, inside, behind] = [] → single.edits.Pairwise Apart := by simp
  have overlap : (single.attemptAll [ends]).queue inside =
      .error ⟨⟨2, 4, [88]⟩, ⟨3, 3, [51]⟩⟩ := by cbv
  obtain ⟨taken, -, -, refusals⟩ := queueAll_iff_apart forward checked
  have apart : (single.edits ++ [ends, behind].flatten).Pairwise Apart := by
    unfold Apart
    decide
  refine ⟨⟨_, (queueAll_eq_ok_iff (by decide) (by simp)).mpr ⟨apart, rfl⟩⟩, ?_, _, overlap, ?_⟩
  · rw [taken]
    unfold Apart
    decide
  · exact (refusals [ends] inside [behind] rfl _ overlap).2.2

end Draft

end Mutant
