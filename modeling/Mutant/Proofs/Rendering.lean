import Mathlib.Algebra.Order.Ring.Int
import Mathlib.Data.List.Pairwise
import Mutant.Edit

/-!
Rendering a queue of edits. The one pass over the sorted queue gives what splicing the edits in from
the right gives, so the result depends only on which edits are queued and on the order of the
insertions at each offset.
-/

namespace Mutant

namespace Edit

def Fits (source : Bytes) (edit : Edit) : Prop :=
  edit.start ≤ edit.stop ∧ edit.stop ≤ source.length

def LeftToRight (edits : List Edit) : Prop :=
  edits.Pairwise fun first second => first.stop ≤ second.start

def Apart (first second : Edit) : Prop :=
  first.stop ≤ second.start ∨ second.stop ≤ first.start

instance : Std.Symm Apart := ⟨fun _ _ => Or.symm⟩

def insertsAt (offset : Nat) (edit : Edit) : Bool :=
  edit.start == offset && edit.stop == offset

/-- The same edits in another order, but for the insertions at one and the same offset. -/
def Reorders (other edits : List Edit) : Prop :=
  other.Perm edits ∧
    ∀ offset, other.filter (insertsAt offset) = edits.filter (insertsAt offset)

def splice (edit : Edit) (text : Bytes) : Bytes :=
  text.take edit.start ++ edit.replacement ++ text.drop edit.stop

/-- Splices the edits in one at a time, the last one first. -/
def spliceFromRight (source : Bytes) (edits : List Edit) : Bytes :=
  edits.foldr splice source

def growth (edit : Edit) : Int :=
  edit.replacement.length - (edit.stop - edit.start)

def added (edits : List Edit) : Nat :=
  (edits.map fun edit => edit.replacement.length).sum

def removed (edits : List Edit) : Nat :=
  (edits.map fun edit => edit.stop - edit.start).sum

@[simp] theorem spliceFromRight_cons (source : Bytes) (edit : Edit) (rest : List Edit) :
    spliceFromRight source (edit :: rest) = splice edit (spliceFromRight source rest) :=
  rfl

theorem precedes_iff (first second : Edit) :
    precedes first second = true ↔
      first.start < second.start ∨ first.start = second.start ∧ first.stop ≤ second.stop := by
  simp [precedes]

theorem precedes_trans (first second third : Edit) (left : precedes first second = true)
    (right : precedes second third = true) : precedes first third = true := by
  rw [precedes_iff] at left right ⊢
  omega

theorem precedes_total (first second : Edit) :
    (precedes first second || precedes second first) = true := by
  rw [Bool.or_eq_true, precedes_iff, precedes_iff]
  omega

theorem sort_perm (edits : List Edit) : (sort edits).Perm edits :=
  List.mergeSort_perm edits precedes

@[simp] theorem mem_sort {edit : Edit} {edits : List Edit} : edit ∈ sort edits ↔ edit ∈ edits :=
  (sort_perm edits).mem_iff

theorem sort_pairwise (edits : List Edit) :
    (sort edits).Pairwise fun first second => precedes first second = true :=
  List.pairwise_mergeSort precedes_trans precedes_total edits

theorem sort_filter_insertsAt (offset : Nat) (edits : List Edit) :
    (sort edits).filter (insertsAt offset) = edits.filter (insertsAt offset) := by
  have tied : (edits.filter (insertsAt offset)).Pairwise
      fun first second => precedes first second = true := by
    apply List.pairwise_of_forall_mem_list
    intro first firstIn second secondIn
    simp only [List.mem_filter, insertsAt, Bool.and_eq_true, beq_iff_eq] at firstIn secondIn
    rw [precedes_iff]
    omega
  have kept := List.sublist_mergeSort precedes_trans precedes_total tied List.filter_sublist
  have filtered := kept.filter (insertsAt offset)
  simp only [List.filter_filter, Bool.and_self] at filtered
  exact (filtered.eq_of_length ((sort_perm edits).filter _).length_eq.symm).symm

theorem sort_reorders (edits : List Edit) : Reorders (sort edits) edits :=
  ⟨sort_perm edits, fun offset => sort_filter_insertsAt offset edits⟩

theorem Reorders.trans {first second third : List Edit} (left : Reorders first second)
    (right : Reorders second third) : Reorders first third :=
  ⟨left.1.trans right.1, fun offset => (left.2 offset).trans (right.2 offset)⟩

theorem Reorders.symm {first second : List Edit} (reorders : Reorders first second) :
    Reorders second first :=
  ⟨reorders.1.symm, fun offset => (reorders.2 offset).symm⟩

/-- Two edits that each stop before the other starts insert at one offset. The order of those is
given, so there is only one arrangement from left to right. -/
theorem eq_of_leftToRight {first second : List Edit} (reorders : Reorders first second)
    (forward : ∀ edit ∈ second, edit.start ≤ edit.stop) (firstOrdered : LeftToRight first)
    (secondOrdered : LeftToRight second) : first = second := by
  induction first generalizing second with
  | nil => exact reorders.1.nil_eq
  | cons head tail ih =>
    cases second with
    | nil => exact absurd reorders.1.symm.nil_eq (by simp)
    | cons other rest =>
      obtain ⟨perm, insertions⟩ := reorders
      rw [LeftToRight, List.pairwise_cons] at firstOrdered secondOrdered
      have heads : head = other := by
        by_contra different
        -- Each of the two comes later in the other list, so both insert at one offset.
        have headLater : head ∈ rest :=
          (List.mem_cons.mp (perm.subset List.mem_cons_self)).resolve_left different
        have otherLater : other ∈ tail :=
          (List.mem_cons.mp (perm.symm.subset List.mem_cons_self)).resolve_left
            (Ne.symm different)
        have after := firstOrdered.1 other otherLater
        have before := secondOrdered.1 head headLater
        have headForward := forward head (List.mem_cons_of_mem _ headLater)
        have otherForward := forward other List.mem_cons_self
        have headHere : insertsAt head.start head = true := by
          simp only [insertsAt, BEq.rfl, Bool.true_and, beq_iff_eq]
          omega
        have otherHere : insertsAt head.start other = true := by
          simp only [insertsAt, Bool.and_eq_true, beq_iff_eq]
          omega
        have firsts := insertions head.start
        rw [List.filter_cons_of_pos headHere, List.filter_cons_of_pos otherHere] at firsts
        exact different (List.cons.inj firsts).1
      subst heads
      have tails : Reorders tail rest := by
        refine ⟨perm.cons_inv, fun offset => ?_⟩
        have same := insertions offset
        simp only [List.filter_cons] at same
        split at same
        · exact (List.cons.inj same).2
        · exact same
      rw [ih tails (fun edit member => forward edit (List.mem_cons_of_mem _ member))
        firstOrdered.2 secondOrdered.2]

/-- Of two edits that do not overlap, the one that comes first in the sorted queue stops before the
other starts. -/
theorem leftToRight_sort {edits : List Edit}
    (forward : ∀ edit ∈ edits, edit.start ≤ edit.stop)
    (apart : edits.Pairwise Apart) : LeftToRight (sort edits) := by
  have sortedApart := (sort_perm edits).symm.pairwise apart Or.symm
  refine (sortedApart.and (sort_pairwise edits)).imp_of_mem ?_
  rintro first second firstIn secondIn ⟨disjoint, ordered⟩
  have firstForward := forward first (mem_sort.mp firstIn)
  have secondForward := forward second (mem_sort.mp secondIn)
  rw [precedes_iff] at ordered
  rw [Apart] at disjoint
  omega

theorem LeftToRight.apart {edits : List Edit} (ordered : LeftToRight edits) :
    edits.Pairwise Apart :=
  ordered.imp Or.inl

theorem sort_eq_self {edits : List Edit} (forward : ∀ edit ∈ edits, edit.start ≤ edit.stop)
    (ordered : LeftToRight edits) : sort edits = edits :=
  eq_of_leftToRight (sort_reorders edits) forward (leftToRight_sort forward ordered.apart) ordered

theorem take_spliceFromRight {source : Bytes} {edits : List Edit} {limit : Nat}
    (within : limit ≤ source.length) (ahead : ∀ edit ∈ edits, limit ≤ edit.start) :
    (spliceFromRight source edits).take limit = source.take limit := by
  induction edits with
  | nil => rfl
  | cons edit rest ih =>
    have restKept := ih fun other member => ahead other (List.mem_cons_of_mem _ member)
    have here := ahead edit List.mem_cons_self
    have long : limit ≤ (spliceFromRight source rest).length := by
      have lengths := congrArg List.length restKept
      simp only [List.length_take] at lengths
      omega
    rw [spliceFromRight_cons, splice, List.append_assoc,
      List.take_append_of_le_length (by rw [List.length_take]; omega), List.take_take,
      Nat.min_eq_left here, restKept]

theorem Reorders.added_eq {other edits : List Edit} (reorders : Reorders other edits) :
    added other = added edits :=
  (reorders.1.map _).sum_nat

theorem Reorders.removed_eq {other edits : List Edit} (reorders : Reorders other edits) :
    removed other = removed edits :=
  (reorders.1.map _).sum_nat

theorem sum_growth {edits : List Edit} (forward : ∀ edit ∈ edits, edit.start ≤ edit.stop) :
    (edits.map growth).sum = (added edits : Int) - removed edits := by
  induction edits with
  | nil => rfl
  | cons edit rest ih =>
    have restSum := ih fun other member => forward other (List.mem_cons_of_mem _ member)
    have here := forward edit List.mem_cons_self
    simp only [added, removed] at restSum
    simp only [List.map_cons, List.sum_cons, restSum, growth, added, removed]
    omega

end Edit

namespace Overlap

open Edit

theorem firstIn_eq_none_iff {edits : List Edit}
    (forward : ∀ edit ∈ edits, edit.start ≤ edit.stop) :
    firstIn edits = none ↔ LeftToRight edits := by
  fun_induction firstIn edits with
  | case1 first second rest inside =>
    simp only [reduceCtorEq, false_iff, LeftToRight, List.pairwise_cons]
    intro ordered
    have apart := ordered.1 second List.mem_cons_self
    omega
  | case2 first second rest apart ih =>
    rw [ih fun edit member => forward edit (List.mem_cons_of_mem _ member)]
    simp only [LeftToRight, List.pairwise_cons (a := first)]
    refine ⟨fun ordered => ⟨fun edit member => ?_, ordered⟩, And.right⟩
    -- What starts after `second` starts after `first`, which stops before `second` starts.
    have secondForward := forward second (by simp)
    rcases List.mem_cons.mp member with rfl | later
    · omega
    · have := (List.pairwise_cons.mp ordered).1 edit later
      omega
  | case3 edits short =>
    match edits, short with
    | [], _ => simp [LeftToRight]
    | [_], _ => simp [LeftToRight]
    | first :: second :: rest, short => exact absurd rfl (short first second rest)

end Overlap

namespace Draft

open Edit

theorem queue_eq_ok_iff {base draft : Draft} {batch : List Edit}
    (forward : ∀ edit ∈ base.edits ++ batch, edit.start ≤ edit.stop) :
    base.queue batch = .ok draft ↔
      LeftToRight (sort (base.edits ++ batch)) ∧ draft = ⟨base.source, base.edits ++ batch⟩ := by
  have accepted : Overlap.firstIn (sort (base.edits ++ batch)) = none ↔
      LeftToRight (sort (base.edits ++ batch)) :=
    Overlap.firstIn_eq_none_iff fun edit member => forward edit (mem_sort.mp member)
  unfold queue
  split
  next overlap found =>
    have refused : ¬LeftToRight (sort (base.edits ++ batch)) := by
      rw [← accepted, found]
      simp
    simp [refused]
  next found =>
    have ordered := accepted.mp found
    simp [ordered, eq_comm]

theorem queue_edits {base draft : Draft} {batch : List Edit}
    (accepted : base.queue batch = .ok draft) :
    draft = ⟨base.source, base.edits ++ batch⟩ := by
  unfold queue at accepted
  split at accepted
  · exact absurd accepted (by simp)
  · exact (Except.ok.inj accepted).symm

theorem queue_of_leftToRight {source : Bytes} {edits : List Edit}
    (forward : ∀ edit ∈ edits, edit.start ≤ edit.stop) (ordered : LeftToRight edits) :
    queue ⟨source, []⟩ edits = .ok ⟨source, edits⟩ ∧
      render ⟨source, edits⟩ = renderFrom source 0 edits := by
  have sorted := sort_eq_self forward ordered
  constructor
  · apply (queue_eq_ok_iff (by simpa using forward)).mpr
    rw [List.nil_append, sorted]
    exact ⟨ordered, rfl⟩
  · rw [render, sorted]

/-- From any offset that no edit lies before, the pass copies what splicing from the right leaves
there. -/
theorem renderFrom_eq_drop {source : Bytes} {edits : List Edit} {cursor : Nat}
    (ordered : LeftToRight edits) (fits : ∀ edit ∈ edits, edit.Fits source)
    (ahead : ∀ edit ∈ edits, cursor ≤ edit.start) :
    renderFrom source cursor edits = (spliceFromRight source edits).drop cursor := by
  induction edits generalizing cursor with
  | nil => rfl
  | cons edit rest ih =>
    obtain ⟨after, restOrdered⟩ := List.pairwise_cons.mp ordered
    obtain ⟨forward, within⟩ := fits edit List.mem_cons_self
    have here := ahead edit List.mem_cons_self
    have restEq := ih restOrdered (fun other member => fits other (List.mem_cons_of_mem _ member))
      after
    have kept : (spliceFromRight source rest).take edit.start = source.take edit.start :=
      take_spliceFromRight (by omega) fun other member => by
        have := after other member
        omega
    rw [renderFrom, restEq, spliceFromRight_cons, splice, kept, Bytes.slice, List.append_assoc,
      List.append_assoc, List.drop_append_of_le_length (by rw [List.length_take]; omega)]

theorem length_renderFrom {source : Bytes} {edits : List Edit} {cursor : Nat}
    (ordered : LeftToRight edits) (fits : ∀ edit ∈ edits, edit.Fits source)
    (ahead : ∀ edit ∈ edits, cursor ≤ edit.start) (within : cursor ≤ source.length) :
    (renderFrom source cursor edits).length + cursor + removed edits =
      source.length + added edits := by
  induction edits generalizing cursor with
  | nil =>
    simp only [renderFrom, List.length_drop, removed, added, List.map_nil, List.sum_nil]
    omega
  | cons edit rest ih =>
    obtain ⟨after, restOrdered⟩ := List.pairwise_cons.mp ordered
    obtain ⟨forward, inside⟩ := fits edit List.mem_cons_self
    have here := ahead edit List.mem_cons_self
    have restLength := ih restOrdered
      (fun other member => fits other (List.mem_cons_of_mem _ member)) after inside
    simp only [removed, added] at restLength
    simp only [renderFrom, Bytes.slice, List.length_append, List.length_drop, List.length_take,
      removed, added, List.map_cons, List.sum_cons]
    omega

/-- A queue that was taken renders to what splicing its edits in from the right gives, in the one
arrangement of the edits from left to right. Hence the length, and that the order of the queue
matters only among insertions at one offset. -/
theorem render_eq_spliceFromRight {base draft : Draft} {batch : List Edit}
    (accepted : base.queue batch = .ok draft)
    (fits : ∀ edit ∈ draft.edits, edit.Fits draft.source) :
    (∃ ordered, Reorders ordered draft.edits ∧ LeftToRight ordered) ∧
    (∀ ordered, Reorders ordered draft.edits → LeftToRight ordered →
      draft.render = spliceFromRight draft.source ordered) ∧
    (draft.render.length : Int) = draft.source.length + (draft.edits.map growth).sum ∧
    ∀ other, Reorders other draft.edits →
      Draft.queue ⟨draft.source, []⟩ other = .ok ⟨draft.source, other⟩ ∧
        Draft.render ⟨draft.source, other⟩ = draft.render := by
  have edits_eq := queue_edits accepted
  have forward : ∀ edit ∈ draft.edits, edit.start ≤ edit.stop :=
    fun edit member => (fits edit member).1
  have ordered : LeftToRight (sort draft.edits) := by
    rw [edits_eq] at forward ⊢
    exact ((queue_eq_ok_iff forward).mp accepted).1
  have sortFits : ∀ edit ∈ sort draft.edits, edit.Fits draft.source :=
    fun edit member => fits edit (mem_sort.mp member)
  refine ⟨⟨sort draft.edits, sort_reorders _, ordered⟩, ?_, ?_, ?_⟩
  · intro arrangement reorders arranged
    have unique : sort draft.edits = arrangement :=
      eq_of_leftToRight ((sort_reorders _).trans reorders.symm)
        (fun edit member => forward edit (reorders.1.subset member)) ordered arranged
    rw [render, renderFrom_eq_drop ordered sortFits (fun _ _ => Nat.zero_le _), unique,
      List.drop_zero]
  · have length := length_renderFrom ordered sortFits (fun _ _ => Nat.zero_le _) (Nat.zero_le _)
    rw [(sort_reorders _).added_eq, (sort_reorders _).removed_eq] at length
    rw [sum_growth forward, render]
    omega
  · intro other reorders
    have otherForward : ∀ edit ∈ other, edit.start ≤ edit.stop :=
      fun edit member => forward edit (reorders.1.subset member)
    have apart : other.Pairwise Apart :=
      ((sort_perm _).trans reorders.1.symm).pairwise ordered.apart Or.symm
    have otherOrdered := leftToRight_sort otherForward apart
    have sorts : sort other = sort draft.edits :=
      eq_of_leftToRight
        (((sort_reorders _).trans reorders).trans (sort_reorders _).symm)
        (fun edit member => forward edit (mem_sort.mp member)) otherOrdered ordered
    refine ⟨(queue_eq_ok_iff otherForward).mpr ⟨otherOrdered, rfl⟩, ?_⟩
    rw [render, render, sorts]

def crowded : Draft :=
  ⟨[97, 98, 99, 100, 101, 102],
    [⟨2, 4, [88]⟩, ⟨2, 2, [49]⟩, ⟨5, 6, []⟩, ⟨4, 4, [51]⟩, ⟨2, 2, [50]⟩]⟩

theorem crowded_render :
    Draft.queue ⟨crowded.source, []⟩ crowded.edits = .ok crowded ∧
      (∀ edit ∈ crowded.edits, edit.Fits crowded.source) ∧
      crowded.render = [97, 98, 49, 50, 88, 51, 101] ∧ (crowded.render.length : Int) = 6 + 1 := by
  have fits : ∀ edit ∈ crowded.edits, edit.Fits crowded.source := by
    unfold Edit.Fits
    decide
  have accepted : Draft.queue ⟨crowded.source, []⟩ crowded.edits = .ok crowded :=
    (queue_eq_ok_iff fun edit member => (fits edit member).1).mpr
      ⟨leftToRight_sort (by decide) (by unfold Apart; decide), rfl⟩
  obtain ⟨-, spliced, length, -⟩ := render_eq_spliceFromRight accepted fits
  have arranged : Reorders [⟨2, 2, [49]⟩, ⟨2, 2, [50]⟩, ⟨2, 4, [88]⟩, ⟨4, 4, [51]⟩, ⟨5, 6, []⟩]
      crowded.edits := by
    refine ⟨by decide, fun offset => ?_⟩
    by_cases first : 2 = offset
    · subst first
      rfl
    · by_cases second : 4 = offset
      · subst second
        rfl
      · simp [crowded, insertsAt, List.filter_cons, first, second]
  refine ⟨accepted, fits, spliced _ arranged (by unfold LeftToRight; decide), length⟩

end Draft

end Mutant
