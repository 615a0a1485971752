import Mathlib.Data.List.Permutation
import Mutant.Proofs.Exchange
import Mutant.Proofs.Landing

/-!
Taking edits back. In the rendered text each replacement stands where the edit began, moved by what
the edits before it add and take away. Putting the replaced bytes back there, edit by edit, gives the
source.
-/

namespace Mutant

namespace Edit

/-- The edits that put back what the given ones replace, from left to right. What the edits before
them have added and taken away is carried along. -/
def undoFrom (source : Bytes) : Nat → Nat → List Edit → List Edit
  | _, _, [] => []
  | gained, lost, edit :: rest =>
      let start := edit.start + gained - lost
      ⟨start, start + edit.replacement.length, source.slice edit.start edit.stop⟩ ::
        undoFrom source (gained + edit.replacement.length) (lost + (edit.stop - edit.start)) rest

def undo (source : Bytes) (edits : List Edit) : List Edit :=
  undoFrom source 0 0 edits

/-- The edits that take others back are their counterparts: each stands where the new piece is
rendered, and puts the old piece there. -/
theorem exchange_undoFrom {source : Bytes} {edits : List Edit} {cursor gained lost : Nat}
    (ordered : LeftToRight edits) (fits : ∀ edit ∈ edits, edit.Fits source)
    (ahead : ∀ edit ∈ edits, cursor ≤ edit.start) (covered : lost ≤ cursor) :
    Exchange cursor (cursor + gained - lost) (source.drop cursor)
      (Draft.renderFrom source cursor edits) edits (undoFrom source gained lost edits) := by
  induction edits generalizing cursor gained lost with
  | nil => exact .kept (source.drop cursor)
  | cons first rest ih =>
    obtain ⟨after, restOrdered⟩ := List.pairwise_cons.mp ordered
    obtain ⟨forward, within⟩ := fits first List.mem_cons_self
    have here := ahead first List.mem_cons_self
    have later := @ih first.stop (gained + first.replacement.length)
      (lost + (first.stop - first.start)) restOrdered
      (fun other member => fits other (List.mem_cons_of_mem _ member)) after (by omega)
    obtain ⟨start, stop, replacement⟩ := first
    dsimp only at forward within here later
    have gap : (source.slice cursor start).length = start - cursor := by
      rw [Bytes.slice, List.length_drop, List.length_take]
      omega
    have old : (source.slice start stop).length = stop - start := by
      rw [Bytes.slice, List.length_drop, List.length_take]
      omega
    -- The offsets of the piece in the source, and in the rendered text.
    have begins : cursor + (source.slice cursor start).length = start := by omega
    have ends : start + (source.slice start stop).length = stop := by omega
    have lands : cursor + gained - lost + (source.slice cursor start).length =
        start + gained - lost := by omega
    have leaves : start + gained - lost + replacement.length =
        stop + (gained + replacement.length) - (lost + (stop - start)) := by omega
    have whole : source.slice cursor start ++ source.slice start stop ++ source.drop stop =
        source.drop cursor := by
      rw [Bytes.slice_append_slice source here forward, Bytes.slice_append_drop source (by omega)]
    rw [← leaves, ← lands] at later
    have behind : Exchange
        (cursor + (source.slice cursor start).length + (source.slice start stop).length)
        (cursor + gained - lost + (source.slice cursor start).length + replacement.length)
        (source.drop stop) (Draft.renderFrom source stop rest) rest
        (undoFrom source (gained + replacement.length) (lost + (stop - start)) rest) := by
      rw [begins, ends]
      exact later
    have exchange := Exchange.replaced (source.slice cursor start) (source.slice start stop)
      replacement behind
    rw [begins, ends, lands, whole] at exchange
    exact exchange

theorem before_start {left right : List Edit} {edit : Edit}
    (ordered : LeftToRight (left ++ edit :: right))
    (proper : ∀ other ∈ left ++ edit :: right, other.start < other.stop) :
    before (left ++ edit :: right) edit.start = left := by
  obtain ⟨-, rightOrdered, across⟩ := List.pairwise_append.mp ordered
  have early : before left edit.start = left :=
    List.filter_eq_self.mpr fun other member => by
      simpa using across other member edit List.mem_cons_self
  have late : before (edit :: right) edit.start = [] := by
    refine List.filter_eq_nil_iff.mpr fun other member => ?_
    have otherProper := proper other (List.mem_append_right _ member)
    rw [decide_eq_true_eq]
    rcases List.mem_cons.mp member with rfl | behind
    · omega
    · have := (List.pairwise_cons.mp rightOrdered).1 other behind
      have := proper edit (by simp)
      omega
  simp only [before] at early late ⊢
  rw [List.filter_append, early, late, List.append_nil]

/-- Where every edit replaces something, a replacement stands in the text from the landing of its start
on. -/
theorem slice_replacement {source : Bytes} {edits : List Edit} (ordered : LeftToRight edits)
    (fits : ∀ edit ∈ edits, edit.Fits source)
    (proper : ∀ edit ∈ edits, edit.start < edit.stop) {edit : Edit} (queued : edit ∈ edits) :
    Bytes.slice (Draft.renderFrom source 0 edits) (landing edits edit.start)
      (landing edits edit.start + edit.replacement.length) = edit.replacement := by
  obtain ⟨left, right, rfl⟩ := List.append_of_mem queued
  obtain ⟨leftOrdered, rightOrdered, across⟩ := List.pairwise_append.mp ordered
  obtain ⟨forward, within⟩ := fits edit queued
  have divided : Draft.renderFrom source 0 (left ++ edit :: right) =
      Draft.renderFrom (source.take edit.start) 0 left ++
        Draft.renderFrom source edit.start (edit :: right) := by
    apply renderFrom_append leftOrdered
    · exact fun other member => (fits other (List.mem_append_left _ member)).1
    · exact fun other member => across other member edit List.mem_cons_self
    · intro other member
      rcases List.mem_cons.mp member with rfl | behind
      · exact Nat.le_refl _
      · exact Nat.le_trans forward ((List.pairwise_cons.mp rightOrdered).1 other behind)
    · exact Nat.zero_le _
  have length : (Draft.renderFrom (source.take edit.start) 0 left).length =
      landing (left ++ edit :: right) edit.start := by
    have before := length_renderFrom_before ordered fits (Nat.le_trans forward within)
    rwa [before_start ordered proper] at before
  have here : source.slice edit.start edit.start = [] := by simp [Bytes.slice]
  rw [Bytes.slice, List.drop_take, Nat.add_sub_cancel_left, divided, ← length, List.drop_left,
    Draft.renderFrom, here, List.nil_append, List.take_left]

/-- Where every edit replaces something, the replacements stand where the edits began, as the offsets
land. -/
theorem undoFrom_eq_map {source : Bytes} {left right : List Edit}
    (ordered : LeftToRight (left ++ right))
    (proper : ∀ edit ∈ left ++ right, edit.start < edit.stop) :
    undoFrom source (added left) (removed left) right =
      right.map fun edit => ⟨landing (left ++ right) edit.start,
        landing (left ++ right) edit.start + edit.replacement.length,
        source.slice edit.start edit.stop⟩ := by
  induction right generalizing left with
  | nil => rfl
  | cons edit rest ih =>
    have regroup : left ++ edit :: rest = (left ++ [edit]) ++ rest := by simp
    have landed : landing (left ++ edit :: rest) edit.start =
        edit.start + added left - removed left := by
      rw [landing, before_start ordered proper]
    have gained : added (left ++ [edit]) = added left + edit.replacement.length := by
      simp [added]
    have lost : removed (left ++ [edit]) = removed left + (edit.stop - edit.start) := by
      simp [removed]
    have later := ih (regroup ▸ ordered) (regroup ▸ proper)
    rw [gained, lost, ← regroup] at later
    rw [undoFrom, later, List.map_cons, landed]

theorem undo_eq_map {source : Bytes} {edits : List Edit} (ordered : LeftToRight edits)
    (proper : ∀ edit ∈ edits, edit.start < edit.stop) :
    undo source edits = edits.map fun edit =>
      ⟨landing edits edit.start, landing edits edit.start + edit.replacement.length,
        source.slice edit.start edit.stop⟩ :=
  @undoFrom_eq_map source [] edits ordered proper

theorem reorders_of_perm {first second : List Edit} (perm : first.Perm second) {text : Bytes}
    (alike : ∀ edit ∈ second, edit.replacement = text) : Reorders first second := by
  refine ⟨perm, fun offset => ?_⟩
  have same : ∀ edits : List Edit, (∀ edit ∈ edits, edit.replacement = text) →
      edits.filter (insertsAt offset) =
        List.replicate (edits.filter (insertsAt offset)).length ⟨offset, offset, text⟩ := by
    intro edits texts
    refine List.eq_replicate_iff.mpr ⟨rfl, fun edit member => ?_⟩
    obtain ⟨editIn, here⟩ := List.mem_filter.mp member
    simp only [insertsAt, Bool.and_eq_true, beq_iff_eq] at here
    rw [← here.1, ← texts edit editIn]
    obtain ⟨start, stop, replacement⟩ := edit
    simp only at here
    rw [here.1, here.2]
  rw [same first fun edit member => alike edit (perm.subset member), same second alike,
    (perm.filter _).length_eq]

end Edit

namespace Draft

open Edit

/-- The source and the rendered text differ in the ranges of the edits and nowhere else. -/
theorem exchange_undo {draft : Draft} (ordered : LeftToRight (sort draft.edits))
    (fits : ∀ edit ∈ draft.edits, edit.Fits draft.source) :
    Exchange 0 0 draft.source draft.render (sort draft.edits)
      (undo draft.source (sort draft.edits)) :=
  @exchange_undoFrom _ _ 0 0 0 ordered (fun edit member => fits edit (mem_sort.mp member))
    (fun _ _ => Nat.zero_le _) (Nat.le_refl 0)

/-- What a queue of edits makes of a source can be taken back. The edits that do so put the replaced
bytes in the places of what is rendered for them; there is one such list, the rendered text takes it as
a queue, and then it renders to the source. -/
theorem undoing_restores {base draft : Draft} {batch : List Edit}
    (accepted : base.queue batch = .ok draft)
    (fits : ∀ edit ∈ draft.edits, edit.Fits draft.source) :
    let undoing := undo draft.source (sort draft.edits)
    Exchange 0 0 draft.source draft.render (sort draft.edits) undoing ∧
      (∀ other, Exchange 0 0 draft.source draft.render (sort draft.edits) other →
        other = undoing) ∧
      queue ⟨draft.render, []⟩ undoing = .ok ⟨draft.render, undoing⟩ ∧
      render ⟨draft.render, undoing⟩ = draft.source := by
  intro undoing
  have edits_eq := queue_edits accepted
  have forward : ∀ edit ∈ draft.edits, edit.start ≤ edit.stop :=
    fun edit member => (fits edit member).1
  have ordered : LeftToRight (sort draft.edits) := by
    rw [edits_eq] at forward ⊢
    exact ((queue_eq_ok_iff forward).mp accepted).1
  have exchange := exchange_undo ordered fits
  exact ⟨exchange, fun other same => same.eq_of_exchange exchange, exchange.symm.queue_eq_ok⟩

def shrinking : Draft :=
  ⟨[97, 98, 99, 100], [⟨2, 3, []⟩, ⟨3, 3, [120, 121]⟩, ⟨1, 2, []⟩]⟩

theorem shrinking_undoing :
    Draft.queue ⟨shrinking.source, []⟩ shrinking.edits = .ok shrinking ∧
      (∀ edit ∈ shrinking.edits, edit.Fits shrinking.source) ∧
      shrinking.render = [97, 120, 121, 100] ∧
      undo shrinking.source (sort shrinking.edits) =
        [⟨1, 1, [98]⟩, ⟨1, 1, [99]⟩, ⟨1, 3, []⟩] ∧
      render ⟨shrinking.render, undo shrinking.source (sort shrinking.edits)⟩ =
        [97, 98, 99, 100] := by
  have fits : ∀ edit ∈ shrinking.edits, edit.Fits shrinking.source := by
    unfold Edit.Fits
    decide
  have accepted : Draft.queue ⟨shrinking.source, []⟩ shrinking.edits = .ok shrinking := by cbv
  obtain ⟨-, -, -, restored⟩ := undoing_restores accepted fits
  exact ⟨accepted, fits, by cbv, by cbv, restored⟩

/-- The edits replace occurrences of one text in the source by another, each apart from the others.
The new text may be empty. -/
structure Substitutes (draft : Draft) (old new : Bytes) : Prop where
  apart : draft.edits.Pairwise Apart
  fits : ∀ edit ∈ draft.edits, edit.Fits draft.source
  proper : ∀ edit ∈ draft.edits, edit.start < edit.stop
  held : ∀ edit ∈ draft.edits, draft.source.slice edit.start edit.stop = old
  replaced : ∀ edit ∈ draft.edits, edit.replacement = new

namespace Substitutes

variable {draft : Draft} {old new : Bytes} (substitutes : draft.Substitutes old new)

def putBack (draft : Draft) (old new : Bytes) (edit : Edit) : Edit :=
  ⟨draft.landing edit.start, draft.landing edit.start + new.length, old⟩

include substitutes

theorem ordered : LeftToRight (sort draft.edits) :=
  leftToRight_sort (fun edit member => (substitutes.fits edit member).1) substitutes.apart

theorem queue_eq_ok : queue ⟨draft.source, []⟩ draft.edits = .ok draft :=
  (queue_eq_ok_iff fun edit member => (substitutes.fits edit member).1).mpr
    ⟨substitutes.ordered, rfl⟩

theorem render_slice {edit : Edit} (queued : edit ∈ draft.edits) :
    draft.render.slice (draft.landing edit.start) (draft.landing edit.start + new.length) =
      new := by
  have landed := slice_replacement substitutes.ordered
    (fun other member => substitutes.fits other (mem_sort.mp member))
    (fun other member => substitutes.proper other (mem_sort.mp member)) (mem_sort.mpr queued)
  rw [substitutes.replaced edit queued, landing_perm (sort_perm draft.edits)] at landed
  exact landed

theorem undo_eq_map_putBack :
    undo draft.source (sort draft.edits) = (sort draft.edits).map (putBack draft old new) := by
  rw [undo_eq_map substitutes.ordered fun edit member =>
    substitutes.proper edit (mem_sort.mp member)]
  refine List.map_congr_left fun edit member => ?_
  have queued := mem_sort.mp member
  rw [substitutes.held edit queued, substitutes.replaced edit queued,
    landing_perm (sort_perm draft.edits)]
  rfl

theorem undone :
    let undoing := draft.edits.map (putBack draft old new)
    queue ⟨draft.render, []⟩ undoing = .ok ⟨draft.render, undoing⟩ ∧
      render ⟨draft.render, undoing⟩ = draft.source := by
  intro undoing
  have taken := (exchange_undo substitutes.ordered substitutes.fits).symm
  have undoForward : ∀ edit ∈ undo draft.source (sort draft.edits), edit.start ≤ edit.stop :=
    fun edit member => (taken.within edit member).2.1
  have perm : undoing.Perm (undo draft.source (sort draft.edits)) := by
    rw [substitutes.undo_eq_map_putBack]
    exact ((sort_perm draft.edits).map _).symm
  have alike : ∀ edit ∈ undo draft.source (sort draft.edits), edit.replacement = old := by
    rw [substitutes.undo_eq_map_putBack]
    intro edit member
    obtain ⟨_, _, rfl⟩ := List.mem_map.mp member
    rfl
  have forward : ∀ edit ∈ undoing, edit.start ≤ edit.stop :=
    fun edit member => undoForward edit (perm.subset member)
  have undoingOrdered : LeftToRight (sort undoing) :=
    leftToRight_sort forward (perm.symm.pairwise taken.leftToRight.apart Or.symm)
  have sorted : sort undoing = undo draft.source (sort draft.edits) :=
    eq_of_leftToRight ((sort_reorders undoing).trans (reorders_of_perm perm alike))
      undoForward undoingOrdered taken.leftToRight
  have sortedAlready := sort_eq_self undoForward taken.leftToRight
  refine ⟨(queue_eq_ok_iff forward).mpr ⟨undoingOrdered, rfl⟩, ?_⟩
  calc render ⟨draft.render, undoing⟩
      = render ⟨draft.render, undo draft.source (sort draft.edits)⟩ :=
        congrArg (renderFrom draft.render 0) (sorted.trans sortedAlready.symm)
    _ = draft.source := taken.queue_eq_ok.2

end Substitutes

end Draft

end Mutant
