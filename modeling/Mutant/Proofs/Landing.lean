import Mutant.Proofs.Rendering

/-!
Where the offsets of a source lie in the rendered text. An offset that no edit covers moves by what
the edits before it add and take away; the text between two such offsets is the rendering of the
edits between them.
-/

namespace Mutant

namespace Bytes

theorem slice_append_drop (source : Bytes) {start stop : Nat} (forward : start ≤ stop) :
    source.slice start stop ++ source.drop stop = source.drop start := by
  have rest : source.drop stop = (source.drop start).drop (stop - start) := by
    rw [List.drop_drop, Nat.add_sub_cancel' forward]
  rw [slice, List.drop_take, rest, List.take_append_drop]

theorem slice_append_slice (source : Bytes) {start middle stop : Nat} (left : start ≤ middle)
    (right : middle ≤ stop) :
    source.slice start middle ++ source.slice middle stop = source.slice start stop := by
  have shorter : source.take middle = (source.take stop).take middle := by
    rw [List.take_take, Nat.min_eq_left right]
  rw [slice, slice, slice, shorter]
  exact slice_append_drop (source.take stop) left

theorem slice_take (source : Bytes) {start stop limit : Nat} (within : stop ≤ limit) :
    Bytes.slice (source.take limit) start stop = source.slice start stop := by
  rw [slice, slice, List.take_take, Nat.min_eq_left within]

end Bytes

namespace Edit

def before (edits : List Edit) (offset : Nat) : List Edit :=
  edits.filter fun edit => edit.stop ≤ offset

def behind (edits : List Edit) (offset : Nat) : List Edit :=
  edits.filter fun edit => offset < edit.stop

/-- Where an offset of the source lies in the rendered text. -/
def landing (edits : List Edit) (offset : Nat) : Nat :=
  offset + added (before edits offset) - removed (before edits offset)

def Clear (edits : List Edit) (offset : Nat) : Prop :=
  ∀ edit ∈ edits, edit.stop ≤ offset ∨ offset ≤ edit.start

theorem before_append_behind {edits : List Edit} (ordered : LeftToRight edits)
    (forward : ∀ edit ∈ edits, edit.start ≤ edit.stop) (offset : Nat) :
    before edits offset ++ behind edits offset = edits := by
  induction edits with
  | nil => rfl
  | cons edit rest ih =>
    obtain ⟨after, restOrdered⟩ := List.pairwise_cons.mp ordered
    have restEq := ih restOrdered fun other member => forward other (List.mem_cons_of_mem _ member)
    simp only [before, behind] at restEq ⊢
    by_cases early : edit.stop ≤ offset
    · rw [List.filter_cons_of_pos (by simpa using early),
        List.filter_cons_of_neg (by simpa using early), List.cons_append, restEq]
    · have late : ∀ other ∈ rest, offset < other.stop := by
        intro other member
        have start := after other member
        have stop := forward other (List.mem_cons_of_mem _ member)
        omega
      rw [List.filter_cons_of_neg (by simpa using early),
        List.filter_cons_of_pos (by simpa using early),
        List.filter_eq_nil_iff.mpr (by simpa using late),
        List.filter_eq_self.mpr (by simpa using late), List.nil_append]

theorem before_before (edits : List Edit) {start stop : Nat} (forward : start ≤ stop) :
    before (before edits stop) start = before edits start := by
  simp only [before, List.filter_filter]
  apply List.filter_congr
  intro edit _
  simp only [← Bool.decide_and, decide_eq_decide]
  omega

theorem landing_perm {first second : List Edit} (perm : first.Perm second) (offset : Nat) :
    landing first offset = landing second offset := by
  have kept := perm.filter fun edit => decide (edit.stop ≤ offset)
  rw [landing, landing, before, before, added, added, removed, removed, (kept.map _).sum_nat,
    (kept.map _).sum_nat]

theorem renderFrom_append {source : Bytes} {first second : List Edit} {cursor offset : Nat}
    (ordered : LeftToRight first) (forward : ∀ edit ∈ first, edit.start ≤ edit.stop)
    (early : ∀ edit ∈ first, edit.stop ≤ offset) (late : ∀ edit ∈ second, offset ≤ edit.start)
    (ahead : cursor ≤ offset) :
    Draft.renderFrom source cursor (first ++ second) =
      Draft.renderFrom (source.take offset) cursor first ++
        Draft.renderFrom source offset second := by
  induction first generalizing cursor with
  | nil =>
    cases second with
    | nil => exact (Bytes.slice_append_drop source ahead).symm
    | cons edit rest =>
      have parts := source.slice_append_slice ahead (late edit List.mem_cons_self)
      simp only [List.nil_append, Draft.renderFrom, ← parts, List.append_assoc]
      rfl
  | cons edit rest ih =>
    obtain ⟨_, restOrdered⟩ := List.pairwise_cons.mp ordered
    have here := forward edit List.mem_cons_self
    have stop := early edit List.mem_cons_self
    have restEq := ih restOrdered
      (fun other member => forward other (List.mem_cons_of_mem _ member))
      (fun other member => early other (List.mem_cons_of_mem _ member)) stop
    simp only [List.cons_append, Draft.renderFrom, restEq, List.append_assoc,
      source.slice_take (by omega : edit.start ≤ offset)]

section Rendered

variable {source : Bytes} {edits : List Edit} (ordered : LeftToRight edits)
  (fits : ∀ edit ∈ edits, edit.Fits source)

include ordered fits

theorem length_renderFrom_before {offset : Nat} (within : offset ≤ source.length) :
    (Draft.renderFrom (source.take offset) 0 (before edits offset)).length =
      landing edits offset := by
  have length : (source.take offset).length = offset := by
    rw [List.length_take]
    omega
  have rendered : (Draft.renderFrom (source.take offset) 0 (before edits offset)).length + 0 +
      removed (before edits offset) = (source.take offset).length + added (before edits offset) := by
    apply Draft.length_renderFrom (ordered.filter _)
    · intro edit member
      obtain ⟨queued, early⟩ := List.mem_filter.mp member
      exact ⟨(fits edit queued).1, by rw [length]; simpa using early⟩
    · exact fun _ _ => Nat.zero_le _
    · exact Nat.zero_le _
  rw [landing]
  omega

theorem renderFrom_eq_before_append {offset : Nat} (clear : Clear edits offset) :
    Draft.renderFrom source 0 edits =
      Draft.renderFrom (source.take offset) 0 (before edits offset) ++
        Draft.renderFrom source offset (behind edits offset) := by
  have forward : ∀ edit ∈ edits, edit.start ≤ edit.stop := fun edit member => (fits edit member).1
  have divided : Draft.renderFrom source 0 edits =
      Draft.renderFrom source 0 (before edits offset ++ behind edits offset) := by
    rw [before_append_behind ordered forward]
  rw [divided]
  apply renderFrom_append (ordered.filter _)
  · exact fun edit member => forward edit (List.mem_filter.mp member).1
  · exact fun edit member => by simpa using (List.mem_filter.mp member).2
  · intro edit member
    obtain ⟨queued, late⟩ := List.mem_filter.mp member
    have := clear edit queued
    simp only [decide_eq_true_eq] at late
    omega
  · exact Nat.zero_le _

/-- What lies between the landings of two offsets is rendered from what lies between them. -/
theorem slice_landing {start stop : Nat} (forward : start ≤ stop) (within : stop ≤ source.length)
    (clearStart : Clear edits start) (clearStop : Clear edits stop) :
    Bytes.slice (Draft.renderFrom source 0 edits) (landing edits start) (landing edits stop) =
      Draft.renderFrom (source.take stop) start (behind (before edits stop) start) := by
  have earlyOrdered : LeftToRight (before edits stop) := ordered.filter _
  have earlyFits : ∀ edit ∈ before edits stop, edit.Fits (source.take stop) := by
    intro edit member
    obtain ⟨queued, early⟩ := List.mem_filter.mp member
    simp only [decide_eq_true_eq] at early
    refine ⟨(fits edit queued).1, ?_⟩
    rw [List.length_take]
    omega
  have earlyClear : Clear (before edits stop) start :=
    fun edit member => clearStart edit (List.mem_filter.mp member).1
  have startWithin : start ≤ (source.take stop).length := by
    rw [List.length_take]
    omega
  have startLength := length_renderFrom_before earlyOrdered earlyFits startWithin
  rw [landing, before_before edits forward, ← landing] at startLength
  calc Bytes.slice (Draft.renderFrom source 0 edits) (landing edits start) (landing edits stop)
      = (Draft.renderFrom (source.take stop) 0 (before edits stop)).drop (landing edits start) := by
        rw [Bytes.slice, renderFrom_eq_before_append ordered fits clearStop,
          ← length_renderFrom_before ordered fits within, List.take_left]
    _ = (Draft.renderFrom ((source.take stop).take start) 0 (before edits start) ++
          Draft.renderFrom (source.take stop) start (behind (before edits stop) start)).drop
            (landing edits start) := by
        rw [renderFrom_eq_before_append earlyOrdered earlyFits earlyClear,
          before_before edits forward]
    _ = Draft.renderFrom (source.take stop) start (behind (before edits stop) start) := by
        rw [← startLength, List.drop_left]

end Rendered

/-- Of edits that replace something, only one lies within its own range. -/
theorem behind_before_self {edits : List Edit} (ordered : LeftToRight edits)
    (proper : ∀ edit ∈ edits, edit.start < edit.stop) {edit : Edit} (queued : edit ∈ edits) :
    behind (before edits edit.stop) edit.start = [edit] := by
  obtain ⟨left, right, rfl⟩ := List.append_of_mem queued
  obtain ⟨-, rightOrdered, across⟩ := List.pairwise_append.mp ordered
  have leftOut : behind (before left edit.stop) edit.start = [] := by
    simp only [behind, before, List.filter_filter, List.filter_eq_nil_iff]
    intro other member
    have := across other member edit List.mem_cons_self
    simp
    omega
  have rightOut : behind (before right edit.stop) edit.start = [] := by
    simp only [behind, before, List.filter_filter, List.filter_eq_nil_iff]
    intro other member
    have := (List.pairwise_cons.mp rightOrdered).1 other member
    have := proper other (by simp [member])
    simp
    omega
  have here : edit.start < edit.stop := proper edit queued
  simp only [behind, before, List.filter_append] at leftOut rightOut ⊢
  simp [leftOut, rightOut, here]

theorem behind_before_eq_nil {edits : List Edit}
    (proper : ∀ edit ∈ edits, edit.start < edit.stop) {start stop : Nat}
    (untouched : ∀ edit ∈ edits, edit.stop ≤ start ∨ stop ≤ edit.start) :
    behind (before edits stop) start = [] := by
  simp only [behind, before, List.filter_filter, List.filter_eq_nil_iff]
  intro edit member
  have := untouched edit member
  have := proper edit member
  simp
  omega

end Edit

namespace Draft

open Edit

/-- The edits of the draft replace ranges of its source, each apart from the others, and none of
them by nothing. -/
structure Replaces (draft : Draft) : Prop where
  ordered : LeftToRight (sort draft.edits)
  fits : ∀ edit ∈ draft.edits, edit.Fits draft.source
  proper : ∀ edit ∈ draft.edits, edit.start < edit.stop
  filled : ∀ edit ∈ draft.edits, edit.replacement ≠ []

def landing (draft : Draft) (offset : Nat) : Nat :=
  Edit.landing draft.edits offset

def Clear (draft : Draft) (offset : Nat) : Prop :=
  Edit.Clear draft.edits offset

namespace Replaces

variable {draft : Draft} (replaces : draft.Replaces)

include replaces

theorem render_slice {start stop : Nat} (forward : start ≤ stop)
    (within : stop ≤ draft.source.length) (clearStart : draft.Clear start)
    (clearStop : draft.Clear stop) :
    draft.render.slice (draft.landing start) (draft.landing stop) =
      renderFrom (draft.source.take stop) start
        (behind (before (sort draft.edits) stop) start) := by
  rw [render, landing, landing, ← landing_perm (sort_perm draft.edits),
    ← landing_perm (sort_perm draft.edits)]
  apply slice_landing replaces.ordered _ forward within
  · exact fun edit member => clearStart edit (mem_sort.mp member)
  · exact fun edit member => clearStop edit (mem_sort.mp member)
  · exact fun edit member => replaces.fits edit (mem_sort.mp member)

theorem render_slice_untouched {start stop : Nat} (forward : start ≤ stop)
    (within : stop ≤ draft.source.length)
    (untouched : ∀ edit ∈ draft.edits, edit.stop ≤ start ∨ stop ≤ edit.start) :
    draft.render.slice (draft.landing start) (draft.landing stop) =
      draft.source.slice start stop := by
  have none : behind (before (sort draft.edits) stop) start = [] :=
    behind_before_eq_nil (fun edit member => replaces.proper edit (mem_sort.mp member))
      fun edit member => untouched edit (mem_sort.mp member)
  rw [replaces.render_slice forward within, none]
  · rfl
  · intro edit member
    have := untouched edit member
    omega
  · intro edit member
    have := untouched edit member
    omega

theorem apart {first second : Edit} (firstIn : first ∈ draft.edits)
    (secondIn : second ∈ draft.edits) :
    first = second ∨ first.Apart second := by
  by_cases same : first = second
  · exact Or.inl same
  · exact Or.inr (replaces.ordered.apart.forall (mem_sort.mpr firstIn) (mem_sort.mpr secondIn) same)

theorem clear_start {edit : Edit} (queued : edit ∈ draft.edits) : draft.Clear edit.start := by
  intro other member
  have := (replaces.fits other member).1
  have := (replaces.fits edit queued).1
  rcases replaces.apart queued member with rfl | apart | apart <;> omega

theorem clear_stop {edit : Edit} (queued : edit ∈ draft.edits) : draft.Clear edit.stop := by
  intro other member
  have := (replaces.fits other member).1
  have := (replaces.fits edit queued).1
  rcases replaces.apart queued member with rfl | apart | apart <;> omega

theorem render_slice_replaced {edit : Edit} (queued : edit ∈ draft.edits) :
    draft.render.slice (draft.landing edit.start) (draft.landing edit.stop) =
      edit.replacement := by
  obtain ⟨forward, within⟩ := replaces.fits edit queued
  have only : behind (before (sort draft.edits) edit.stop) edit.start = [edit] :=
    behind_before_self replaces.ordered
      (fun other member => replaces.proper other (mem_sort.mp member)) (mem_sort.mpr queued)
  rw [replaces.render_slice forward within (replaces.clear_start queued)
    (replaces.clear_stop queued), only]
  simp [renderFrom, Bytes.slice]

/-- Landing keeps the order of offsets apart: what lies between them does not vanish. -/
theorem landing_lt {start stop : Nat} (forward : start < stop)
    (within : stop ≤ draft.source.length) (clearStart : draft.Clear start)
    (clearStop : draft.Clear stop) : draft.landing start < draft.landing stop := by
  have between := replaces.render_slice (Nat.le_of_lt forward) within clearStart clearStop
  have nonempty : renderFrom (draft.source.take stop) start
      (behind (before (sort draft.edits) stop) start) ≠ [] := by
    cases found : behind (before (sort draft.edits) stop) start with
    | nil =>
      simp only [renderFrom, ne_eq, List.drop_eq_nil_iff, List.length_take]
      omega
    | cons edit rest =>
      have queued : edit ∈ draft.edits := by
        have member : edit ∈ behind (before (sort draft.edits) stop) start := by
          rw [found]
          exact List.mem_cons_self
        exact mem_sort.mp (List.mem_filter.mp (List.mem_filter.mp member).1).1
      simp [renderFrom, replaces.filled edit queued]
  by_contra behindStart
  rw [← between, Bytes.slice] at nonempty
  apply nonempty
  rw [List.drop_eq_nil_iff, List.length_take]
  omega

end Replaces

end Draft

end Mutant
