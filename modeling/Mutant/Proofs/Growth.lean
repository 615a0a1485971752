import Mutant.Mutation
import Mutant.Proofs.Rendering
import Mutant.Proofs.Usages

/-!
Every operator that reports a change makes the source longer. Rendering never loses more than the
ranges that the edits replace, wherever they lie, and together the replacements are longer than what
they replace. So a file that is reported as changed really is.
-/

namespace Mutant

namespace Edit

def covered (source : Bytes) (edits : List Edit) : Nat :=
  (edits.map fun edit => (source.slice edit.start edit.stop).length).sum

theorem covered_perm {first second : List Edit} (source : Bytes) (perm : first.Perm second) :
    covered source first = covered source second :=
  (perm.map _).sum_nat

theorem added_perm {first second : List Edit} (perm : first.Perm second) :
    added first = added second :=
  (perm.map _).sum_nat

theorem covered_lt_added {source : Bytes} {edits : List Edit} (nonempty : edits ≠ [])
    (longer : ∀ edit ∈ edits,
      (source.slice edit.start edit.stop).length < edit.replacement.length) :
    covered source edits < added edits := by
  induction edits with
  | nil => exact absurd rfl nonempty
  | cons edit rest ih =>
    have here := longer edit List.mem_cons_self
    have later : covered source rest ≤ added rest := by
      cases rest with
      | nil => exact Nat.le_refl _
      | cons next others =>
        exact Nat.le_of_lt (ih (by simp) fun other member => longer other (by simp [member]))
    simp only [covered, added, List.map_cons, List.sum_cons] at later ⊢
    omega

end Edit

namespace Draft

open Edit

/-- Going on from one offset to another passes over no more than what lies between them. -/
theorem min_le_length_slice (source : Bytes) (start stop : Nat) :
    min stop source.length ≤ (source.slice start stop).length + min start source.length := by
  simp only [Bytes.slice, List.length_drop, List.length_take]
  omega

theorem le_length_renderFrom (source : Bytes) (cursor : Nat) (edits : List Edit) :
    source.length + added edits ≤
      (renderFrom source cursor edits).length + min cursor source.length + covered source edits := by
  induction edits generalizing cursor with
  | nil =>
    simp only [added, covered, renderFrom, List.map_nil, List.sum_nil, List.length_drop]
    omega
  | cons edit rest ih =>
    have skipped := min_le_length_slice source cursor edit.start
    have replaced := min_le_length_slice source edit.start edit.stop
    have later := ih edit.stop
    simp only [added, covered] at later
    simp only [added, covered, renderFrom, List.map_cons, List.sum_cons, List.length_append]
    omega

theorem length_lt_length_render {draft : Draft}
    (longer : covered draft.source draft.edits < added draft.edits) :
    draft.source.length < draft.render.length := by
  -- Edits that overlap or leave the source only make the text longer, so nothing is assumed of them.
  have bound := le_length_renderFrom draft.source 0 (sort draft.edits)
  rw [covered_perm _ (sort_perm draft.edits), added_perm (sort_perm draft.edits)] at bound
  simp only [render]
  omega

end Draft

namespace Rename

open Candidate

theorem covered_plan_lt_added (file : SourceFile) (resolution : Bool) (scope name : Cursor)
    {marker : Bytes} (marked : marker ≠ []) :
    let edits := (plan file resolution scope name (file.text name ++ marker)).edits
    Edit.covered file.source edits < Edit.added edits := by
  intro edits
  have positive := List.length_pos_iff.mpr marked
  apply Edit.covered_lt_added
  · simp [edits, plan]
  · intro edit member
    rcases List.mem_cons.mp member with rfl | later
    · change (file.text name).length < (file.text name ++ marker).length
      rw [List.length_append]
      omega
    · obtain ⟨usage, used, rfl⟩ := List.mem_map.mp later
      change (file.text usage).length < (file.text name ++ marker).length
      rw [text_of_mem_usages used, ofName_name, List.length_append]
      omega

end Rename

namespace Conditional

theorem length_negated (expression : Bytes) :
    (negated expression).length = expression.length + 3 := by
  have opening : (Utf8.ofString "!(").length = 2 := by decide
  have closing : (Utf8.ofString ")").length = 1 := by decide
  simp only [negated, List.length_append, opening, closing]
  omega

theorem length_le_length_braced (file : SourceFile) (statement : Cursor) :
    (file.text statement).length ≤ (braced file statement).length := by
  unfold braced
  split
  · exact Nat.le_refl _
  · simp only [inBraces, List.length_append]
    omega

theorem covered_doubleNegate_lt_added {file : SourceFile} {statement : Cursor} {edits : List Edit}
    (found : doubleNegate file statement = some edits) :
    Edit.covered file.source edits < Edit.added edits := by
  obtain ⟨expression, _, rfl⟩ := Option.map_eq_some_iff.mp found
  apply Edit.covered_lt_added
  · simp
  · intro edit member
    obtain rfl := List.mem_singleton.mp member
    change (file.text expression).length < (negated (negated (file.text expression))).length
    rw [length_negated, length_negated]
    omega

theorem covered_swapBranches_le_added (file : SourceFile) (consequence : Cursor)
    (alternative : Option Cursor) :
    Edit.covered file.source (swapBranches file consequence alternative) ≤
      Edit.added (swapBranches file consequence alternative) := by
  cases alternative with
  | none =>
    change (file.text consequence).length + 0 ≤
      (Utf8.ofString "\x7b \x7d else " ++ file.text consequence).length + 0
    rw [List.length_append]
    omega
  | some alternative =>
    have room := length_le_length_braced file alternative
    change (file.text consequence).length + ((file.text alternative).length + 0) ≤
      (braced file alternative).length + ((file.text consequence).length + 0)
    omega

theorem covered_flip_lt_added {file : SourceFile} {statement : Cursor} {edits : List Edit}
    (found : flip file statement = some edits) :
    Edit.covered file.source edits < Edit.added edits := by
  unfold flip at found
  split at found
  next expression consequence _ _ =>
    rw [Option.some_inj] at found
    subst found
    have branches := covered_swapBranches_le_added file consequence (statement.childAt .alternative)
    simp only [Edit.covered, Edit.added] at branches
    simp only [Edit.covered, Edit.added, List.map_cons, List.sum_cons]
    have negation := length_negated (file.text expression)
    change (file.text expression).length + _ < (negated (file.text expression)).length + _
    omega
  next => exact absurd found (by simp)

end Conditional

namespace Operator

theorem queued_eq_ok {file : SourceFile} {edits : List Edit} {record mutation : Mutation}
    {draft : Draft} (accepted : queued file edits record = .ok (draft, mutation)) :
    draft = ⟨file.source, edits⟩ ∧ mutation = record := by
  unfold queued at accepted
  split at accepted
  · exact absurd accepted (by simp)
  next queue taken =>
    simp only [Except.ok.injEq, Prod.mk.injEq] at accepted
    obtain ⟨rfl, rfl⟩ := accepted
    exact ⟨Draft.queue_edits taken, rfl⟩

theorem not_changed_of_untouched {operator : Operator} {file : SourceFile} {draft : Draft}
    {mutation : Mutation} (same : operator.untouched file = .ok (draft, mutation)) :
    mutation.changed = false := by
  simp only [untouched, Except.ok.injEq, Prod.mk.injEq] at same
  rw [← same.2]
  rfl

/-- The edits of a draft replace parts of the file by something longer. -/
def Lengthens (file : SourceFile) (draft : Draft) : Prop :=
  draft.source = file.source ∧ Edit.covered draft.source draft.edits < Edit.added draft.edits

theorem lengthens_of_queued {file : SourceFile} {edits : List Edit} {record mutation : Mutation}
    {draft : Draft} (longer : Edit.covered file.source edits < Edit.added edits)
    (accepted : queued file edits record = .ok (draft, mutation)) : Lengthens file draft := by
  obtain ⟨rfl, _⟩ := queued_eq_ok accepted
  exact ⟨rfl, longer⟩

theorem lengthens_of_applyRename {operator : Operator} {family : Family} {settings : Settings}
    {policy : Policy} {file : SourceFile} {draft : Draft} {mutation : Mutation}
    (marked : settings.marker ≠ [])
    (applied : operator.applyRename family settings policy file = .ok (draft, mutation))
    (changed : mutation.changed = true) : Lengthens file draft := by
  unfold applyRename at applied
  split at applied
  next scope _ name _ =>
    exact lengthens_of_queued
      (Rename.covered_plan_lt_added file settings.resolution scope name marked) applied
  next =>
    rw [not_changed_of_untouched applied] at changed
    exact absurd changed (by decide)

theorem ofString_append (first second : String) :
    Utf8.ofString (first ++ second) = Utf8.ofString first ++ Utf8.ofString second := by
  simp [Utf8.ofString, Utf8.encode]

theorem length_lineEnding_pos (source : Bytes) : 0 < (Utf8.ofString (lineEnding source)).length := by
  unfold lineEnding
  split <;> decide

theorem lengthens_of_applyComment {operator : Operator} {settings : Settings} {now : Timestamp}
    {file : SourceFile} {draft : Draft} {mutation : Mutation}
    (applied : operator.applyComment settings now file = .ok (draft, mutation)) :
    Lengthens file draft := by
  unfold applyComment at applied
  split at applied
  · exact absurd applied (by simp)
  next comment _ =>
    refine lengthens_of_queued (Edit.covered_lt_added (by simp) fun edit member => ?_) applied
    obtain rfl := List.mem_singleton.mp member
    have ending := length_lineEnding_pos file.source
    have nothing : (file.source.slice 0 0).length = 0 := rfl
    simp only [Edit.insert, nothing, ofString_append, List.length_append]
    omega

theorem lengthens_of_applyConditional {operator : Operator} {newName : String}
    {editsOf : SourceFile → Cursor → Option (List Edit)} {policy : Policy} {file : SourceFile}
    {draft : Draft} {mutation : Mutation}
    (longer : ∀ statement edits, editsOf file statement = some edits →
      Edit.covered file.source edits < Edit.added edits)
    (applied : operator.applyConditional newName editsOf policy file = .ok (draft, mutation))
    (changed : mutation.changed = true) : Lengthens file draft := by
  unfold applyConditional at applied
  split at applied
  next =>
    rw [not_changed_of_untouched applied] at changed
    exact absurd changed (by decide)
  next candidate _ =>
    split at applied
    · exact absurd applied (by simp)
    next edits found => exact lengthens_of_queued (longer _ _ found) applied

/-- An operator that reports a change gives a draft that renders to a longer text. -/
theorem length_lt_of_apply {operator : Operator} {settings : Settings} {policy : Policy}
    {now : Timestamp} {file : SourceFile} {draft : Draft} {mutation : Mutation}
    (marked : settings.marker ≠ [])
    (applied : operator.apply settings policy now file = .ok (draft, mutation))
    (changed : mutation.changed = true) : file.source.length < draft.render.length := by
  have lengthens : Lengthens file draft := by
    cases operator with
    | renameLocal => exact lengthens_of_applyRename marked applied changed
    | renameParameter => exact lengthens_of_applyRename marked applied changed
    | insertComment => exact lengthens_of_applyComment applied
    | doubleNegateIf =>
      exact lengthens_of_applyConditional
        (fun _ _ => Conditional.covered_doubleNegate_lt_added) applied changed
    | flipIf =>
      exact lengthens_of_applyConditional (fun _ _ => Conditional.covered_flip_lt_added) applied
        changed
  rw [← lengthens.1]
  exact Draft.length_lt_length_render lengthens.2

end Operator

end Mutant
