import Mutant.Proofs.NameReplacement
import Mutant.Proofs.OwnUsages

/-!
A renaming preserves binding. In the renamed file each construct offers the images of the names that
it offered before, and a fresh new name stands where the old one stood in the declaration and in all
that was bound to it. So a lookup chooses the image of what it chose before.
-/

namespace Mutant.Rename

open Cursor Scope Candidate SourceFile

theorem findSome?_map_of_kept {α β : Type} {keep : β → Prop} {move : β → β}
    {before after : α → Option β} {scopes : List α}
    (kept : ∀ found, scopes.findSome? before = some found → keep found)
    (agree : ∀ scope ∈ scopes, (∀ found, before scope = some found → keep found) →
      after scope = (before scope).map move) :
    scopes.findSome? after = (scopes.findSome? before).map move := by
  induction scopes with
  | nil => rfl
  | cons first rest ih =>
    rw [List.findSome?_cons] at kept
    rw [List.findSome?_cons, List.findSome?_cons]
    cases here : before first with
    | none =>
      rw [here] at kept
      have nothing := agree first List.mem_cons_self fun found same => by simp [here] at same
      rw [here, Option.map_none] at nothing
      rw [nothing]
      exact ih kept fun scope member => agree scope (List.mem_cons_of_mem _ member)
    | some found =>
      rw [here] at kept
      have same := agree first List.mem_cons_self fun other equal => by
        rw [here] at equal
        exact kept other equal
      rw [same, here]
      rfl

/-- A renaming that edits its own usages only, to a name that nothing else has. -/
structure Clean (file : SourceFile) (family : Family) (scope name : Cursor) (newName : Bytes) :
    Prop where
  wellFormed : file.WellFormed
  grammar : file.FollowsGrammar
  renames : Renames file family scope name
  nonempty : newName ≠ []
  fresh : ∀ cursor ∈ file.root.walk, cursor.isName = true → file.text cursor ≠ newName
  tier : (usages file true scope (Declaration.ofName file name)).2 = .identity ∨
    (usages file true scope (Declaration.ofName file name)).1 = []
  alone : family = .parameter → ∀ other, ¬Rival file scope name other

namespace Clean

variable {file : SourceFile} {family : Family} {scope name : Cursor} {newName : Bytes}
  (clean : Clean file family scope name newName)

include clean

theorem usage_refers {usage : Cursor}
    (used : usage ∈ (usages file true scope (Declaration.ofName file name)).1) :
    Reaches file.root usage ∧ usage.isReference = true :=
  mem_references.mp (mem_references_of_mem_usages clean.renames used)

theorem not_isReference : name.isReference = false :=
  clean.renames.not_isReference clean.grammar

theorem replaceable : file.Replaceable (replaced file true scope name) newName :=
  replaceable_replaced clean.renames clean.wellFormed clean.nonempty

theorem reference_mem_replaced_iff {reference : Cursor} (refers : reference ∈ file.root.references) :
    reference ∈ replaced file true scope name ↔ binder file reference = some name := by
  have other : reference ≠ name := by
    rintro rfl
    have isReference := (mem_references.mp refers).2
    rw [clean.not_isReference] at isReference
    exact absurd isReference (by decide)
  rw [replaced, List.mem_cons, or_iff_right other]
  exact mem_usages_iff_binder clean.wellFormed clean.grammar clean.renames clean.alone clean.tier
    refers

theorem offered_mem_replaced_iff {home reference found : Cursor} (placed : Reaches file.root home)
    (visible : found ∈ offered home reference) :
    found ∈ replaced file true scope name ↔ found = name := by
  rw [replaced, List.mem_cons]
  refine or_iff_left fun used => ?_
  have isReference := (clean.usage_refers used).2
  rw [(visible_of_mem visible).not_isReference clean.grammar placed] at isReference
  exact absurd isReference (by decide)

/-- After the renaming an offered name reads like the reference if it did before, and if they are
renamed together or not at all. -/
theorem text_moved_offered_iff {home reference found : Cursor} (placed : Reaches file.root home)
    (refers : reference ∈ file.root.references) (visible : found ∈ offered home reference) :
    let draft := file.replacing (replaced file true scope name) newName
    (file.edited draft).text (found.moved draft.landing) =
        (file.edited draft).text (reference.moved draft.landing) ↔
      file.text found = file.text reference ∧
        (found = name ↔ binder file reference = some name) := by
  intro draft
  obtain ⟨referencePlaced, isReference⟩ := mem_references.mp refers
  have seen := visible_of_mem visible
  rw [clean.replaceable.text_moved_eq_iff clean.fresh seen.isName
    (isName_of_isReference isReference) (seen.placed rfl placed) referencePlaced,
    clean.offered_mem_replaced_iff placed visible, clean.reference_mem_replaced_iff refers]
  constructor
  · rintro ⟨together, alike⟩
    refine ⟨?_, together⟩
    by_cases same : found = name
    · rw [same]
      exact text_of_binder (together.mp same)
    · exact alike same
  · rintro ⟨alike, together⟩
    exact ⟨together, fun _ => alike⟩

open scoped Classical in
theorem lookup_moved {home reference : Cursor} (placed : Reaches file.root home)
    (refers : reference ∈ file.root.references) :
    let draft := file.replacing (replaced file true scope name) newName
    lookup (file.edited draft) (home.moved draft.landing) (reference.moved draft.landing)
        ((file.edited draft).text (reference.moved draft.landing)) =
      (choose home.kind (((offered home reference).filter fun found =>
        file.text found == file.text reference).filter fun found =>
          decide (found = name ↔ binder file reference = some name))).map
            (Cursor.moved draft.landing) := by
  intro draft
  have increasing := clean.replaceable.increasing
  rw [lookup_eq_choose, moved_kind,
    offered_moved increasing rfl placed (mem_references.mp refers).1, List.filter_map, choose_map,
    List.filter_filter]
  apply congrArg fun names => (choose home.kind names).map (Cursor.moved draft.landing)
  apply List.filter_congr
  intro found visible
  have alike := clean.text_moved_offered_iff placed refers visible
  rw [Function.comp_apply, Bool.eq_iff_iff, beq_iff_eq, Bool.and_eq_true, decide_eq_true_iff,
    beq_iff_eq]
  exact alike.trans and_comm

theorem binder_moved {reference : Cursor} (refers : reference ∈ file.root.references) :
    let draft := file.replacing (replaced file true scope name) newName
    binder (file.edited draft) (reference.moved draft.landing) =
      (binder file reference).map (Cursor.moved draft.landing) := by
  classical
  intro draft
  -- The name that binds the reference is renamed together with it, so no lookup loses its answer.
  have kept : ∀ found, binder file reference = some found →
      (found = name ↔ binder file reference = some name) := by
    intro found bound
    rw [bound, Option.some_inj]
  have agree : ∀ home ∈ reference.ancestors,
      (∀ found, lookup file home reference (file.text reference) = some found →
        (found = name ↔ binder file reference = some name)) →
      lookup (file.edited draft) (home.moved draft.landing) (reference.moved draft.landing)
          ((file.edited draft).text (reference.moved draft.landing)) =
        (lookup file home reference (file.text reference)).map (Cursor.moved draft.landing) := by
    intro home member together
    have placed := (reaches_of_mem_ancestors (mem_references.mp refers).1 rfl member).1
    rw [clean.lookup_moved placed refers, lookup_eq_choose file home, choose_filter]
    intro found chosen
    rw [← lookup_eq_choose] at chosen
    exact decide_eq_true (together found chosen)
  rw [binder, ancestors_moved, List.findSome?_map]
  exact findSome?_map_of_kept kept agree

end Clean

/-- A renaming preserves binding. When its usages are found by resolution, or there are none, and no
rival is declared near a parameter, then in the renamed file the references are the images of those
before, and each is bound to the image of the name that bound it, or to nothing if nothing did. -/
theorem binder_edited {file : SourceFile} (wellFormed : file.WellFormed)
    (grammar : file.FollowsGrammar) {marker : Bytes} {family : Family} {candidate : Candidate}
    {name : Cursor} (chosen : candidate ∈ select file marker family)
    (named : candidate.name = some name) {newName : Bytes} (nonempty : newName ≠ [])
    (fresh : ∀ cursor ∈ file.root.walk, cursor.isName = true → file.text cursor ≠ newName)
    (tier : (plan file true candidate.scope name newName).strategy = .identity ∨
      (plan file true candidate.scope name newName).usages = 0)
    (alone : family = .parameter → ∀ other, ¬Rival file candidate.scope name other) :
    ∃ draft, file.draft.queue (plan file true candidate.scope name newName).edits = .ok draft ∧
      (file.edited draft).root.references =
        file.root.references.map (Cursor.moved draft.landing) ∧
      ∀ reference ∈ file.root.references,
        binder (file.edited draft) (reference.moved draft.landing) =
          (binder file reference).map (Cursor.moved draft.landing) := by
  have clean : Clean file family candidate.scope name newName :=
    { wellFormed, grammar, nonempty, fresh, alone,
      renames := renames_of_mem_select chosen named
      tier := tier.imp_right List.length_eq_zero_iff.mp }
  refine ⟨file.replacing (replaced file true candidate.scope name) newName,
    clean.replaceable.queue_eq_ok, ?_, fun reference refers => ?_⟩
  · exact references_moved clean.replaceable.increasing rfl
  · exact clean.binder_moved refers

theorem shadowing_followsGrammar : shadowing.FollowsGrammar where
  declarators := by decide
  parameters := by decide

theorem shadowing_binder_edited :
    ∃ candidate ∈ select shadowing [] .parameter, ∃ name ∈ candidate.name,
      (plan shadowing true candidate.scope name [121]).strategy = .identity ∧
      ∃ draft, shadowing.draft.queue (plan shadowing true candidate.scope name [121]).edits =
          .ok draft ∧
        (shadowing.edited draft).root.references =
          shadowing.root.references.map (Cursor.moved draft.landing) ∧
        ∀ reference ∈ shadowing.root.references,
          binder (shadowing.edited draft) (reference.moved draft.landing) =
            (binder shadowing reference).map (Cursor.moved draft.landing) := by
  have inner : ∃ candidate ∈ select shadowing [] .parameter, ∃ name ∈ candidate.name,
      (plan shadowing true candidate.scope name [121]).strategy = .identity ∧
        name.span = ⟨50, 51⟩ ∧ candidate.scope.span = ⟨52, 63⟩ := by
    decide +kernel
  have lists : ∀ owner ∈ shadowing.root.walk, ∀ other ∈ owner.declaredParameters,
      other.span ≠ ⟨50, 51⟩ → (⟨52, 63⟩ : Span).contains other.span = false ∧
        ∀ beside ∈ owner.declaredParameters, beside.span ≠ ⟨50, 51⟩ := by
    decide +kernel
  obtain ⟨candidate, chosen, name, named, strategy, nameSpan, scopeSpan⟩ := inner
  have alone : ∀ other, ¬Rival shadowing candidate.scope name other := by
    rintro other ⟨apart, _, _, _, owner, ownerIn, declared, near⟩
    rw [nameSpan] at apart
    obtain ⟨outside, elsewhere⟩ := lists owner ownerIn other declared apart
    rcases near with beside | inside
    · exact elsewhere name beside nameSpan
    · rw [scopeSpan, outside] at inside
      exact absurd inside (by decide)
  exact ⟨candidate, chosen, name, named, strategy,
    binder_edited shadowing_wellFormed shadowing_followsGrammar chosen named (by decide)
      (by decide +kernel) (Or.inl strategy) fun _ => alone⟩

end Mutant.Rename
