import Mutant.Proofs.Applicability
import Mutant.Proofs.DocumentOrder

/-!
The two tiers of a renaming side by side. The references within the span of a scope are those that a
walk of the scope finds, in the same order. So the first tier takes a part of what the second one
takes, and all of it where every reference with the old name denotes the declaration.
-/

namespace Mutant

open Cursor Scope Candidate

namespace SourceFile.WellFormed

variable {file : SourceFile} (wellFormed : file.WellFormed)

include wellFormed

theorem references_pairwise {top : Cursor} (placed : Reaches file.root top) :
    top.references.Pairwise fun first second => first.stop ≤ second.start := by
  refine ((wellFormed.walk_pairwise placed).filter _).imp_of_mem ?_
  intro first second firstIn secondIn order
  obtain ⟨firstBelow, firstRefers⟩ := mem_references.mp firstIn
  obtain ⟨secondBelow, _⟩ := mem_references.mp secondIn
  rcases order with before | above
  · exact before
  · have reaches := (reaches_of_mem_ancestors (placed.trans secondBelow) rfl above).2
    have same := wellFormed.reaches_name (isName_of_isReference firstRefers)
      (placed.trans firstBelow) reaches
    rw [same] at above
    exact absurd (length_above_lt above) (Nat.lt_irrefl _)

theorem references_distinct {top : Cursor} (placed : Reaches file.root top) :
    top.references.Pairwise fun first second => first.start ≠ second.start := by
  refine (wellFormed.references_pairwise placed).imp_of_mem fun {first second} firstIn _ before => ?_
  obtain ⟨below, refers⟩ := mem_references.mp firstIn
  have nonempty := wellFormed.name_nonempty (isName_of_isReference refers) (placed.trans below)
  omega

theorem references_nodup {top : Cursor} (placed : Reaches file.root top) : top.references.Nodup :=
  (wellFormed.references_distinct placed).imp fun different same =>
    different (congrArg Cursor.start same)

theorem references_within {scope : Cursor} (placed : Reaches file.root scope) :
    (file.root.references.filter fun reference => scope.span.contains reference.span) =
      scope.references := by
  have ordered := (wellFormed.references_pairwise .here).filter fun reference =>
    scope.span.contains reference.span
  refine List.Perm.eq_of_pairwise ?_ ordered (wellFormed.references_pairwise placed) ?_
  · intro first second firstIn secondIn before behind
    obtain ⟨firstPlaced, firstRefers⟩ := mem_references.mp (List.mem_filter.mp firstIn).1
    obtain ⟨secondBelow, secondRefers⟩ := mem_references.mp secondIn
    have firstNonempty :=
      wellFormed.name_nonempty (isName_of_isReference firstRefers) firstPlaced
    have secondNonempty :=
      wellFormed.name_nonempty (isName_of_isReference secondRefers) (placed.trans secondBelow)
    omega
  · refine (List.perm_ext_iff_of_nodup ((wellFormed.references_nodup .here).filter _)
      (wellFormed.references_nodup placed)).mpr fun reference => ?_
    rw [List.mem_filter, mem_references, mem_references]
    constructor
    · rintro ⟨⟨below, refers⟩, inside⟩
      exact ⟨wellFormed.reaches_of_contains (isName_of_isReference refers) placed below inside,
        refers⟩
    · rintro ⟨below, refers⟩
      exact ⟨⟨placed.trans below, refers⟩,
        Span.contains_iff.mpr (wellFormed.contains_of_reaches placed below)⟩

end SourceFile.WellFormed

namespace Rename

theorem distinctStarts_eq_self {seen : List Nat} {cursors : List Cursor}
    (distinct : cursors.Pairwise fun first second => first.start ≠ second.start)
    (unseen : ∀ cursor ∈ cursors, cursor.start ∉ seen) : distinctStarts seen cursors = cursors := by
  induction cursors generalizing seen with
  | nil => rfl
  | cons first rest ih =>
    obtain ⟨others, restDistinct⟩ := List.pairwise_cons.mp distinct
    have fresh : seen.contains first.start = false := by
      simpa using unseen first List.mem_cons_self
    have restUnseen : ∀ cursor ∈ rest, cursor.start ∉ first.start :: seen := by
      intro cursor member
      rw [List.mem_cons, not_or]
      exact ⟨(others cursor member).symm, unseen cursor (List.mem_cons_of_mem _ member)⟩
    rw [distinctStarts, fresh, if_neg (by decide), ih restDistinct restUnseen]

section Tiers

variable {file : SourceFile} (wellFormed : file.WellFormed) {scope : Cursor}
  (placed : Reaches file.root scope)

include wellFormed placed

theorem lexicalUsages_eq_filter (name : Bytes) :
    lexicalUsages file scope name = scope.references.filter (isNamed file name) :=
  distinctStarts_eq_self ((wellFormed.references_distinct placed).filter _)
    fun _ _ => List.not_mem_nil

/-- The first tier takes, of what the second one takes, what denotes the declaration. -/
theorem identityUsages_eq_filter (target : Declaration) :
    identityUsages file scope target =
      (lexicalUsages file scope target.name).filter (denotes file target) := by
  have kept : denoting file scope target =
      (scope.references.filter (isNamed file target.name)).filter (denotes file target) := by
    rw [← wellFormed.references_within placed, denoting]
    simp only [List.filter_filter]
    apply List.filter_congr
    intro reference _
    ac_rfl
  rw [lexicalUsages_eq_filter wellFormed placed, ← kept, identityUsages_eq]
  refine distinctStarts_eq_self ?_ fun _ _ => List.not_mem_nil
  rw [kept]
  exact ((wellFormed.references_distinct placed).filter _).filter _

end Tiers

theorem usages_eq_of_tiers_eq {file : SourceFile} {scope : Cursor} {target : Declaration}
    (same : identityUsages file scope target = lexicalUsages file scope target.name) :
    (usages file true scope target).1 = (usages file false scope target).1 := by
  rcases usages_cases file scope target with ⟨_, identity⟩ | ⟨_, lexical⟩
  · rw [identity, same]
    rfl
  · rw [lexical]
    rfl

/-- The usages of the first tier are usages of the second one, in the same order. Where every
reference in the scope with the old name resolves to the declaration, the resolution makes no
difference to the edits, and so none to the text. -/
theorem tiers_agree {file : SourceFile} (wellFormed : file.WellFormed) {marker : Bytes}
    {family : Family} {candidate : Candidate} {name : Cursor}
    (chosen : candidate ∈ select file marker family) (named : candidate.name = some name) :
    (identityUsages file candidate.scope (Declaration.ofName file name)).Sublist
      (lexicalUsages file candidate.scope (file.text name)) ∧
    ((∀ reference ∈ file.root.references, candidate.scope.span.contains reference.span = true →
        file.text reference = file.text name →
        resolve file reference = some (Declaration.ofName file name)) →
      ∀ newName, (plan file true candidate.scope name newName).edits =
          (plan file false candidate.scope name newName).edits ∧
        ∃ draft,
          file.draft.queue (plan file true candidate.scope name newName).edits = .ok draft ∧
          file.draft.queue (plan file false candidate.scope name newName).edits = .ok draft) := by
  have renames := renames_of_mem_select chosen named
  have placed := renames.scope_placed
  have filtered := identityUsages_eq_filter wellFormed placed (Declaration.ofName file name)
  rw [ofName_name] at filtered
  refine ⟨filtered ▸ List.filter_sublist, fun resolved newName => ?_⟩
  have all : identityUsages file candidate.scope (Declaration.ofName file name) =
      lexicalUsages file candidate.scope (file.text name) := by
    rw [filtered, List.filter_eq_self]
    intro usage used
    obtain ⟨refers, text⟩ := mem_of_mem_lexicalUsages used
    rw [← wellFormed.references_within placed, List.mem_filter] at refers
    exact denotes_iff.mpr ⟨_, resolved usage refers.1 refers.2 text, Or.inl rfl⟩
  have edits : (plan file true candidate.scope name newName).edits =
      (plan file false candidate.scope name newName).edits :=
    congrArg (fun found : List Cursor => (file.replacing (name :: found) newName).edits)
      (usages_eq_of_tiers_eq (all.trans (by rw [ofName_name])))
  have queued := (substitutes_replaced wellFormed false renames newName).queue_eq_ok
  exact ⟨edits, _, edits ▸ queued, queued⟩

theorem shadowing_tiers_agree :
    ∃ candidate ∈ select shadowing [] .parameter, ∃ name ∈ candidate.name,
      (plan shadowing true candidate.scope name [121]).strategy = .identity ∧
      (plan shadowing true candidate.scope name [121]).edits =
        (plan shadowing false candidate.scope name [121]).edits := by
  have inner : ∃ candidate ∈ select shadowing [] .parameter, ∃ name ∈ candidate.name,
      (plan shadowing true candidate.scope name [121]).strategy = .identity ∧
      ∀ reference ∈ shadowing.root.references,
        candidate.scope.span.contains reference.span = true →
        shadowing.text reference = shadowing.text name →
        resolve shadowing reference = some (Declaration.ofName shadowing name) := by
    decide +kernel
  obtain ⟨candidate, chosen, name, named, strategy, resolved⟩ := inner
  exact ⟨candidate, chosen, name, named, strategy,
    ((tiers_agree shadowing_wellFormed chosen named).2 resolved [121]).1⟩

end Rename

end Mutant
