import Mutant.Proofs.NameReplacement
import Mutant.Proofs.Undoing

/-!
Every renaming can be applied, and it touches names only. The name and its usages lie apart from one
another, all of them read as the old name, and wherever the new name then stands the old one can be
put back.
-/

namespace Mutant.Rename

open Cursor Candidate SourceFile Draft

theorem text_of_mem_replaced {file : SourceFile} {resolution : Bool} {scope name cursor : Cursor}
    (member : cursor ∈ replaced file resolution scope name) : file.text cursor = file.text name := by
  rcases List.mem_cons.mp member with rfl | used
  · rfl
  · rw [text_of_mem_usages used, ofName_name]

theorem substitutes_replaced {file : SourceFile} (wellFormed : file.WellFormed) (resolution : Bool)
    {family : Family} {scope name : Cursor} (renames : Renames file family scope name)
    (newName : Bytes) :
    (file.replacing (replaced file resolution scope name) newName).Substitutes (file.text name)
      newName := by
  have placed : ∀ cursor ∈ replaced file resolution scope name, Reaches file.root cursor :=
    fun _ => placed_of_mem_replaced renames
  have isName : ∀ cursor ∈ replaced file resolution scope name, cursor.isName = true :=
    fun _ => isName_of_mem_replaced renames
  constructor
  · exact apart_replacing wellFormed placed isName newName (replaced_pairwise renames wellFormed)
  · exact fits_replacing wellFormed placed isName newName
  · exact proper_replacing wellFormed placed isName newName
  · intro edit member
    obtain ⟨cursor, cursorIn, rfl⟩ := List.mem_map.mp member
    exact text_of_mem_replaced cursorIn
  · intro edit member
    obtain ⟨cursor, _, rfl⟩ := List.mem_map.mp member
    rfl

/-- A renaming can always be applied. Its edits lie apart; they replace the declaring name and
references in the scope, each once, and all of them held the old name; and putting the old name back
wherever the new one has come to stand gives the source again. -/
theorem plan_applicable {file : SourceFile} (wellFormed : file.WellFormed) {marker : Bytes}
    {family : Family} {candidate : Candidate} {name : Cursor}
    (chosen : candidate ∈ select file marker family) (named : candidate.name = some name)
    (resolution : Bool) (newName : Bytes) :
    let plan := plan file resolution candidate.scope name newName
    plan.edits.Pairwise Edit.Apart ∧
    (∃ usages : List Cursor,
      plan.edits = (name :: usages).map (fun cursor => Edit.replace cursor.span newName) ∧
      (name :: usages).Nodup ∧
      ∀ usage ∈ usages, usage ∈ file.root.references ∧
        candidate.scope.span.contains usage.span = true) ∧
    (∀ edit ∈ plan.edits, file.source.slice edit.start edit.stop = file.text name) ∧
    plan.usages + 1 = plan.edits.length ∧
    ∃ draft, file.draft.queue plan.edits = .ok draft ∧
      (∀ edit ∈ plan.edits, draft.render.slice (draft.landing edit.start)
        (draft.landing edit.start + newName.length) = newName) ∧
      ∃ undone,
        Draft.queue ⟨draft.render, []⟩ (plan.edits.map fun edit =>
          ⟨draft.landing edit.start, draft.landing edit.start + newName.length, file.text name⟩) =
            .ok undone ∧
        undone.render = file.source := by
  intro plan
  have renames := renames_of_mem_select chosen named
  have substitutes := substitutes_replaced wellFormed resolution renames newName
  have distinct : (replaced file resolution candidate.scope name).Nodup :=
    (replaced_pairwise renames wellFormed).imp fun different same =>
      different (congrArg Cursor.start same)
  obtain ⟨queued, rendered⟩ := substitutes.undone
  refine ⟨substitutes.apart, ⟨_, rfl, distinct, fun usage used => ?_⟩, substitutes.held, ?_, _,
    substitutes.queue_eq_ok, fun edit => substitutes.render_slice, _, queued, rendered⟩
  · exact ⟨mem_references_of_mem_usages renames used, contains_of_mem_usages wellFormed renames used⟩
  · exact congrArg (· + 1) (List.length_map _).symm

theorem shadowing_plan_applicable :
    ∃ candidate ∈ select shadowing [] .localVariable, ∃ name ∈ candidate.name,
      (plan shadowing false candidate.scope name []).usages = 1 ∧
      ∃ draft, shadowing.draft.queue (plan shadowing false candidate.scope name []).edits =
          .ok draft ∧
        ∃ undone,
          Draft.queue ⟨draft.render, []⟩
            ((plan shadowing false candidate.scope name []).edits.map fun edit =>
              ⟨draft.landing edit.start, draft.landing edit.start, shadowing.text name⟩) =
              .ok undone ∧
          undone.render = shadowing.source := by
  have lexical : ∃ candidate ∈ select shadowing [] .localVariable, ∃ name ∈ candidate.name,
      (plan shadowing false candidate.scope name []).usages = 1 := by
    decide +kernel
  obtain ⟨candidate, chosen, name, named, usages⟩ := lexical
  obtain ⟨-, -, -, -, draft, queued, -, undone⟩ :=
    plan_applicable shadowing_wellFormed chosen named false []
  exact ⟨candidate, chosen, name, named, usages, draft, queued, undone⟩

end Mutant.Rename
