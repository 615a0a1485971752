import Mutant.Proofs.Landing
import Mutant.Proofs.Relocation
import Mutant.Proofs.Usages

/-!
A file in which some names are replaced by one new name. The tree moves along with the text: its
boundaries keep their order, the names that are replaced read as the new name there, and all other
names read as before. A renaming replaces the declaring name and its usages in this way.
-/

namespace Mutant.SourceFile

open Cursor Edit

def edited (file : SourceFile) (draft : Draft) : SourceFile :=
  ⟨file.path, draft.render, file.tree.moved draft.landing⟩

def replacing (file : SourceFile) (names : List Cursor) (newName : Bytes) : Draft :=
  ⟨file.source, names.map fun name => Edit.replace name.span newName⟩

section Replacing

variable {file : SourceFile} (wellFormed : file.WellFormed) {names : List Cursor}
  (placed : ∀ name ∈ names, Reaches file.root name) (isName : ∀ name ∈ names, name.isName = true)
  (newName : Bytes)

include wellFormed placed isName

theorem proper_replacing :
    ∀ edit ∈ (file.replacing names newName).edits, edit.start < edit.stop := by
  intro edit member
  obtain ⟨name, nameIn, rfl⟩ := List.mem_map.mp member
  exact wellFormed.name_nonempty (isName name nameIn) (placed name nameIn)

theorem fits_replacing :
    ∀ edit ∈ (file.replacing names newName).edits, edit.Fits file.source := by
  intro edit member
  refine ⟨Nat.le_of_lt (proper_replacing wellFormed placed isName newName edit member), ?_⟩
  obtain ⟨name, nameIn, rfl⟩ := List.mem_map.mp member
  exact wellFormed.stop_le_length (placed name nameIn)

theorem apart_replacing
    (distinct : names.Pairwise fun first second => first.start ≠ second.start) :
    (file.replacing names newName).edits.Pairwise Edit.Apart := by
  rw [replacing, List.pairwise_map]
  refine distinct.imp_of_mem fun {first second} firstIn secondIn different => ?_
  rcases wellFormed.names_apart (isName first firstIn) (isName second secondIn)
    (placed first firstIn) (placed second secondIn) with rfl | apart
  · exact absurd rfl different
  · exact apart

end Replacing

structure Replaceable (file : SourceFile) (names : List Cursor) (newName : Bytes) : Prop where
  wellFormed : file.WellFormed
  placed : ∀ name ∈ names, Reaches file.root name
  isName : ∀ name ∈ names, name.isName = true
  distinct : names.Pairwise fun first second => first.start ≠ second.start
  nonempty : newName ≠ []

namespace Replaceable

variable {file : SourceFile} {names : List Cursor} {newName : Bytes}
  (replaceable : file.Replaceable names newName)

include replaceable

theorem replaces : (file.replacing names newName).Replaces := by
  obtain ⟨wellFormed, placed, isName, distinct, nonempty⟩ := replaceable
  have fits := fits_replacing wellFormed placed isName newName
  refine ⟨?_, fits, proper_replacing wellFormed placed isName newName, ?_⟩
  · exact leftToRight_sort (fun edit member => (fits edit member).1)
      (apart_replacing wellFormed placed isName newName distinct)
  · intro edit member
    obtain ⟨name, _, rfl⟩ := List.mem_map.mp member
    exact nonempty

theorem queue_eq_ok :
    file.draft.queue (file.replacing names newName).edits = .ok (file.replacing names newName) :=
  (Draft.queue_eq_ok_iff fun edit member => (replaceable.replaces.fits edit member).1).mpr
    ⟨replaceable.replaces.ordered, rfl⟩

theorem clear {offset : Nat} (boundary : file.root.Boundary offset) :
    (file.replacing names newName).Clear offset := by
  intro edit member
  obtain ⟨name, nameIn, rfl⟩ := List.mem_map.mp member
  obtain ⟨cursor, placed, edge⟩ := boundary
  have apart := replaceable.wellFormed.clear_of_name (replaceable.isName name nameIn)
    (replaceable.placed name nameIn) placed
  rcases edge with rfl | rfl
  · exact apart.1
  · exact apart.2

theorem increasing :
    StrictMonoOn (file.replacing names newName).landing {offset | file.root.Boundary offset} := by
  intro first firstBoundary second secondBoundary before
  have within : second ≤ file.source.length := by
    obtain ⟨cursor, placed, rfl | rfl⟩ := secondBoundary
    · exact Nat.le_trans (replaceable.wellFormed.start_le_stop placed)
        (replaceable.wellFormed.stop_le_length placed)
    · exact replaceable.wellFormed.stop_le_length placed
  exact replaceable.replaces.landing_lt before within (replaceable.clear firstBoundary)
    (replaceable.clear secondBoundary)

theorem text_moved_of_mem {name : Cursor} (member : name ∈ names) :
    (file.edited (file.replacing names newName)).text
      (name.moved (file.replacing names newName).landing) = newName := by
  have queued : Edit.replace name.span newName ∈ (file.replacing names newName).edits :=
    List.mem_map_of_mem member
  rw [text, Span.text, moved_span]
  exact replaceable.replaces.render_slice_replaced queued

theorem text_moved_of_not_mem {other : Cursor} (isName : other.isName = true)
    (placed : Reaches file.root other) (absent : other ∉ names) :
    (file.edited (file.replacing names newName)).text
      (other.moved (file.replacing names newName).landing) = file.text other := by
  have untouched : ∀ edit ∈ (file.replacing names newName).edits,
      edit.stop ≤ other.start ∨ other.stop ≤ edit.start := by
    intro edit member
    obtain ⟨name, nameIn, rfl⟩ := List.mem_map.mp member
    rcases replaceable.wellFormed.names_apart (replaceable.isName name nameIn) isName
      (replaceable.placed name nameIn) placed with rfl | apart
    · exact absurd nameIn absent
    · exact apart
  rw [text, Span.text, moved_span]
  exact replaceable.replaces.render_slice_untouched
    (replaceable.wellFormed.start_le_stop placed) (replaceable.wellFormed.stop_le_length placed)
    untouched

/-- When the new name is fresh, two names read alike afterwards if both are replaced, or if neither is
and they read alike before. -/
theorem text_moved_eq_iff
    (fresh : ∀ cursor ∈ file.root.walk, cursor.isName = true → file.text cursor ≠ newName)
    {first second : Cursor} (firstName : first.isName = true) (secondName : second.isName = true)
    (firstPlaced : Reaches file.root first) (secondPlaced : Reaches file.root second) :
    (file.edited (file.replacing names newName)).text
        (first.moved (file.replacing names newName).landing) =
      (file.edited (file.replacing names newName)).text
        (second.moved (file.replacing names newName).landing) ↔
      (first ∈ names ↔ second ∈ names) ∧
        (first ∉ names → file.text first = file.text second) := by
  have firstFresh := fresh first (mem_walk.mpr firstPlaced) firstName
  have secondFresh := fresh second (mem_walk.mpr secondPlaced) secondName
  by_cases firstIn : first ∈ names
  · rw [replaceable.text_moved_of_mem firstIn]
    by_cases secondIn : second ∈ names
    · simp [replaceable.text_moved_of_mem secondIn, firstIn, secondIn]
    · simp [replaceable.text_moved_of_not_mem secondName secondPlaced secondIn, firstIn, secondIn,
        secondFresh.symm]
  · rw [replaceable.text_moved_of_not_mem firstName firstPlaced firstIn]
    by_cases secondIn : second ∈ names
    · simp [replaceable.text_moved_of_mem secondIn, firstIn, secondIn, firstFresh]
    · simp [replaceable.text_moved_of_not_mem secondName secondPlaced secondIn, firstIn, secondIn]

end Replaceable

end Mutant.SourceFile

namespace Mutant.Rename

open Cursor Candidate

/-- The names that a renaming replaces, the declaring one first. -/
def replaced (file : SourceFile) (resolution : Bool) (scope name : Cursor) : List Cursor :=
  name :: (usages file resolution scope (Declaration.ofName file name)).1

section Replaced

variable {file : SourceFile} {resolution : Bool} {family : Family} {scope name : Cursor}
  (renames : Renames file family scope name)

include renames

theorem placed_of_mem_replaced {cursor : Cursor}
    (member : cursor ∈ replaced file resolution scope name) : Reaches file.root cursor := by
  rcases List.mem_cons.mp member with rfl | used
  · exact renames.name_placed
  · exact (mem_references.mp (mem_references_of_mem_usages renames used)).1

theorem isName_of_mem_replaced {cursor : Cursor}
    (member : cursor ∈ replaced file resolution scope name) : cursor.isName = true := by
  rcases List.mem_cons.mp member with rfl | used
  · exact renames.isName
  · exact isName_of_isReference (mem_references.mp (mem_references_of_mem_usages renames used)).2

/-- The declaring name is none of the usages, so a renaming replaces every name once. -/
theorem replaced_pairwise (wellFormed : file.WellFormed) :
    (replaced file resolution scope name).Pairwise fun first second =>
      first.start ≠ second.start := by
  refine .cons (fun usage used same => ?_) (usages_pairwise file resolution scope _)
  obtain ⟨placed, refers⟩ := mem_references.mp (mem_references_of_mem_usages renames used)
  have inside := contains_of_mem_usages wellFormed renames used
  have equal := wellFormed.eq_of_start_eq renames.isName (isName_of_isReference refers)
    renames.name_placed placed same
  rw [← equal] at inside refers
  rw [renames.not_isReference_of_contains wellFormed inside] at refers
  exact absurd refers (by decide)

theorem replaceable_replaced (wellFormed : file.WellFormed) {newName : Bytes}
    (nonempty : newName ≠ []) :
    file.Replaceable (replaced file resolution scope name) newName where
  wellFormed := wellFormed
  nonempty := nonempty
  placed := fun _ => placed_of_mem_replaced renames
  isName := fun _ => isName_of_mem_replaced renames
  distinct := replaced_pairwise renames wellFormed

end Replaced

end Mutant.Rename
