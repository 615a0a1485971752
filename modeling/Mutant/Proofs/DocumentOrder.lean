import Mutant.Proofs.Candidates

/-!
Candidates in the order of the document. Of two nodes on a walk, the first ends before the second
begins or is one of its ancestors. A name tells the declarator or the owner that declares it, so no
two candidates of a family have one name.
-/

namespace Mutant

open Cursor Scope

theorem Scope.reaches_of_parameterName {parameter name : Cursor}
    (named : parameter.parameterName = some name) : Reaches parameter name := by
  unfold parameterName at named
  split at named
  · exact reaches_of_childAt named
  · obtain ⟨declarator, found, below⟩ := Option.bind_eq_some_iff.mp named
    exact (reaches_of_mem_namedChildren (List.mem_of_find?_eq_some found)).trans
      (reaches_of_childAt below)
  · exact absurd named (by simp)

namespace SourceFile.WellFormed

variable {file : SourceFile} (wellFormed : file.WellFormed)

include wellFormed

theorem children_pairwise {cursor : Cursor} (placed : Reaches file.root cursor) :
    cursor.children.Pairwise fun first second => first.stop ≤ second.start := by
  rw [children, List.pairwise_map]
  exact wellFormed.ordered cursor (mem_walk.mpr placed)

theorem namedChildren_pairwise {cursor : Cursor} (placed : Reaches file.root cursor) :
    cursor.namedChildren.Pairwise fun first second => first.stop ≤ second.start := by
  rw [namedChildren, List.pairwise_map]
  exact (wellFormed.ordered cursor (mem_walk.mpr placed)).filter _

theorem walk_pairwise {top : Cursor} (placed : Reaches file.root top) :
    top.walk.Pairwise fun first second =>
      first.stop ≤ second.start ∨ first ∈ second.ancestors := by
  -- By induction on the size of the tree below `top`, one step down at a time.
  induction height : top.node.size using Nat.strongRecOn generalizing top with
  | _ size ih =>
    rw [walk_eq, List.pairwise_cons, List.pairwise_flatMap]
    refine ⟨fun lower member => ?_, fun first firstIn => ?_, ?_⟩
    · obtain ⟨first, firstIn, deeper⟩ := List.mem_flatMap.mp member
      obtain ⟨child, _, rfl⟩ := mem_children.mp firstIn
      have above : top ∈ (top.down child).ancestors := List.mem_cons_self
      exact Or.inr ((mem_walk.mp deeper).ancestors_subset above)
    · obtain ⟨child, childIn, rfl⟩ := mem_children.mp firstIn
      refine ih child.size ?_ (placed.down childIn) rfl
      have smaller := Node.size_le_sizeAll childIn
      have whole := Node.size_eq top.node
      omega
    · refine (wellFormed.children_pairwise placed).imp_of_mem ?_
      intro first second firstIn secondIn before upper upperIn lower lowerIn
      obtain ⟨child, childIn, rfl⟩ := mem_children.mp firstIn
      obtain ⟨other, otherIn, rfl⟩ := mem_children.mp secondIn
      have upperWithin := wellFormed.contains_of_reaches (placed.down childIn) (mem_walk.mp upperIn)
      have lowerWithin := wellFormed.contains_of_reaches (placed.down otherIn) (mem_walk.mp lowerIn)
      exact Or.inl (by omega)

theorem not_before_self {home name : Cursor} (placed : Reaches file.root home)
    (reaches : Reaches home name) (isName : name.isName = true) :
    ¬(home.stop ≤ home.start ∨ home ∈ home.ancestors) := by
  have nonempty := wellFormed.name_nonempty isName (placed.trans reaches)
  have within := wellFormed.contains_of_reaches placed reaches
  rintro (empty | above)
  · omega
  · exact absurd (length_above_lt above) (Nat.lt_irrefl _)

theorem filterMap_pairwise {cursors : List Cursor} {nameOf : Cursor → Option Cursor}
    (placed : ∀ cursor ∈ cursors, Reaches file.root cursor)
    (below : ∀ cursor name, nameOf cursor = some name → Reaches cursor name)
    (ordered : cursors.Pairwise fun first second => first.stop ≤ second.start) :
    (cursors.filterMap nameOf).Pairwise fun first second => first.stop ≤ second.start := by
  rw [List.pairwise_filterMap]
  refine ordered.imp_of_mem fun {first second} firstIn secondIn before name named other found => ?_
  have within := wellFormed.contains_of_reaches (placed first firstIn) (below first name named)
  have beyond := wellFormed.contains_of_reaches (placed second secondIn) (below second other found)
  omega

theorem declaredParameters_pairwise {owner : Cursor} (placed : Reaches file.root owner) :
    owner.declaredParameters.Pairwise fun first second => first.stop ≤ second.start := by
  unfold declaredParameters
  cases found : owner.childAt .parameters with
  | none => exact .nil
  | some list =>
    have listPlaced : Reaches file.root list := placed.trans (reaches_of_childAt found)
    have ordered := wellFormed.namedChildren_pairwise listPlaced
    simp only [Option.map_some, Option.getD_some, parameterNames]
    split
    · exact List.pairwise_singleton _ _
    · exact ordered.filter _
    · refine wellFormed.filterMap_pairwise (fun parameter member => ?_) (fun _ _ => ?_) ordered
      · exact listPlaced.trans (reaches_of_mem_namedChildren member)
      · exact reaches_of_parameterName

end SourceFile.WellFormed

namespace Candidate

theorem name_of_localVariable? {file : SourceFile} {marker : Bytes} {cursor : Cursor}
    {candidate : Candidate} (found : localVariable? file marker cursor = some candidate) :
    ∃ name, cursor.childAt .name = some name ∧ candidate.name = some name := by
  unfold localVariable? at found
  split at found
  · split at found
    next block name _ nameFound =>
      split at found
      · exact absurd found (by simp)
      · rw [← Option.some_inj.mp found]
        exact ⟨name, nameFound, rfl⟩
    next => exact absurd found (by simp)
  · exact absurd found (by simp)

theorem mem_parametersOf {file : SourceFile} {marker : Bytes} {owner : Cursor}
    {candidate : Candidate} (found : candidate ∈ parametersOf file marker owner) :
    (owner.kind.isCallable = true ∨ owner.kind = .lambdaExpression) ∧
      ∃ name ∈ owner.declaredParameters, candidate.name = some name := by
  unfold parametersOf at found
  split at found
  next kind =>
    split at found
    next => exact absurd found List.not_mem_nil
    next body _ =>
      obtain ⟨name, member, rfl⟩ := List.mem_map.mp found
      exact ⟨by simpa using kind, name, (List.mem_filter.mp member).1, rfl⟩
  next => exact absurd found List.not_mem_nil

theorem exists_name_of_mem_select {file : SourceFile} {marker : Bytes} {family : Family}
    (named : family ≠ .conditional) {candidate : Candidate}
    (chosen : candidate ∈ select file marker family) : ∃ name, candidate.name = some name := by
  cases family with
  | localVariable =>
    obtain ⟨cursor, _, found⟩ := List.mem_filterMap.mp chosen
    obtain ⟨name, _, is⟩ := name_of_localVariable? found
    exact ⟨name, is⟩
  | parameter =>
    obtain ⟨owner, _, found⟩ := List.mem_flatMap.mp chosen
    obtain ⟨_, name, _, is⟩ := mem_parametersOf found
    exact ⟨name, is⟩
  | conditional => exact absurd rfl named

variable {file : SourceFile} (wellFormed : file.WellFormed)

include wellFormed

theorem localVariables_pairwise (marker : Bytes) :
    (localVariables file marker).Pairwise fun first second =>
      ∀ name ∈ first.name, name ∉ second.name := by
  rw [localVariables, List.pairwise_filterMap]
  refine (wellFormed.walk_pairwise .here).imp_of_mem ?_
  intro first second firstIn _ before candidate found other otherFound name named otherNamed
  obtain ⟨_, child, is⟩ := name_of_localVariable? found
  obtain ⟨_, otherChild, otherIs⟩ := name_of_localVariable? otherFound
  obtain rfl := Option.some_inj.mp (is.symm.trans named)
  obtain rfl := Option.some_inj.mp (otherIs.symm.trans otherNamed)
  -- The name is a child of both declarators, so they are one.
  obtain ⟨node, _, _, shape⟩ := childAt_eq_some child
  obtain ⟨_, _, _, otherShape⟩ := childAt_eq_some otherChild
  obtain ⟨rfl, -⟩ := down_inj.mp (shape.symm.trans otherShape)
  have renames := renames_of_localVariable? (mem_walk.mp firstIn) found named
  exact wellFormed.not_before_self (mem_walk.mp firstIn) (reaches_of_childAt child) renames.isName
    before

theorem parametersOf_pairwise {owner : Cursor} (placed : Reaches file.root owner)
    (marker : Bytes) :
    (parametersOf file marker owner).Pairwise fun first second =>
      ∀ name ∈ first.name, name ∉ second.name := by
  unfold parametersOf
  split
  next =>
    split
    · exact .nil
    · rw [List.pairwise_map]
      refine ((wellFormed.declaredParameters_pairwise placed).filter _).imp_of_mem ?_
      rintro first second firstIn _ before _ ⟨rfl⟩ ⟨rfl⟩
      have parameter := parameter_of_mem (List.mem_filter.mp firstIn).1
      have nonempty := wellFormed.name_nonempty parameter.isName (placed.trans parameter.reaches)
      omega
  next => exact .nil

theorem parameters_pairwise (marker : Bytes) :
    (parameters file marker).Pairwise fun first second =>
      ∀ name ∈ first.name, name ∉ second.name := by
  rw [parameters, List.pairwise_flatMap]
  refine ⟨fun owner member => parametersOf_pairwise wellFormed (mem_walk.mp member) marker, ?_⟩
  refine (wellFormed.walk_pairwise .here).imp_of_mem ?_
  intro first second firstIn _ before candidate found other otherFound name named otherNamed
  obtain ⟨callable, parameter, declared, is⟩ := mem_parametersOf found
  obtain ⟨otherCallable, otherParameter, otherDeclared, otherIs⟩ := mem_parametersOf otherFound
  obtain rfl := Option.some_inj.mp (is.symm.trans named)
  obtain rfl := Option.some_inj.mp (otherIs.symm.trans otherNamed)
  -- The name tells its owner.
  have owner := ownerOf_eq (owns_of_callable callable).1 (parameter_of_mem declared)
  rw [ownerOf_eq (owns_of_callable otherCallable).1 (parameter_of_mem otherDeclared)] at owner
  obtain rfl := Option.some_inj.mp owner
  have reaches := (parameter_of_mem declared).reaches
  exact wellFormed.not_before_self (mem_walk.mp firstIn) reaches (parameter_of_mem declared).isName
    before

/-- No two candidates of a family have one name. -/
theorem select_pairwise (marker : Bytes) (family : Family) :
    (select file marker family).Pairwise fun first second =>
      ∀ name ∈ first.name, name ∉ second.name := by
  cases family with
  | localVariable => exact localVariables_pairwise wellFormed marker
  | parameter => exact parameters_pairwise wellFormed marker
  | conditional =>
    rw [select, conditionals, List.pairwise_map]
    exact List.pairwise_of_forall fun _ _ _ unnamed => absurd unnamed (by simp)

end Candidate

end Mutant
