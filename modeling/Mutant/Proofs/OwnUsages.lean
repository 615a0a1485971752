import Mutant.Proofs.Roles

/-!
When a renaming edits its own usages and no others. A parameter may be taken for another one of its
name and type; unless such a rival is declared beside it or in its scope, the references that the
first tier takes are exactly those that the resolution binds to the name.
-/

namespace Mutant

namespace Scope

open Cursor

theorem Visible.owner_of_role {file : SourceFile} (grammar : file.FollowsGrammar)
    {home reference name : Cursor} (placed : Reaches file.root home)
    (visible : Visible home reference name)
    (role : (Declaration.ofName file name).role = .parameter) :
    name ∈ home.declaredParameters ∨
      ∃ owner, home.kind.isClassBody = true ∧ home.parent = some owner ∧
        owner.kind = .recordDeclaration ∧ name ∈ owner.declaredParameters := by
  rcases visible.roleFits grammar placed with ⟨component, _⟩ | ⟨_, declares⟩
  · obtain ⟨body, owner, parent, record, declared⟩ := component.1
    exact Or.inr ⟨owner, body, parent, record, declared⟩
  -- Only lambdas, methods and constructors declare variables of this role.
  rw [role] at declares
  cases visible with
  | block kind => simp [Kind.declaredRole_of_isBlock kind] at declares
  | initial kind => simp [kind, Kind.declaredRole] at declares
  | loop kind => simp [kind, Kind.declaredRole] at declares
  | caught kind => simp [kind, Kind.declaredRole] at declares
  | resource kind => simp [kind, Kind.declaredRole] at declares
  | parameter _ declared => exact Or.inl declared
  | field kind => simp [Kind.declaredRole_of_isClassBody kind] at declares
  | component kind => simp [Kind.declaredRole_of_isClassBody kind] at declares

theorem mem_offered_of_declaredParameters {owner reference name : Cursor}
    (callable : owner.kind.isCallable = true ∨ owner.kind = .lambdaExpression)
    (inside : inBody owner reference = true) (declared : name ∈ owner.declaredParameters) :
    name ∈ offered owner reference := by
  rw [offered_of_isOwner callable, if_pos inside]
  exact declared

end Scope

namespace Rename

open Cursor Scope Candidate

/-- Another parameter with the name and the type of a candidate's, declared in the same list or
inside of the candidate's scope. -/
def Rival (file : SourceFile) (scope name other : Cursor) : Prop :=
  other.span ≠ name.span ∧ (Declaration.ofName file other).role = .parameter ∧
    file.text other = file.text name ∧
    (Declaration.ofName file other).descriptor = (Declaration.ofName file name).descriptor ∧
    ∃ owner ∈ file.root.walk, other ∈ owner.declaredParameters ∧
      (name ∈ owner.declaredParameters ∨ scope.span.contains other.span = true)

/-- On the way out, a reference with the name of a parameter does not get past the parameter's
owner. -/
theorem home_within_owner {file : SourceFile} {owner scope name reference home : Cursor}
    {inner outer : List Cursor}
    (callable : owner.kind.isCallable = true ∨ owner.kind = .lambdaExpression)
    (body : owner.childAt .body = some scope) (declared : name ∈ owner.declaredParameters)
    (reaches : Reaches scope reference) (inside : scope.span.contains reference.span = true)
    (alike : file.text name = file.text reference)
    (divided : reference.ancestors = inner ++ home :: outer)
    (innerNone : ∀ other ∈ inner, lookup file other reference (file.text reference) = none) :
    Reaches scope home ∨ home = owner := by
  obtain ⟨bodyNode, bodyIn, _, rfl⟩ := childAt_eq_some body
  have homeIn : home ∈ reference.ancestors := by
    rw [divided]
    exact List.mem_append_right _ List.mem_cons_self
  have ownerIn : owner ∈ reference.ancestors := reaches.ancestors_subset List.mem_cons_self
  rcases reaches.mem_ancestors homeIn with below | above
  · exact Or.inl below
  · rcases List.mem_cons.mp above with same | higher
    · exact Or.inr same
    · have none := innerNone owner (mem_inner_of_mem_ancestors divided ownerIn higher)
      have within : inBody owner reference = true := by
        simpa [inBody, body] using inside
      rw [← alike] at none
      exact absurd none
        (lookup_ne_none (mem_offered_of_declaredParameters callable within declared))

theorem declared_in_scope {file : SourceFile} (wellFormed : file.WellFormed)
    {scope holder other : Cursor} (scopePlaced : Reaches file.root scope)
    (below : Reaches scope holder) (declared : other ∈ holder.declaredParameters) :
    scope.span.contains other.span = true :=
  Span.contains_iff.mpr (wellFormed.contains_of_reaches scopePlaced
    (below.trans (parameter_of_mem declared).reaches))

theorem binder_eq_of_alike {file : SourceFile} (wellFormed : file.WellFormed)
    (grammar : file.FollowsGrammar) {scope name reference found : Cursor}
    (renames : Renames file .parameter scope name)
    (alone : ∀ other, ¬Rival file scope name other)
    (refers : reference ∈ file.root.references)
    (inside : scope.span.contains reference.span = true)
    (bound : binder file reference = some found)
    (role : (Declaration.ofName file found).role = .parameter)
    (alike : file.text found = file.text name)
    (descriptor :
      (Declaration.ofName file found).descriptor = (Declaration.ofName file name).descriptor) :
    found = name := by
  obtain ⟨placed, isReference⟩ := mem_references.mp refers
  obtain ⟨foundPlaced, foundIsName⟩ := binder_placed placed bound
  have scopePlaced := renames.scope_placed
  by_contra different
  have apart : found.span ≠ name.span := fun same =>
    different (wellFormed.eq_of_start_eq foundIsName renames.isName foundPlaced renames.name_placed
      (congrArg Span.start same))
  -- Any other binder would be a rival, wherever it is declared.
  have noList : ∀ owner, Reaches file.root owner → found ∈ owner.declaredParameters →
      ¬(name ∈ owner.declaredParameters ∨ scope.span.contains found.span = true) :=
    fun owner ownerPlaced declared near => alone found
      ⟨apart, role, alike, descriptor, owner, mem_walk.mpr ownerPlaced, declared, near⟩
  have noListBelow : ∀ holder, Reaches scope holder → found ∉ holder.declaredParameters :=
    fun holder below declared => noList holder (scopePlaced.trans below) declared
      (Or.inr (declared_in_scope wellFormed scopePlaced below declared))
  obtain ⟨inner, home, outer, divided, innerNone, homePlaced, _, visible⟩ := binder_home placed bound
  have source := visible.owner_of_role grammar homePlaced role
  have reaches : Reaches scope reference :=
    wellFormed.reaches_of_contains (isName_of_isReference isReference) scopePlaced placed inside
  cases renames with
  | @parameter owner _ _ ownerPlaced callable body declared =>
    obtain ⟨owns, noRecord⟩ := owns_of_callable callable
    rcases home_within_owner callable body declared reaches inside
      (alike.symm.trans (text_of_binder bound)) divided innerNone with below | rfl
    · rcases source with own | ⟨record, _, parent, kind, component⟩
      · exact noListBelow home below own
      · -- The record stands in the scope as well, as the scope is the body of a callable.
        cases below with
        | here =>
          obtain ⟨bodyNode, _, _, rfl⟩ := childAt_eq_some body
          rw [down_parent, Option.some_inj] at parent
          exact noRecord (parent ▸ kind)
        | down upper _ =>
          rw [down_parent, Option.some_inj] at parent
          exact noListBelow record (parent ▸ upper) component
    · rcases source with own | ⟨_, classBody, _⟩
      · exact noList home ownerPlaced own (Or.inl declared)
      · rw [not_owns_of_isClassBody classBody] at owns
        exact absurd owns (by decide)

/-- The usages of a renaming are its own: a reference is one exactly when the resolution binds it to
the renamed name. -/
theorem mem_usages_iff_binder {file : SourceFile} (wellFormed : file.WellFormed)
    (grammar : file.FollowsGrammar) {family : Family} {scope name reference : Cursor}
    (renames : Renames file family scope name)
    (alone : family = .parameter → ∀ other, ¬Rival file scope name other)
    (tier : (usages file true scope (Declaration.ofName file name)).2 = .identity ∨
      (usages file true scope (Declaration.ofName file name)).1 = [])
    (refers : reference ∈ file.root.references) :
    reference ∈ (usages file true scope (Declaration.ofName file name)).1 ↔
      binder file reference = some name := by
  have placed := (mem_references.mp refers).1
  have denotes_of_binder := mem_denoting_of_binder wellFormed renames refers
  rcases usages_cases file scope (Declaration.ofName file name) with ⟨_, identity⟩ | ⟨none, lexical⟩
  · rw [identity]
    refine (mem_identityUsages wellFormed).trans ⟨fun denoted => ?_, denotes_of_binder⟩
    obtain ⟨_, inside, found, resolved, rfl | ⟨role, foundRole, alike, descriptor⟩⟩ :=
      mem_denoting.mp denoted
    · exact (resolve_eq_some_iff wellFormed placed renames.name_placed renames.isName).mp resolved
    · obtain ⟨other, bound, rfl⟩ := Option.map_eq_some_iff.mp resolved
      rw [ofName_name, ofName_name] at alike
      cases family with
      | localVariable =>
        rw [role_of_localVariable renames] at role
        exact absurd role (by decide)
      | parameter =>
        rw [bound, binder_eq_of_alike wellFormed grammar renames (alone rfl) refers inside bound
          foundRole alike descriptor]
      | conditional => cases renames
  · have empty : lexicalUsages file scope (Declaration.ofName file name).name = [] := by
      rw [lexical] at tier
      exact tier.resolve_left (by simp)
    rw [lexical, empty]
    refine iff_of_false List.not_mem_nil fun bound => ?_
    have denoted := denotes_of_binder bound
    rw [none] at denoted
    exact absurd denoted List.not_mem_nil

end Rename

end Mutant
