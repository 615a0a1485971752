import Mutant.Candidate
import Mutant.Proofs.Visibility

/-!
The candidates for a renaming. Each has the name of a local variable with the nearest block around
it, or the name of a parameter with the body of its owner, and that scope encloses whatever the
resolution can bind to the name.
-/

namespace Mutant

namespace Cursor

theorem eq_down_of_parent {cursor parent : Cursor} (above : cursor.parent = some parent) :
    cursor = parent.down cursor.node := by
  obtain ⟨node, ancestors⟩ := cursor
  cases ancestors with
  | nil => simp [Cursor.parent] at above
  | cons first rest =>
    rw [Cursor.parent, Option.some_inj] at above
    rw [← above]
    rfl

end Cursor

def Kind.ownsParameters : Kind → Bool
  | .methodDeclaration | .constructorDeclaration | .lambdaExpression | .recordDeclaration => true
  | _ => false

namespace Candidate

open Cursor Scope

/-- The scope and the name of a candidate of each family of renamings. -/
inductive Renames (file : SourceFile) : Family → Cursor → Cursor → Prop where
  | localVariable {statement scope : Cursor} {declarator name : Node} :
      Reaches file.root (statement.down declarator) →
      statement.kind = .localVariableDeclaration → declarator.kind = .variableDeclarator →
      (statement.down declarator).enclosing Kind.blocks = some scope →
      name ∈ declarator.children → name.field = some .name →
      Renames file .localVariable scope ((statement.down declarator).down name)
  | parameter {owner scope name : Cursor} : Reaches file.root owner →
      owner.kind.isCallable = true ∨ owner.kind = .lambdaExpression →
      owner.childAt .body = some scope → name ∈ owner.declaredParameters →
      Renames file .parameter scope name

theorem renames_of_localVariable? {file : SourceFile} {marker : Bytes} {cursor name : Cursor}
    {candidate : Candidate} (placed : Reaches file.root cursor)
    (found : localVariable? file marker cursor = some candidate)
    (named : candidate.name = some name) :
    Renames file .localVariable candidate.scope name := by
  unfold localVariable? at found
  split at found
  next declares =>
    simp only [Bool.and_eq_true, beq_iff_eq] at declares
    split at found
    next block child enclosing nameChild =>
      split at found
      · exact absurd found (by simp)
      · obtain ⟨declarator, above⟩ := declares
        cases parent : cursor.parent with
        | none => simp [parent] at above
        | some statement =>
          rw [Option.some_inj] at found
          subst found
          rw [Option.some_inj] at named
          subst named
          obtain ⟨nameNode, nameIn, field, rfl⟩ := childAt_eq_some nameChild
          have shape := eq_down_of_parent parent
          rw [shape] at placed enclosing ⊢
          exact .localVariable placed (by simpa [parent] using above) declarator enclosing nameIn field
    next => exact absurd found (by simp)
  next => exact absurd found (by simp)

theorem renames_of_mem_parametersOf {file : SourceFile} {marker : Bytes} {owner name : Cursor}
    {candidate : Candidate} (placed : Reaches file.root owner)
    (found : candidate ∈ parametersOf file marker owner) (named : candidate.name = some name) :
    Renames file .parameter candidate.scope name := by
  unfold parametersOf at found
  split at found
  next kind =>
    split at found
    next => exact absurd found List.not_mem_nil
    next body bodyFound =>
      obtain ⟨parameter, member, rfl⟩ := List.mem_map.mp found
      rw [Option.some_inj] at named
      subst named
      exact .parameter placed (by simpa using kind) bodyFound (List.mem_filter.mp member).1
  next => exact absurd found List.not_mem_nil

theorem renames_of_mem_select {file : SourceFile} {marker : Bytes} {family : Family}
    {candidate : Candidate} {name : Cursor} (chosen : candidate ∈ select file marker family)
    (named : candidate.name = some name) : Renames file family candidate.scope name := by
  cases family with
  | localVariable =>
    obtain ⟨cursor, member, found⟩ := List.mem_filterMap.mp chosen
    exact renames_of_localVariable? (mem_walk.mp member) found named
  | parameter =>
    obtain ⟨owner, member, found⟩ := List.mem_flatMap.mp chosen
    exact renames_of_mem_parametersOf (mem_walk.mp member) found named
  | conditional =>
    obtain ⟨cursor, _, rfl⟩ := List.mem_map.mp chosen
    exact absurd named (by simp)

theorem enclosing_down {cursor : Cursor} {child : Node} (other : cursor.kind.isBlock = false) :
    (cursor.down child).enclosing Kind.blocks = cursor.enclosing Kind.blocks := by
  have skipped : Kind.blocks.contains cursor.kind = false := other
  simp only [enclosing, down_ancestors, List.find?_cons, skipped]

theorem enclosing_down_block {cursor : Cursor} {child : Node} (block : cursor.kind.isBlock = true) :
    (cursor.down child).enclosing Kind.blocks = some cursor := by
  have taken : Kind.blocks.contains cursor.kind = true := block
  simp only [enclosing, down_ancestors, List.find?_cons, taken]

theorem not_parameter {owner statement : Cursor} {declarator name : Node}
    (declaration : statement.kind = .localVariableDeclaration)
    (declares : declarator.kind = .variableDeclarator) (other : owner.kind ≠ .variableDeclarator) :
    ¬Parameter owner ((statement.down declarator).down name) := by
  intro parameter
  generalize same : (statement.down declarator).down name = found at parameter
  cases parameter with
  | bare =>
    obtain ⟨rfl, -⟩ := down_inj.mp same
    exact other declares
  | inferred _ _ kind =>
    simp only [down_inj] at same
    obtain ⟨⟨-, rfl⟩, -⟩ := same
    exact absurd (declares.symm.trans kind) (by decide)
  | plain _ _ _ kind =>
    simp only [down_inj] at same
    obtain ⟨⟨-, rfl⟩, -⟩ := same
    exact absurd (declares.symm.trans kind) (by decide)
  | spread _ _ _ kind =>
    simp only [down_inj] at same
    obtain ⟨⟨rfl, -⟩, -⟩ := same
    exact absurd (declaration.symm.trans kind) (by decide)

theorem localVariable_offered {statement home scope reference : Cursor} {declarator name : Node}
    (declaration : statement.kind = .localVariableDeclaration)
    (declares : declarator.kind = .variableDeclarator)
    (enclosing : (statement.down declarator).enclosing Kind.blocks = some scope)
    (visible : Visible home reference ((statement.down declarator).down name)) :
    home = scope ∨ scope ∈ home.ancestors := by
  rw [enclosing_down (by rw [declaration]; decide)] at enclosing
  -- Only blocks and loops declare by such a statement; the kinds rule the others out.
  cases visible with
  | block isBlock member _ declared =>
    obtain ⟨_, _, _, _, _, _, same⟩ := mem_declaratorNames declared
    simp only [down_inj] at same
    obtain ⟨⟨rfl, -⟩, -⟩ := same
    obtain ⟨child, _, rfl | ⟨group, inner, _, rfl⟩⟩ := mem_statements member
    · rw [enclosing_down_block isBlock] at enclosing
      exact Or.inl (Option.some_inj.mp enclosing)
    · rw [enclosing_down (by rw [down_kind, group]; decide), enclosing_down_block isBlock] at enclosing
      exact Or.inl (Option.some_inj.mp enclosing)
  | initial isFor member _ declared =>
    obtain ⟨_, _, _, _, _, _, same⟩ := mem_declaratorNames declared
    simp only [down_inj] at same
    obtain ⟨⟨rfl, -⟩, -⟩ := same
    obtain ⟨child, _, _, rfl⟩ := mem_childrenAt member
    rw [enclosing_down (by rw [isFor]; decide)] at enclosing
    exact Or.inr (List.mem_of_find?_eq_some enclosing)
  | loop isLoop found =>
    obtain ⟨_, _, _, same⟩ := childAt_eq_some found
    obtain ⟨rfl, -⟩ := down_inj.mp same
    rw [down_kind, declares] at isLoop
    exact absurd isLoop (by decide)
  | caught _ first found =>
    have isCaught := (caught_of_find? first).2
    obtain ⟨_, _, _, same⟩ := childAt_eq_some found
    obtain ⟨rfl, -⟩ := down_inj.mp same
    rw [down_kind, declares] at isCaught
    exact absurd isCaught (by decide)
  | resource _ _ _ isResource found =>
    obtain ⟨_, _, _, same⟩ := childAt_eq_some found
    obtain ⟨rfl, -⟩ := down_inj.mp same
    rw [down_kind, declares] at isResource
    exact absurd isResource (by decide)
  | parameter isOwner declared =>
    refine absurd (parameter_of_mem declared) (not_parameter declaration declares ?_)
    rintro same
    rw [same] at isOwner
    exact absurd isOwner (by decide)
  | field _ _ isMember declared =>
    obtain ⟨_, _, _, _, _, _, same⟩ := mem_declaratorNames declared
    simp only [down_inj] at same
    obtain ⟨⟨rfl, -⟩, -⟩ := same
    rw [declaration] at isMember
    exact absurd isMember (by decide)
  | component _ _ isRecord declared =>
    refine absurd (parameter_of_mem declared) (not_parameter declaration declares ?_)
    rw [isRecord]
    decide

def ownerOf (name : Cursor) : Option Cursor :=
  name.parent.bind fun parent =>
    match parent.kind with
    | .inferredParameters => parent.parent
    | .formalParameter => parent.parent.bind (·.parent)
    | .variableDeclarator => (parent.parent.bind (·.parent)).bind (·.parent)
    | _ => some parent

theorem ownerOf_eq {owner name : Cursor} (owns : owner.kind.ownsParameters = true)
    (parameter : Parameter owner name) : ownerOf name = some owner := by
  cases parameter with
  | bare =>
    unfold ownerOf
    rw [down_parent, Option.bind_some]
    split
    next kind => simp [kind, Kind.ownsParameters] at owns
    next kind => simp [kind, Kind.ownsParameters] at owns
    next kind => simp [kind, Kind.ownsParameters] at owns
    next => rfl
  | inferred _ _ kind => simp [ownerOf, kind]
  | plain _ _ _ kind => simp [ownerOf, kind]
  | spread _ _ _ _ _ kind => simp [ownerOf, kind]

/-- No declaration of variables declares a parameter, unless it stands in the list of parameters. -/
theorem not_parameter_of_declarator {owner statement name : Cursor}
    (owns : owner.kind.ownsParameters = true) (parameter : Parameter owner name)
    (declared : name ∈ statement.declaratorNames)
    (declaration : statement.kind = .localVariableDeclaration ∨
      statement.kind = .fieldDeclaration ∨ statement.kind = .constantDeclaration)
    (outside : ∀ parent, statement.parent = some parent → parent.kind.ownsParameters = false) :
    False := by
  obtain ⟨declarator, _, _, child, _, field, rfl⟩ := mem_declaratorNames declared
  generalize same : (statement.down declarator).down child = found at parameter
  cases parameter with
  | bare _ listField =>
    obtain ⟨-, rfl⟩ := down_inj.mp same
    rw [field] at listField
    exact absurd listField (by decide)
  | inferred =>
    simp only [down_inj] at same
    rw [← same.1.1] at owns
    rcases declaration with kind | kind | kind <;> simp [kind, Kind.ownsParameters] at owns
  | plain =>
    simp only [down_inj] at same
    have noOwner := outside owner (by rw [same.1.1, down_parent])
    exact absurd (noOwner.symm.trans owns) (by decide)
  | spread _ _ _ kind =>
    simp only [down_inj] at same
    rw [same.1.1, down_kind, kind] at declaration
    exact absurd declaration (by decide)

theorem owns_of_callable {owner : Cursor}
    (kind : owner.kind.isCallable = true ∨ owner.kind = .lambdaExpression) :
    owner.kind.ownsParameters = true ∧ owner.kind ≠ .recordDeclaration := by
  unfold Kind.isCallable at kind
  unfold Kind.ownsParameters
  split at kind <;> simp_all

theorem not_owns_of_isBlock {kind : Kind} (block : kind.isBlock = true) :
    kind.ownsParameters = false := by
  cases kind <;> first | rfl | exact absurd block (by decide)

theorem not_owns_of_isClassBody {kind : Kind} (body : kind.isClassBody = true) :
    kind.ownsParameters = false := by
  unfold Kind.isClassBody at body
  split at body
  · rfl
  · rfl
  · rfl
  · rfl
  · exact absurd body (by decide)

theorem not_owner_of_childAt {owner parent name : Cursor} (owns : owner.kind.ownsParameters = true)
    (parameter : Parameter owner name) (found : parent.childAt .name = some name)
    (other : parent.kind = .enhancedForStatement ∨ parent.kind = .catchFormalParameter ∨
      parent.kind = .resource) : False := by
  obtain ⟨child, _, _, rfl⟩ := childAt_eq_some found
  have same := ownerOf_eq owns parameter
  rw [ownerOf, down_parent, Option.bind_some] at same
  rcases other with kind | kind | kind
  all_goals
    rw [kind] at same
    rw [← Option.some_inj.mp same, kind] at owns
    exact absurd owns (by decide)

theorem parameter_offered {owner home reference name : Cursor}
    (callable : owner.kind.isCallable = true ∨ owner.kind = .lambdaExpression)
    (parameter : Parameter owner name) (visible : Visible home reference name) :
    home = owner ∧ inBody owner reference = true := by
  obtain ⟨owns, noRecord⟩ := owns_of_callable callable
  -- A name that another construct declares has another kind of node above it.
  cases visible with
  | block isBlock member declaration declared =>
    refine (not_parameter_of_declarator owns parameter declared (Or.inl declaration) ?_).elim
    intro parent above
    obtain ⟨child, _, rfl | ⟨group, inner, _, rfl⟩⟩ := mem_statements member
    · rw [← Option.some_inj.mp above]
      exact not_owns_of_isBlock isBlock
    · rw [← Option.some_inj.mp above]
      exact congrArg Kind.ownsParameters group
  | initial isFor member declaration declared =>
    refine (not_parameter_of_declarator owns parameter declared (Or.inl declaration) ?_).elim
    intro parent above
    obtain ⟨child, _, _, rfl⟩ := mem_childrenAt member
    rw [← Option.some_inj.mp above]
    exact congrArg Kind.ownsParameters isFor
  | loop isLoop found =>
    exact (not_owner_of_childAt owns parameter found (Or.inl isLoop)).elim
  | caught _ first found =>
    have isCaught := (caught_of_find? first).2
    exact (not_owner_of_childAt owns parameter found (Or.inr (Or.inl isCaught))).elim
  | resource _ _ _ isResource found =>
    exact (not_owner_of_childAt owns parameter found (Or.inr (Or.inr isResource))).elim
  | parameter isOwner declared inside =>
    have same := ownerOf_eq (owns_of_callable isOwner).1 (parameter_of_mem declared)
    rw [ownerOf_eq owns parameter, Option.some_inj] at same
    rw [same]
    exact ⟨rfl, inside⟩
  | field isBody member declaration declared =>
    refine (not_parameter_of_declarator owns parameter declared (Or.inr declaration) ?_).elim
    intro parent above
    obtain ⟨child, _, rfl⟩ := mem_namedChildren member
    rw [← Option.some_inj.mp above]
    exact not_owns_of_isClassBody isBody
  | component _ _ isRecord declared =>
    have same := ownerOf_eq (by rw [isRecord]; rfl) (parameter_of_mem declared)
    rw [ownerOf_eq owns parameter, Option.some_inj] at same
    rw [same] at noRecord
    exact absurd isRecord noRecord

namespace Renames

variable {file : SourceFile} {family : Family} {scope name : Cursor}
  (renames : Renames file family scope name)

include renames

theorem name_placed : Reaches file.root name := by
  cases renames with
  | localVariable placed _ _ _ nameIn => exact placed.down nameIn
  | parameter placed _ _ declared => exact placed.trans (parameter_of_mem declared).reaches

theorem isName : name.isName = true := by
  cases renames with
  | localVariable _ _ declarator _ _ field =>
    exact isName_down_declaresAs (by simp [Node.declaresAs, field, declarator, Kind.declaresByName])
  | parameter _ _ _ declared => exact (parameter_of_mem declared).isName

theorem scope_placed : Reaches file.root scope := by
  cases renames with
  | localVariable placed _ _ enclosing =>
    exact (reaches_of_mem_ancestors placed rfl (List.mem_of_find?_eq_some enclosing)).1
  | parameter placed _ body => exact placed.trans (reaches_of_childAt body)

theorem not_isReference (grammar : file.FollowsGrammar) : name.isReference = false := by
  cases renames with
  | localVariable _ _ declarator _ nameIn field =>
    exact not_isReference_of_namingFields nameIn field (by rw [down_kind, declarator]; decide)
  | parameter placed callable _ declared =>
    exact not_isReference_of_mem_declaredParameters grammar placed (callable.imp_left Or.inl) declared

/-- A declaring name within the scope is no use of a variable: the names of parameters stand outside of
the body, and the others are names of declarators. -/
theorem not_isReference_of_contains (wellFormed : file.WellFormed)
    (inside : scope.span.contains name.span = true) : name.isReference = false := by
  cases renames with
  | localVariable _ _ declarator _ nameIn field =>
    exact not_isReference_of_namingFields nameIn field (by rw [down_kind, declarator]; decide)
  | @parameter owner _ _ placed _ body declared =>
    have parameter := parameter_of_mem declared
    obtain ⟨list, listIn, listField, below⟩ := parameter.below_list
    obtain ⟨bodyNode, bodyIn, bodyField, rfl⟩ := childAt_eq_some body
    have different : list ≠ bodyNode := by
      rintro rfl
      rw [listField] at bodyField
      exact absurd bodyField (by decide)
    have siblings : owner.node.children.Pairwise Node.Apart :=
      (wellFormed.ordered owner (mem_walk.mpr placed)).imp Or.inl
    have apart : list.stop ≤ bodyNode.start ∨ bodyNode.stop ≤ list.start :=
      siblings.forall listIn bodyIn different
    have within := wellFormed.contains_of_reaches (placed.down listIn) below
    have nonempty := wellFormed.name_nonempty parameter.isName (placed.trans parameter.reaches)
    rw [Span.contains_iff] at inside
    change list.start ≤ name.start ∧ name.stop ≤ list.stop at within
    change bodyNode.start ≤ name.start ∧ name.stop ≤ bodyNode.stop at inside
    omega

/-- Whatever the resolution binds to the name lies in the scope of the candidate. -/
theorem contains_of_binder (wellFormed : file.WellFormed) {reference : Cursor}
    (placed : Reaches file.root reference) (bound : binder file reference = some name) :
    scope.span.contains reference.span = true := by
  obtain ⟨_, home, _, _, _, homePlaced, homeReaches, visible⟩ := binder_home placed bound
  have scopePlaced := renames.scope_placed
  cases renames with
  | localVariable _ declaration declarator enclosing =>
    have reaches : Reaches scope reference := by
      rcases localVariable_offered declaration declarator enclosing visible with rfl | scopeIn
      · exact homeReaches
      · exact (reaches_of_mem_ancestors homePlaced rfl scopeIn).2.trans homeReaches
    exact Span.contains_iff.mpr (wellFormed.contains_of_reaches scopePlaced reaches)
  | parameter _ callable body declared =>
    obtain ⟨rfl, inside⟩ := parameter_offered callable (parameter_of_mem declared) visible
    simpa [inBody, body] using inside

end Renames

end Candidate

end Mutant
