import Mutant.Binding.Scope
import Mutant.Proofs.WellFormed

/-!
Which declaring names a construct offers at a reference. A lookup chooses among the offered names
with the text of the reference, and every offered name stands in one of a few places below the
construct.
-/

namespace Mutant.Scope

open Cursor

def declaredBefore (reference : Cursor) (statements : List Cursor) : List Cursor :=
  ((statements.filter (·.kind == .localVariableDeclaration)).flatMap (·.declaratorNames)).filter
    fun name => name.stop ≤ reference.start

/-- The declaring names that are visible at a reference inside of a construct, whatever their
text. -/
def offered (scope reference : Cursor) : List Cursor :=
  match scope.kind with
  | .block | .constructorBody | .switchBlock =>
      declaredBefore reference
        (scope.statements.takeWhile fun statement => statement.start < reference.start)
  | .forStatement => declaredBefore reference (scope.childrenAt .initial)
  | .enhancedForStatement =>
      if inBody scope reference then (scope.childAt .name).toList else []
  | .catchClause => if inBody scope reference then (caughtName scope).toList else []
  | .tryWithResourcesStatement =>
      (resourceNames scope).filter fun name => name.stop ≤ reference.start
  | .lambdaExpression | .methodDeclaration | .constructorDeclaration =>
      if inBody scope reference then scope.declaredParameters else []
  | .classBody | .interfaceBody | .enumBody | .enumBodyDeclarations => memberNames scope
  | _ => []

theorem offered_of_isBlock {scope : Cursor} (block : scope.kind.isBlock = true)
    (reference : Cursor) :
    offered scope reference = declaredBefore reference
      (scope.statements.takeWhile fun statement => statement.start < reference.start) := by
  have kinds : scope.kind = .block ∨ scope.kind = .constructorBody ∨ scope.kind = .switchBlock := by
    simpa [Kind.isBlock, Kind.blocks] using block
  unfold offered
  rcases kinds with kind | kind | kind <;> rw [kind]

theorem offered_of_isOwner {scope : Cursor}
    (owner : scope.kind.isCallable = true ∨ scope.kind = .lambdaExpression) (reference : Cursor) :
    offered scope reference = if inBody scope reference then scope.declaredParameters else [] := by
  have kinds : scope.kind = .methodDeclaration ∨ scope.kind = .constructorDeclaration ∨
      scope.kind = .lambdaExpression := by
    rcases owner with callable | lambda
    · unfold Kind.isCallable at callable
      split at callable <;> simp_all
    · exact Or.inr (Or.inr lambda)
  unfold offered
  rcases kinds with kind | kind | kind <;> rw [kind]

theorem offered_of_isClassBody {scope : Cursor} (body : scope.kind.isClassBody = true)
    (reference : Cursor) : offered scope reference = memberNames scope := by
  unfold Kind.isClassBody at body
  unfold offered
  split at body <;> simp_all

/-- Of the names that are alike, a block takes the last one, and any other construct the first. -/
def choose (kind : Kind) (names : List Cursor) : Option Cursor :=
  if kind.isBlock then names.getLast? else names.head?

theorem mem_of_choose {kind : Kind} {names : List Cursor} {name : Cursor}
    (chosen : choose kind names = some name) : name ∈ names := by
  unfold choose at chosen
  split at chosen
  · exact List.mem_of_getLast? chosen
  · exact List.mem_of_head? chosen

theorem choose_eq_none_iff {kind : Kind} {names : List Cursor} :
    choose kind names = none ↔ names = [] := by
  unfold choose
  split
  · exact List.getLast?_eq_none_iff
  · exact List.head?_eq_none_iff

theorem choose_map (kind : Kind) (names : List Cursor) (move : Cursor → Cursor) :
    choose kind (names.map move) = (choose kind names).map move := by
  unfold choose
  split
  · exact List.getLast?_map
  · exact List.head?_map

theorem choose_filter {kind : Kind} {names : List Cursor} {keep : Cursor → Bool}
    (kept : ∀ name, choose kind names = some name → keep name = true) :
    choose kind (names.filter keep) = choose kind names := by
  unfold choose at kept ⊢
  split
  next last =>
    simp only [last, if_true] at kept
    rcases List.eq_nil_or_concat names with rfl | ⟨rest, name, rfl⟩
    · rfl
    · have stays := kept name (by simp)
      simp [List.filter_append, stays]
  next first =>
    simp only [first] at kept
    cases names with
    | nil => rfl
    | cons name rest =>
      have stays := kept name rfl
      simp [stays]

theorem filter_declaredBefore (file : SourceFile) (reference : Cursor) (name : Bytes)
    (statements : List Cursor) :
    (declaredBefore reference statements).filter (fun found => file.text found == name) =
      ((statements.filter (·.kind == .localVariableDeclaration)).flatMap
        (·.declaratorNames)).filter (isEarlier file reference name) := by
  rw [declaredBefore, List.filter_filter]
  rfl

theorem inBlock_eq_getLast? (file : SourceFile) (scope reference : Cursor) (name : Bytes) :
    inBlock file scope reference name =
      ((declaredBefore reference (scope.statements.takeWhile fun statement =>
        statement.start < reference.start)).filter fun found =>
          file.text found == name).getLast? := by
  rw [filter_declaredBefore]
  rfl

theorem inFor_eq_head? (file : SourceFile) (scope reference : Cursor) (name : Bytes) :
    inFor file scope reference name =
      ((declaredBefore reference (scope.childrenAt .initial)).filter fun found =>
        file.text found == name).head? := by
  rw [filter_declaredBefore, List.head?_filter]
  rfl

theorem throughBody_eq_head? (file : SourceFile) (scope reference : Cursor) (name : Bytes)
    (candidates : List Cursor) :
    throughBody file scope reference name candidates =
      ((if inBody scope reference then candidates else []).filter fun found =>
        file.text found == name).head? := by
  unfold throughBody
  split
  · exact List.head?_filter.symm
  · rfl

theorem lookup_eq_choose (file : SourceFile) (scope reference : Cursor) (name : Bytes) :
    lookup file scope reference name =
      choose scope.kind ((offered scope reference).filter fun found => file.text found == name) := by
  unfold lookup offered
  split <;> try simp only [*]
  case h_1 | h_2 | h_3 => exact inBlock_eq_getLast? file scope reference name
  case h_4 => exact inFor_eq_head? file scope reference name
  case h_5 | h_6 | h_8 | h_9 | h_10 => exact throughBody_eq_head? file scope reference name _
  case h_7 =>
    rw [List.filter_filter]
    exact List.head?_filter.symm
  case h_11 | h_12 | h_13 | h_14 => exact List.head?_filter.symm
  case h_15 => exact (choose_eq_none_iff.mpr rfl).symm

theorem lookup_eq_some {file : SourceFile} {scope reference found : Cursor} {name : Bytes}
    (bound : lookup file scope reference name = some found) :
    found ∈ offered scope reference ∧ file.text found = name := by
  rw [lookup_eq_choose] at bound
  simpa using List.mem_filter.mp (mem_of_choose bound)

theorem lookup_ne_none {file : SourceFile} {scope reference found : Cursor}
    (visible : found ∈ offered scope reference) :
    lookup file scope reference (file.text found) ≠ none := by
  rw [lookup_eq_choose, ne_eq, choose_eq_none_iff]
  exact List.ne_nil_of_mem (List.mem_filter.mpr ⟨visible, beq_self_eq_true _⟩)

/-- The construct that binds a reference is the first on the way out that offers its name. -/
theorem binder_eq_some_iff {file : SourceFile} {reference name : Cursor} :
    binder file reference = some name ↔
      ∃ inner scope outer, reference.ancestors = inner ++ scope :: outer ∧
        lookup file scope reference (file.text reference) = some name ∧
        ∀ other ∈ inner, lookup file other reference (file.text reference) = none :=
  List.findSome?_eq_some_iff

inductive Parameter (owner : Cursor) : Cursor → Prop where
  | bare {list : Node} : list ∈ owner.node.children → list.field = some .parameters →
      list.kind = .identifier → Parameter owner (owner.down list)
  | inferred {list name : Node} : list ∈ owner.node.children → list.field = some .parameters →
      list.kind = .inferredParameters → name ∈ list.children → name.kind = .identifier →
      Parameter owner ((owner.down list).down name)
  | plain {list parameter name : Node} : list ∈ owner.node.children →
      list.field = some .parameters → parameter ∈ list.children →
      parameter.kind = .formalParameter → name ∈ parameter.children → name.field = some .name →
      Parameter owner (((owner.down list).down parameter).down name)
  | spread {list parameter declarator name : Node} : list ∈ owner.node.children →
      list.field = some .parameters → parameter ∈ list.children →
      parameter.kind = .spreadParameter → declarator ∈ parameter.children →
      declarator.kind = .variableDeclarator → name ∈ declarator.children →
      name.field = some .name →
      Parameter owner ((((owner.down list).down parameter).down declarator).down name)

theorem parameter_of_mem {owner name : Cursor} (declared : name ∈ owner.declaredParameters) :
    Parameter owner name := by
  unfold declaredParameters at declared
  cases found : owner.childAt .parameters with
  | none => simp [found] at declared
  | some list =>
    obtain ⟨listNode, listIn, listField, rfl⟩ := childAt_eq_some found
    simp only [found, Option.map_some, Option.getD_some, parameterNames] at declared
    split at declared
    next kind =>
      rw [List.mem_singleton.mp declared]
      exact .bare listIn listField kind
    next kind =>
      obtain ⟨member, identifier⟩ := List.mem_filter.mp declared
      obtain ⟨child, childIn, rfl⟩ := mem_namedChildren member
      exact .inferred listIn listField kind childIn (by simpa using identifier)
    next =>
      obtain ⟨parameter, member, named⟩ := List.mem_filterMap.mp declared
      obtain ⟨parameterNode, parameterIn, rfl⟩ := mem_namedChildren member
      unfold parameterName at named
      split at named
      next kind =>
        obtain ⟨child, childIn, childField, rfl⟩ := childAt_eq_some named
        exact .plain listIn listField parameterIn kind childIn childField
      next kind =>
        obtain ⟨declarator, declaratorFound, declaratorNamed⟩ := Option.bind_eq_some_iff.mp named
        obtain ⟨declaratorNode, declaratorIn, rfl⟩ :=
          mem_namedChildren (List.mem_of_find?_eq_some declaratorFound)
        obtain ⟨child, childIn, childField, rfl⟩ := childAt_eq_some declaratorNamed
        exact .spread listIn listField parameterIn kind declaratorIn
          (by simpa using List.find?_some declaratorFound) childIn childField
      next => exact absurd named (by simp)

theorem mem_declaratorNames {declaration name : Cursor}
    (declared : name ∈ declaration.declaratorNames) :
    ∃ declarator ∈ declaration.node.children, declarator.field = some .declarator ∧
      ∃ child ∈ declarator.children, child.field = some .name ∧
        name = (declaration.down declarator).down child := by
  obtain ⟨declarator, member, named⟩ := List.mem_filterMap.mp declared
  obtain ⟨declaratorNode, declaratorIn, declaratorField, rfl⟩ := mem_childrenAt member
  obtain ⟨child, childIn, childField, rfl⟩ := childAt_eq_some named
  exact ⟨declaratorNode, declaratorIn, declaratorField, child, childIn, childField, rfl⟩

theorem mem_statements {block statement : Cursor} (member : statement ∈ block.statements) :
    ∃ child ∈ block.node.children, statement = block.down child ∨
      child.kind = .switchBlockStatementGroup ∧
        ∃ inner ∈ child.children, statement = (block.down child).down inner := by
  obtain ⟨child, childIn, inside⟩ := List.mem_flatMap.mp member
  obtain ⟨childNode, childMember, rfl⟩ := mem_namedChildren childIn
  refine ⟨childNode, childMember, ?_⟩
  split at inside
  next group =>
    obtain ⟨inner, innerIn, rfl⟩ := mem_namedChildren inside
    exact Or.inr ⟨by simpa using group, inner, innerIn, rfl⟩
  next => exact Or.inl (List.mem_singleton.mp inside)

/-- The declaring names that can be seen at a reference inside of a construct. In a block, in the head
of a loop and in a list of resources these are the names that end before the reference; what else a
construct declares can be seen throughout its body, and the fields and components of a class
everywhere in it. -/
inductive Visible (scope reference : Cursor) : Cursor → Prop where
  | block {statement name : Cursor} : scope.kind.isBlock = true →
      statement ∈ scope.statements → statement.kind = .localVariableDeclaration →
      name ∈ statement.declaratorNames → name.stop ≤ reference.start →
      Visible scope reference name
  | initial {statement name : Cursor} : scope.kind = .forStatement →
      statement ∈ scope.childrenAt .initial → statement.kind = .localVariableDeclaration →
      name ∈ statement.declaratorNames → name.stop ≤ reference.start →
      Visible scope reference name
  | loop {name : Cursor} : scope.kind = .enhancedForStatement →
      scope.childAt .name = some name → inBody scope reference = true →
      Visible scope reference name
  | caught {parameter name : Cursor} : scope.kind = .catchClause →
      scope.namedChildren.find? (·.kind == .catchFormalParameter) = some parameter →
      parameter.childAt .name = some name → inBody scope reference = true →
      Visible scope reference name
  | resource {list resource name : Cursor} : scope.kind = .tryWithResourcesStatement →
      scope.childAt .resources = some list → resource ∈ list.namedChildren →
      resource.kind = .resource → resource.childAt .name = some name →
      name.stop ≤ reference.start → Visible scope reference name
  | parameter {name : Cursor} : scope.kind.isCallable = true ∨ scope.kind = .lambdaExpression →
      name ∈ scope.declaredParameters → inBody scope reference = true →
      Visible scope reference name
  | field {member name : Cursor} : scope.kind.isClassBody = true →
      member ∈ scope.namedChildren →
      member.kind = .fieldDeclaration ∨ member.kind = .constantDeclaration →
      name ∈ member.declaratorNames → Visible scope reference name
  | component {owner name : Cursor} : scope.kind.isClassBody = true →
      scope.parent = some owner → owner.kind = .recordDeclaration →
      name ∈ owner.declaredParameters → Visible scope reference name

theorem mem_declaredBefore {reference name : Cursor} {statements : List Cursor} :
    name ∈ declaredBefore reference statements ↔
      ∃ statement ∈ statements, statement.kind = .localVariableDeclaration ∧
        name ∈ statement.declaratorNames ∧ name.stop ≤ reference.start := by
  simp only [declaredBefore, List.mem_filter, List.mem_flatMap, beq_iff_eq, decide_eq_true_eq]
  constructor
  · rintro ⟨⟨statement, ⟨statementIn, kind⟩, named⟩, early⟩
    exact ⟨statement, statementIn, kind, named, early⟩
  · rintro ⟨statement, statementIn, kind, named, early⟩
    exact ⟨⟨statement, ⟨statementIn, kind⟩, named⟩, early⟩

theorem mem_resourceNames {scope name : Cursor} :
    name ∈ resourceNames scope ↔
      ∃ list resource, scope.childAt .resources = some list ∧ resource ∈ list.namedChildren ∧
        resource.kind = .resource ∧ resource.childAt .name = some name := by
  unfold resourceNames
  cases scope.childAt .resources with
  | none => simp
  | some list => simp [List.mem_filterMap, and_assoc]

theorem visible_member {scope reference name : Cursor} (body : scope.kind.isClassBody = true)
    (member : name ∈ memberNames scope) : Visible scope reference name := by
  rcases List.mem_append.mp member with own | component
  · obtain ⟨declaration, declarationIn, declared⟩ := List.mem_flatMap.mp own
    obtain ⟨below, kind⟩ := List.mem_filter.mp declarationIn
    exact .field body below (by simpa using kind) declared
  · split at component
    next => exact absurd component List.not_mem_nil
    next owner parent =>
      split at component
      next record => exact .component body parent (by simpa using record) component
      next => exact absurd component List.not_mem_nil

theorem visible_of_mem {scope reference name : Cursor} (found : name ∈ offered scope reference) :
    Visible scope reference name := by
  unfold offered at found
  split at found
  case h_1 kind | h_2 kind | h_3 kind =>
    obtain ⟨statement, member, declaration, named, early⟩ := mem_declaredBefore.mp found
    exact .block (by rw [kind]; decide) (List.takeWhile_subset _ member) declaration named early
  case h_4 kind =>
    obtain ⟨statement, member, declaration, named, early⟩ := mem_declaredBefore.mp found
    exact .initial kind member declaration named early
  case h_5 kind =>
    split at found
    next inside => exact .loop kind (by simpa using found) inside
    next => exact absurd found List.not_mem_nil
  case h_6 kind =>
    split at found
    next inside =>
      obtain ⟨parameter, first, named⟩ := Option.bind_eq_some_iff.mp (Option.mem_toList.mp found)
      exact .caught kind first named inside
    next => exact absurd found List.not_mem_nil
  case h_7 kind =>
    obtain ⟨member, early⟩ := List.mem_filter.mp found
    obtain ⟨list, resource, listFound, below, isResource, named⟩ := mem_resourceNames.mp member
    exact .resource kind listFound below isResource named (by simpa using early)
  case h_8 kind =>
    split at found
    next inside => exact .parameter (Or.inr kind) found inside
    next => exact absurd found List.not_mem_nil
  case h_9 kind | h_10 kind =>
    split at found
    next inside => exact .parameter (Or.inl (by rw [kind]; rfl)) found inside
    next => exact absurd found List.not_mem_nil
  case h_11 kind | h_12 kind | h_13 kind | h_14 kind =>
    exact visible_member (by rw [kind]; rfl) found
  case h_15 => exact absurd found List.not_mem_nil

theorem caught_of_find? {scope parameter : Cursor}
    (first : scope.namedChildren.find? (·.kind == .catchFormalParameter) = some parameter) :
    parameter ∈ scope.namedChildren ∧ parameter.kind = .catchFormalParameter :=
  ⟨List.mem_of_find?_eq_some first, by simpa using List.find?_some first⟩

theorem Parameter.below_list {owner name : Cursor} (parameter : Parameter owner name) :
    ∃ list ∈ owner.node.children, list.field = some .parameters ∧
      Reaches (owner.down list) name := by
  cases parameter with
  | bare listIn field => exact ⟨_, listIn, field, .here⟩
  | inferred listIn field _ nameIn => exact ⟨_, listIn, field, .child nameIn⟩
  | plain listIn field parameterIn _ nameIn =>
    exact ⟨_, listIn, field, (Reaches.child parameterIn).down nameIn⟩
  | spread listIn field parameterIn _ declaratorIn _ nameIn =>
    exact ⟨_, listIn, field, ((Reaches.child parameterIn).down declaratorIn).down nameIn⟩

theorem Parameter.reaches {owner name : Cursor} (parameter : Parameter owner name) :
    Reaches owner name := by
  obtain ⟨list, listIn, _, below⟩ := parameter.below_list
  exact (Reaches.child listIn).trans below

theorem Parameter.isName {owner name : Cursor} (parameter : Parameter owner name) :
    name.isName = true := by
  cases parameter with
  | bare _ _ identifier => simp [Cursor.isName, identifier]
  | inferred _ _ _ _ identifier => simp [Cursor.isName, identifier]
  | plain _ _ _ kind _ field =>
    exact isName_down_declaresAs (by simp [Node.declaresAs, field, kind, Kind.declaresByName])
  | spread _ _ _ _ _ kind _ field =>
    exact isName_down_declaresAs (by simp [Node.declaresAs, field, kind, Kind.declaresByName])

theorem reaches_of_mem_declaratorNames {declaration name : Cursor}
    (declared : name ∈ declaration.declaratorNames) : Reaches declaration name := by
  obtain ⟨declarator, declaratorIn, _, child, childIn, _, rfl⟩ := mem_declaratorNames declared
  exact (Reaches.child declaratorIn).down childIn

theorem isName_of_mem_declaratorNames {declaration name : Cursor}
    (declared : name ∈ declaration.declaratorNames) : name.isName = true := by
  obtain ⟨declarator, _, declaratorField, child, _, field, rfl⟩ := mem_declaratorNames declared
  exact isName_down_declaresAs (by simp [Node.declaresAs, field, declaratorField])

theorem reaches_of_mem_statements {block statement : Cursor}
    (member : statement ∈ block.statements) : Reaches block statement := by
  obtain ⟨child, childIn, rfl | ⟨_, inner, innerIn, rfl⟩⟩ := mem_statements member
  · exact .child childIn
  · exact (Reaches.child childIn).down innerIn

theorem reaches_of_mem_namedChildren {cursor found : Cursor}
    (member : found ∈ cursor.namedChildren) : Reaches cursor found := by
  obtain ⟨child, childIn, rfl⟩ := mem_namedChildren member
  exact .child childIn

theorem reaches_of_childAt {cursor found : Cursor} {field : Field}
    (first : cursor.childAt field = some found) : Reaches cursor found := by
  obtain ⟨child, childIn, _, rfl⟩ := childAt_eq_some first
  exact .child childIn

theorem isName_of_childAt_name {cursor name : Cursor}
    (declares : cursor.kind.declaresByName = true) (first : cursor.childAt .name = some name) :
    name.isName = true := by
  obtain ⟨child, _, field, rfl⟩ := childAt_eq_some first
  have kind : cursor.node.kind.declaresByName = true := declares
  exact isName_down_declaresAs (by simp [Node.declaresAs, field, kind])

theorem Visible.reaches {scope reference name : Cursor} (visible : Visible scope reference name) :
    Reaches scope name ∨
      ∃ owner, scope.parent = some owner ∧ owner.kind = .recordDeclaration ∧
        name ∈ owner.declaredParameters := by
  cases visible with
  | block _ member _ declared =>
    exact Or.inl ((reaches_of_mem_statements member).trans (reaches_of_mem_declaratorNames declared))
  | initial _ member _ declared =>
    obtain ⟨child, childIn, _, rfl⟩ := mem_childrenAt member
    exact Or.inl ((Reaches.child childIn).trans (reaches_of_mem_declaratorNames declared))
  | loop _ found => exact Or.inl (reaches_of_childAt found)
  | caught _ first found =>
    exact Or.inl ((reaches_of_mem_namedChildren (caught_of_find? first).1).trans
      (reaches_of_childAt found))
  | resource _ list member _ found =>
    exact Or.inl (((reaches_of_childAt list).trans (reaches_of_mem_namedChildren member)).trans
      (reaches_of_childAt found))
  | parameter _ declared => exact Or.inl (parameter_of_mem declared).reaches
  | field _ member _ declared =>
    exact Or.inl ((reaches_of_mem_namedChildren member).trans
      (reaches_of_mem_declaratorNames declared))
  | component _ parent record declared => exact Or.inr ⟨_, parent, record, declared⟩

theorem Visible.isName {scope reference name : Cursor} (visible : Visible scope reference name) :
    name.isName = true := by
  cases visible with
  | block _ _ _ declared => exact isName_of_mem_declaratorNames declared
  | initial _ _ _ declared => exact isName_of_mem_declaratorNames declared
  | loop kind found => exact isName_of_childAt_name (by rw [kind]; rfl) found
  | caught _ first found =>
    exact isName_of_childAt_name (by rw [(caught_of_find? first).2]; rfl) found
  | resource _ _ _ kind found => exact isName_of_childAt_name (by rw [kind]; rfl) found
  | parameter _ declared => exact (parameter_of_mem declared).isName
  | field _ _ _ declared => exact isName_of_mem_declaratorNames declared
  | component _ _ _ declared => exact (parameter_of_mem declared).isName

theorem reaches_of_parent {root cursor parent : Cursor} (outermost : root.above = [])
    (placed : Reaches root cursor) (above : cursor.parent = some parent) : Reaches root parent := by
  cases placed with
  | here => simp [Cursor.parent, outermost] at above
  | down upper _ =>
    rw [down_parent, Option.some_inj] at above
    exact above ▸ upper

theorem Visible.placed {root scope reference name : Cursor} (outermost : root.above = [])
    (placed : Reaches root scope) (visible : Visible scope reference name) : Reaches root name := by
  rcases visible.reaches with below | ⟨owner, parent, _, declared⟩
  · exact placed.trans below
  · exact (reaches_of_parent outermost placed parent).trans (parameter_of_mem declared).reaches

/-- The construct that binds a reference encloses it and offers the name. -/
theorem binder_home {file : SourceFile} {reference name : Cursor}
    (placed : Reaches file.root reference) (bound : binder file reference = some name) :
    ∃ inner home outer, reference.ancestors = inner ++ home :: outer ∧
      (∀ other ∈ inner, lookup file other reference (file.text reference) = none) ∧
      Reaches file.root home ∧ Reaches home reference ∧ Visible home reference name := by
  obtain ⟨inner, home, outer, divided, found, innerNone⟩ := binder_eq_some_iff.mp bound
  have homeIn : home ∈ reference.ancestors := by
    rw [divided]
    exact List.mem_append_right _ List.mem_cons_self
  obtain ⟨homePlaced, reaches⟩ := reaches_of_mem_ancestors placed rfl homeIn
  exact ⟨inner, home, outer, divided, innerNone, homePlaced, reaches,
    visible_of_mem (lookup_eq_some found).1⟩

theorem not_isReference_of_namingFields {parent : Cursor} {child : Node} {field : Field}
    (member : child ∈ parent.node.children) (filled : child.field = some field)
    (naming : field ∈ parent.kind.namingFields) : (parent.down child).isReference = false := by
  have names : parent.node.namesIn child = true := by
    refine List.any_eq_true.mpr ⟨field, naming, List.any_eq_true.mpr ⟨child, ?_, ?_⟩⟩
    · exact List.mem_filter.mpr ⟨member, by simp [filled]⟩
    · simp [Node.same]
  simp [isReference, down, names]

theorem not_isReference_of_childAt_name {parent name : Cursor}
    (found : parent.childAt .name = some name) (naming : .name ∈ parent.kind.namingFields) :
    name.isReference = false := by
  obtain ⟨child, childIn, field, rfl⟩ := childAt_eq_some found
  exact not_isReference_of_namingFields childIn field naming

section Grammar

variable {file : SourceFile} (grammar : file.FollowsGrammar)

include grammar

theorem not_isReference_of_mem_declaratorNames {declaration name : Cursor}
    (placed : Reaches file.root declaration) (declared : name ∈ declaration.declaratorNames) :
    name.isReference = false := by
  obtain ⟨declarator, declaratorIn, declaratorField, child, childIn, field, rfl⟩ :=
    mem_declaratorNames declared
  have kind := grammar.declarators declaration (mem_walk.mpr placed) declarator declaratorIn
    declaratorField
  exact not_isReference_of_namingFields childIn field (by rw [down_kind, kind]; decide)

theorem not_isReference_of_mem_declaredParameters {owner name : Cursor}
    (placed : Reaches file.root owner)
    (kind : (owner.kind.isCallable = true ∨ owner.kind = .recordDeclaration) ∨
      owner.kind = .lambdaExpression)
    (declared : name ∈ owner.declaredParameters) : name.isReference = false := by
  cases parameter_of_mem declared with
  | @bare list listIn field identifier =>
    rcases kind with typed | lambda
    · have formal := grammar.parameters owner (mem_walk.mpr placed) typed list listIn field
      rw [identifier] at formal
      exact absurd formal (by decide)
    · exact not_isReference_of_namingFields listIn field (by rw [lambda]; decide)
  | inferred _ _ inferred => simp [isReference, down, inferred, Kind.bindsNoValue]
  | plain _ _ _ formal nameIn field =>
    exact not_isReference_of_namingFields nameIn field (by rw [down_kind, formal]; decide)
  | spread _ _ _ _ _ declarator nameIn field =>
    exact not_isReference_of_namingFields nameIn field (by rw [down_kind, declarator]; decide)

theorem Visible.not_isReference {scope reference name : Cursor} (placed : Reaches file.root scope)
    (visible : Visible scope reference name) : name.isReference = false := by
  cases visible with
  | block _ member _ declared =>
    exact not_isReference_of_mem_declaratorNames grammar
      (placed.trans (reaches_of_mem_statements member)) declared
  | initial _ member _ declared =>
    obtain ⟨child, childIn, _, rfl⟩ := mem_childrenAt member
    exact not_isReference_of_mem_declaratorNames grammar (placed.down childIn) declared
  | loop kind found => exact not_isReference_of_childAt_name found (by rw [kind]; decide)
  | caught _ first found =>
    exact not_isReference_of_childAt_name found (by rw [(caught_of_find? first).2]; decide)
  | resource _ _ _ kind found => exact not_isReference_of_childAt_name found (by rw [kind]; decide)
  | parameter kind declared =>
    exact not_isReference_of_mem_declaredParameters grammar placed (kind.imp_left Or.inl) declared
  | field _ member _ declared =>
    exact not_isReference_of_mem_declaratorNames grammar
      (placed.trans (reaches_of_mem_namedChildren member)) declared
  | component _ parent kind declared =>
    exact not_isReference_of_mem_declaredParameters grammar (reaches_of_parent rfl placed parent)
      (Or.inl (Or.inr kind)) declared

end Grammar

end Mutant.Scope
