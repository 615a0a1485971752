import Mutant.Proofs.Scoping
import Mutant.Proofs.Usages

/-!
The role of a variable and the construct that declares it. The role is read off the nodes around the
name, the construct is found by the search for a binding. The two agree, with one exception: a
component of a record that takes any number of values has the role of a parameter, although what is
declared there is a field like the other components.
-/

namespace Mutant

def Kind.declaredRole : Kind → Option Role
  | .block | .constructorBody | .switchBlock | .forStatement => some .localVariable
  | .enhancedForStatement => some .loop
  | .catchClause => some .caught
  | .tryWithResourcesStatement => some .resource
  | .lambdaExpression | .methodDeclaration | .constructorDeclaration => some .parameter
  | .classBody | .interfaceBody | .enumBody | .enumBodyDeclarations => some .member
  | _ => none

/-- The name of a parameter that takes any number of values. -/
def Cursor.isVariableArity (name : Cursor) : Bool :=
  match name.above with
  | _ :: holder :: _ => holder.kind == .spreadParameter
  | _ => false

namespace Kind

theorem declaredRole_of_isBlock {kind : Kind} (block : kind.isBlock = true) :
    kind.declaredRole = some .localVariable := by
  have kinds : kind = .block ∨ kind = .constructorBody ∨ kind = .switchBlock := by
    simpa [isBlock, blocks] using block
  rcases kinds with rfl | rfl | rfl <;> rfl

theorem declaredRole_of_isClassBody {kind : Kind} (body : kind.isClassBody = true) :
    kind.declaredRole = some .member := by
  unfold isClassBody at body
  split at body <;> first | rfl | exact absurd body (by decide)

theorem declaredRole_of_isOwner {kind : Kind}
    (owner : kind.isCallable = true ∨ kind = .lambdaExpression) :
    kind.declaredRole = some .parameter := by
  rcases owner with callable | rfl
  · unfold isCallable at callable
    split at callable <;> first | rfl | exact absurd callable (by decide)
  · rfl

end Kind

namespace Scope

open Cursor

/-- A component of the record whose body the construct is, for any number of values. -/
def VariableComponent (scope name : Cursor) : Prop :=
  IsComponent scope name ∧ name.isVariableArity = true

/-- The role of a name agrees with the construct, but for a component of any number of values. -/
def RoleFits (file : SourceFile) (scope name : Cursor) : Prop :=
  (VariableComponent scope name ∧ (Declaration.ofName file name).role = .parameter) ∨
    (¬VariableComponent scope name ∧
      scope.kind.declaredRole = some (Declaration.ofName file name).role)

theorem RoleFits.of_ne_member {file : SourceFile} {scope name : Cursor} {role : Role}
    (declares : scope.kind.declaredRole = some role) (other : role ≠ .member)
    (same : (Declaration.ofName file name).role = role) : RoleFits file scope name := by
  refine Or.inr ⟨fun component => other ?_, same ▸ declares⟩
  rw [Kind.declaredRole_of_isClassBody component.1.1] at declares
  exact (Option.some_inj.mp declares).symm

theorem RoleFits.declaredRole_iff {file : SourceFile} {scope name : Cursor}
    (fits : RoleFits file scope name) :
    scope.kind.declaredRole = some (Declaration.ofName file name).role ↔
      ¬VariableComponent scope name := by
  rcases fits with ⟨component, role⟩ | ⟨other, declares⟩
  · refine iff_of_false ?_ (not_not_intro component)
    rw [role, Kind.declaredRole_of_isClassBody component.1.1]
    decide
  · exact iff_of_true declares other

theorem role_ofName_down (file : SourceFile) (parent : Cursor) (child : Node) :
    (Declaration.ofName file (parent.down child)).role = (Declaration.ofParent parent).1 :=
  rfl

theorem role_of_childAt_name {parent name : Cursor} (file : SourceFile)
    (found : parent.childAt .name = some name) :
    (Declaration.ofName file name).role = (Declaration.ofParent parent).1 := by
  obtain ⟨child, _, _, rfl⟩ := childAt_eq_some found
  exact role_ofName_down file parent child

section Grammar

variable {file : SourceFile} (grammar : file.FollowsGrammar)

include grammar

theorem role_of_mem_declaratorNames {declaration name : Cursor}
    (placed : Reaches file.root declaration) (declared : name ∈ declaration.declaratorNames) :
    (Declaration.ofName file name).role = (Declaration.ofHolder declaration).1 := by
  obtain ⟨declarator, declaratorIn, declaratorField, child, _, _, rfl⟩ :=
    mem_declaratorNames declared
  have kind := grammar.declarators declaration (mem_walk.mpr placed) declarator declaratorIn
    declaratorField
  rw [role_ofName_down, Declaration.ofParent, down_kind, kind]
  rfl

theorem role_of_mem_declaredParameters {owner name : Cursor} (placed : Reaches file.root owner)
    (kind : (owner.kind.isCallable = true ∨ owner.kind = .recordDeclaration) ∨
      owner.kind = .lambdaExpression)
    (declared : name ∈ owner.declaredParameters) :
    (Declaration.ofName file name).role =
      if owner.kind = .recordDeclaration ∧ name.isVariableArity = false then .member
      else .parameter := by
  -- The grammar gives bare names to lambdas only.
  have lambda_of_bare : ∀ list ∈ owner.node.children, list.field = some .parameters →
      list.kind ≠ .formalParameters → owner.kind = .lambdaExpression := by
    intro list listIn field bare
    exact kind.resolve_left fun typed =>
      bare (grammar.parameters owner (mem_walk.mpr placed) typed list listIn field)
  cases parameter_of_mem declared with
  | @bare list listIn field identifier =>
    have lambda := lambda_of_bare list listIn field (by rw [identifier]; decide)
    rw [role_ofName_down, Declaration.ofParent, lambda, if_neg (by simp)]
  | @inferred list child listIn field inferred _ _ =>
    have lambda := lambda_of_bare list listIn field (by rw [inferred]; decide)
    rw [role_ofName_down, Declaration.ofParent, down_kind, inferred, lambda, if_neg (by simp)]
  | @plain list parameter child listIn field _ formal _ _ =>
    have plain : (Declaration.ofParent ((owner.down list).down parameter)).1 =
        if owner.kind == .recordDeclaration then .member else .parameter := by
      rw [Declaration.ofParent, down_kind, formal]
      rfl
    rw [role_ofName_down, plain]
    by_cases record : owner.kind = .recordDeclaration
    · have formals := grammar.parameters owner (mem_walk.mpr placed) (Or.inr record) list listIn field
      have single : (((owner.down list).down parameter).down child).isVariableArity = false := by
        simp [isVariableArity, down, formals]
      simp [record, single]
    · simp [record]
  | @spread list parameter declarator child _ _ _ spread _ kind _ _ =>
    have several : ((((owner.down list).down parameter).down declarator).down child).isVariableArity =
        true := by
      simp [isVariableArity, down, spread]
    have held : (Declaration.ofParent (((owner.down list).down parameter).down declarator)).1 =
        .parameter := by
      simp [Declaration.ofParent, Declaration.ofHolder, kind, spread]
    rw [role_ofName_down, held, several, if_neg (by simp)]

theorem Visible.roleFits {scope reference name : Cursor} (placed : Reaches file.root scope)
    (visible : Visible scope reference name) : RoleFits file scope name := by
  cases visible with
  | block kind member declaration declared =>
    have statementPlaced := placed.trans (reaches_of_mem_statements member)
    have role : (Declaration.ofName file name).role = .localVariable := by
      rw [role_of_mem_declaratorNames grammar statementPlaced declared, Declaration.ofHolder,
        declaration]
    exact .of_ne_member (Kind.declaredRole_of_isBlock kind) (by decide) role
  | initial kind member declaration declared =>
    obtain ⟨child, childIn, _, rfl⟩ := mem_childrenAt member
    have role : (Declaration.ofName file name).role = .localVariable := by
      rw [role_of_mem_declaratorNames grammar (placed.down childIn) declared,
        Declaration.ofHolder, declaration]
    exact .of_ne_member (by rw [kind]; rfl) (by decide) role
  | loop kind found =>
    have role : (Declaration.ofName file name).role = .loop := by
      rw [role_of_childAt_name file found, Declaration.ofParent, kind]
    exact .of_ne_member (by rw [kind]; rfl) (by decide) role
  | caught kind first found =>
    have parameter := (caught_of_find? first).2
    have role : (Declaration.ofName file name).role = .caught := by
      rw [role_of_childAt_name file found, Declaration.ofParent, parameter]
    exact .of_ne_member (by rw [kind]; rfl) (by decide) role
  | resource kind _ _ isResource found =>
    have role : (Declaration.ofName file name).role = .resource := by
      rw [role_of_childAt_name file found, Declaration.ofParent, isResource]
    exact .of_ne_member (by rw [kind]; rfl) (by decide) role
  | parameter kind declared =>
    have role := role_of_mem_declaredParameters grammar placed (kind.imp_left Or.inl) declared
    have noRecord : scope.kind ≠ .recordDeclaration := by
      rcases kind with callable | lambda
      · intro record
        rw [record] at callable
        exact absurd callable (by decide)
      · rw [lambda]
        decide
    rw [if_neg fun single => noRecord single.1] at role
    exact .of_ne_member (Kind.declaredRole_of_isOwner kind) (by decide) role
  | field kind member declaration declared =>
    have role := role_of_mem_declaratorNames grammar
      (placed.trans (reaches_of_mem_namedChildren member)) declared
    refine Or.inr ⟨fun component => ?_, ?_⟩
    · exact not_isComponent_of_field member declaration declared component.1
    · rw [Kind.declaredRole_of_isClassBody kind, role, Declaration.ofHolder]
      rcases declaration with field | constant
      · rw [field]
      · rw [constant]
  | component kind parent record declared =>
    have role := role_of_mem_declaredParameters grammar (reaches_of_parent rfl placed parent)
      (Or.inl (Or.inr record)) declared
    by_cases several : name.isVariableArity = true
    · rw [if_neg (by simp [several])] at role
      exact Or.inl ⟨⟨⟨kind, _, parent, record, declared⟩, several⟩, role⟩
    · rw [if_pos ⟨record, by simpa using several⟩] at role
      refine Or.inr ⟨fun component => several component.2, ?_⟩
      rw [Kind.declaredRole_of_isClassBody kind, role]

end Grammar

/-- What a resolved reference denotes is declared by the construct that binds it, in the role of the
variables of that construct, unless it is a component of a record for any number of values: that one
is taken for a parameter. -/
theorem role_of_resolve {file : SourceFile} (wellFormed : file.WellFormed)
    (grammar : file.FollowsGrammar) {reference : Cursor}
    (refers : reference ∈ file.root.references) {declaration : Declaration}
    (resolved : resolve file reference = some declaration) :
    ∃ scope name, Binds file reference scope name ∧ Declaration.ofName file name = declaration ∧
      (scope.kind.declaredRole = some declaration.role ↔ ¬VariableComponent scope name) ∧
      (VariableComponent scope name → declaration.role = .parameter) := by
  have placed := (mem_references.mp refers).1
  obtain ⟨name, bound, rfl⟩ := Option.map_eq_some_iff.mp resolved
  obtain ⟨scope, binds⟩ := (binder_eq_some_iff_binds wellFormed placed).mp bound
  have scopePlaced := placed_of_mem_ancestors placed binds.encloses
  have fits := binds.visible.roleFits grammar scopePlaced
  refine ⟨scope, name, binds, rfl, fits.declaredRole_iff, fun component => ?_⟩
  exact fits.elim And.right fun other => absurd component other.1

def variadic : SourceFile where
  path := ⟨"", ["R.java"]⟩
  source := Utf8.ofString "record R(int n,int... s)\x7bint f()\x7breturn n+s.length;\x7d\x7d"
  tree := .mk (.other "program") none ⟨0, 53⟩ true false [
    .mk .recordDeclaration none ⟨0, 53⟩ true false [
      .mk .identifier (some .name) ⟨7, 8⟩ true false [],
      .mk .formalParameters (some .parameters) ⟨8, 24⟩ true false [
        .mk .formalParameter none ⟨9, 14⟩ true false [
          .mk (.other "integral_type") (some .typ) ⟨9, 12⟩ true false [],
          .mk .identifier (some .name) ⟨13, 14⟩ true false []],
        .mk .spreadParameter none ⟨15, 23⟩ true false [
          .mk (.other "integral_type") none ⟨15, 18⟩ true false [],
          .mk .variableDeclarator none ⟨22, 23⟩ true false [
            .mk .identifier (some .name) ⟨22, 23⟩ true false []]]],
      .mk .classBody (some .body) ⟨24, 53⟩ true false [
        .mk .methodDeclaration none ⟨25, 52⟩ true false [
          .mk (.other "integral_type") (some .typ) ⟨25, 28⟩ true false [],
          .mk .identifier (some .name) ⟨29, 30⟩ true false [],
          .mk .formalParameters (some .parameters) ⟨30, 32⟩ true false [],
          .mk .block (some .body) ⟨32, 52⟩ true false [
            .mk (.other "return_statement") none ⟨33, 51⟩ true false [
              .mk (.other "binary_expression") none ⟨40, 50⟩ true false [
                .mk .identifier (some (.other "left")) ⟨40, 41⟩ true false [],
                .mk .fieldAccess (some (.other "right")) ⟨42, 50⟩ true false [
                  .mk .identifier (some (.other "object")) ⟨42, 43⟩ true false [],
                  .mk .identifier (some .member) ⟨44, 50⟩ true false []]]]]]]]]

theorem variadic_wellFormed : variadic.WellFormed where
  inBounds := by decide
  forward := by decide
  nested := by decide
  ordered := by decide
  leaf := by decide

theorem variadic_followsGrammar : variadic.FollowsGrammar where
  declarators := by decide
  parameters := by decide

theorem variadic_role :
    ∃ reference ∈ variadic.root.references, ∃ declaration,
      resolve variadic reference = some declaration ∧
        ∃ scope name, Binds variadic reference scope name ∧
          Declaration.ofName variadic name = declaration ∧
          scope.kind.declaredRole = some .member := by
  have found : ∃ reference ∈ variadic.root.references,
      (resolve variadic reference).map Declaration.role = some .member := by
    decide +kernel
  obtain ⟨reference, refers, shown⟩ := found
  obtain ⟨declaration, resolved, role⟩ := Option.map_eq_some_iff.mp shown
  obtain ⟨scope, name, binds, same, fits, parameter⟩ :=
    role_of_resolve variadic_wellFormed variadic_followsGrammar refers resolved
  refine ⟨reference, refers, declaration, resolved, scope, name, binds, same, ?_⟩
  rw [← role]
  refine fits.mpr fun component => ?_
  rw [parameter component] at role
  exact absurd role (by decide)

def RolesAgree (file : SourceFile) : Prop :=
  ∀ reference ∈ file.root.references, ∀ scope name, Binds file reference scope name →
    scope.kind.declaredRole = some (Declaration.ofName file name).role

/-- The component for any number of values is bound by the body of the record, and said to be a
parameter. -/
theorem variadic_not_rolesAgree : ¬RolesAgree variadic := by
  have found : ∃ reference ∈ variadic.root.references,
      (∀ other ∈ reference.ancestors.take 5,
        (lookup variadic other reference (variadic.text reference)).isNone = true) ∧
      ∃ scope ∈ reference.ancestors[5]?, scope.kind = .classBody ∧
        ∃ name ∈ lookup variadic scope reference (variadic.text reference),
          (Declaration.ofName variadic name).role = .parameter := by
    decide +kernel
  obtain ⟨reference, refers, innerNone, scope, sixth, body, name, looked, role⟩ := found
  have divided : reference.ancestors =
      reference.ancestors.take 5 ++ scope :: reference.ancestors.drop 6 := by
    obtain ⟨long, rfl⟩ := List.getElem?_eq_some_iff.mp (Option.mem_def.mp sixth)
    rw [← List.drop_eq_getElem_cons long, List.take_append_drop]
  have binds : Binds variadic reference scope name :=
    binds_of_lookup variadic_wellFormed (mem_references.mp refers).1 divided looked
      fun other member => Option.isNone_iff_eq_none.mp (innerNone other member)
  intro fits
  have declared := fits reference refers scope name binds
  rw [body, role] at declared
  exact absurd declared (by decide)

end Scope

end Mutant
