import Mathlib.Data.List.Forall2
import Mutant.Proofs.Visibility

/-!
Names looked for in two trees at once. A relation pairs nodes of the one tree with nodes of the
other. Where it pairs what a search for names reads, constructs that face one another offer names
that are paired, and the searches from two references end at names that are paired.
-/

namespace Mutant

section Pairs

variable {α β : Type} {pair : α → β → Prop} {names : List α} {twins : List β}

theorem forall₂_filter {keep : α → Bool} {keepTwin : β → Bool}
    (agree : ∀ name twin, pair name twin → keepTwin twin = keep name)
    (paired : List.Forall₂ pair names twins) :
    List.Forall₂ (fun name twin => keep name = true ∧ pair name twin) (names.filter keep)
      (twins.filter keepTwin) := by
  refine (List.forall₂_and_left _ _).mpr ⟨fun name member => (List.mem_filter.mp member).2, ?_⟩
  refine List.rel_filter (fun name twin both => ?_) paired
  exact Bool.eq_iff_iff.mp (agree name twin both).symm

theorem forall₂_takeWhile {keep : α → Bool} {keepTwin : β → Bool}
    (agree : ∀ name twin, pair name twin → keepTwin twin = keep name)
    (paired : List.Forall₂ pair names twins) :
    List.Forall₂ pair (names.takeWhile keep) (twins.takeWhile keepTwin) := by
  induction paired with
  | nil => exact .nil
  | @cons name twin _ _ both _ ih =>
    rw [List.takeWhile_cons, List.takeWhile_cons, agree name twin both]
    split
    · exact .cons both ih
    · exact .nil

theorem rel_head? (paired : List.Forall₂ pair names twins) :
    Option.Rel pair names.head? twins.head? := by
  cases paired with
  | nil => exact .none
  | cons both _ => exact .some both

theorem rel_getLast? (paired : List.Forall₂ pair names twins) :
    Option.Rel pair names.getLast? twins.getLast? := by
  rw [← List.head?_reverse, ← List.head?_reverse]
  exact rel_head? (List.rel_reverse paired)

theorem rel_find? {keep : α → Bool} {keepTwin : β → Bool}
    (agree : ∀ name twin, pair name twin → keepTwin twin = keep name)
    (paired : List.Forall₂ pair names twins) :
    Option.Rel (fun name twin => keep name = true ∧ pair name twin) (names.find? keep)
      (twins.find? keepTwin) := by
  rw [← List.head?_filter, ← List.head?_filter]
  exact rel_head? (forall₂_filter agree paired)

theorem forall₂_toList {name : Option α} {twin : Option β} (paired : Option.Rel pair name twin) :
    List.Forall₂ pair name.toList twin.toList := by
  cases paired with
  | none => exact .nil
  | some both => exact .cons both .nil

theorem rel_findSome? {γ δ : Type} {deeper : γ → δ → Prop} {find : α → Option γ}
    {findTwin : β → Option δ}
    (step : ∀ name twin, pair name twin → Option.Rel deeper (find name) (findTwin twin))
    (paired : List.Forall₂ pair names twins) :
    Option.Rel deeper (names.findSome? find) (twins.findSome? findTwin) := by
  induction paired with
  | nil => exact .none
  | @cons name twin _ _ both _ ih =>
    have found := step name twin both
    rw [List.findSome?_cons, List.findSome?_cons]
    generalize find name = here, findTwin twin = there at found ⊢
    cases found with
    | none => exact ih
    | some both => exact .some both

theorem rel_bind {γ δ : Type} {deeper : γ → δ → Prop} {name : Option α} {twin : Option β}
    {next : α → Option γ} {nextTwin : β → Option δ} (paired : Option.Rel pair name twin)
    (step : ∀ name twin, pair name twin → Option.Rel deeper (next name) (nextTwin twin)) :
    Option.Rel deeper (name.bind next) (twin.bind nextTwin) := by
  cases paired with
  | none => exact .none
  | some both => exact step _ _ both

end Pairs

/-- Kinds of nodes in which a search for names goes further down. -/
def Kind.holdsNames : Kind → Bool
  | .localVariableDeclaration | .fieldDeclaration | .constantDeclaration | .variableDeclarator
  | .formalParameter | .spreadParameter | .catchFormalParameter | .resource
  | .switchBlockStatementGroup => true
  | _ => false

def Field.holdsNames : Field → Bool
  | .declarator | .parameters | .resources => true
  | _ => false

/-- A part of a declaration. A block, or any other scope that stands beside a reference, is none. -/
def Node.holdsNames (node : Node) : Bool :=
  node.kind.holdsNames || node.field.any Field.holdsNames

example : ∀ scope ∈ [Kind.block, .constructorBody, .switchBlock, .forStatement,
    .enhancedForStatement, .catchClause, .tryWithResourcesStatement, .lambdaExpression,
    .methodDeclaration, .constructorDeclaration, .classBody, .interfaceBody, .enumBody,
    .enumBodyDeclarations], scope.holdsNames = false := by
  decide

namespace Cursor

theorem namedChildren_eq_filter (cursor : Cursor) :
    cursor.namedChildren = cursor.children.filter (·.node.named) := by
  rw [children, List.filter_map]
  rfl

theorem childrenAt_eq_filter (cursor : Cursor) (field : Field) :
    cursor.childrenAt field = cursor.children.filter (·.node.field == some field) := by
  rw [children, List.filter_map]
  rfl

theorem childAt_eq_head? (cursor : Cursor) (field : Field) :
    cursor.childAt field = (cursor.childrenAt field).head? := by
  rw [childrenAt, List.head?_map, Node.childrenAt, List.head?_filter]
  rfl

theorem parent_eq_head? (cursor : Cursor) : cursor.parent = cursor.ancestors.head? := by
  obtain ⟨node, above⟩ := cursor
  cases above <;> rfl

structure Faces (pair : Cursor → Cursor → Prop) (first second : Cursor) : Prop where
  kind : second.kind = first.kind
  children : List.Forall₂ pair first.children second.children

theorem Faces.with_parents {pair : Cursor → Cursor → Prop} {above twinAbove : List Node}
    (around : List.Forall₂ (Faces pair) (ancestorsFrom above) (ancestorsFrom twinAbove)) :
    List.Forall₂ (fun scope other =>
        Faces pair scope other ∧ Option.Rel (Faces pair) scope.parent other.parent)
      (ancestorsFrom above) (ancestorsFrom twinAbove) := by
  induction above generalizing twinAbove with
  | nil =>
    cases twinAbove with
    | nil => exact .nil
    | cons => cases around
  | cons node above ih =>
    cases twinAbove with
    | nil => cases around
    | cons twin twinAbove =>
      obtain ⟨faces, rest⟩ := List.forall₂_cons.mp around
      refine .cons ⟨faces, ?_⟩ (ih rest)
      rw [parent_eq_head?, parent_eq_head?]
      exact rel_head? rest

/-- The relation pairs nodes that show alike, and goes down with a search for names. -/
structure Mirrors (pair : Cursor → Cursor → Prop) : Prop where
  kind : ∀ first second, pair first second → second.kind = first.kind
  field : ∀ first second, pair first second → second.node.field = first.node.field
  named : ∀ first second, pair first second → second.node.named = first.node.named
  below : ∀ first second, pair first second → first.node.holdsNames = true →
    List.Forall₂ pair first.children second.children

namespace Mirrors

variable {pair : Cursor → Cursor → Prop} (mirrors : Mirrors pair) {first second : Cursor}

include mirrors

theorem faces_of_kind (paired : pair first second) {kind : Kind} (is : first.kind = kind)
    (holds : kind.holdsNames = true) : Faces pair first second := by
  refine ⟨mirrors.kind _ _ paired, mirrors.below _ _ paired ?_⟩
  rw [← is] at holds
  exact Bool.or_eq_true_iff.mpr (Or.inl holds)

theorem faces_of_field (paired : pair first second) {field : Field}
    (fills : first.node.field = some field) (holds : field.holdsNames = true) :
    Faces pair first second := by
  refine ⟨mirrors.kind _ _ paired, mirrors.below _ _ paired ?_⟩
  rw [Node.holdsNames, fills]
  exact Bool.or_eq_true_iff.mpr (Or.inr holds)

theorem forall₂_filter_kind {cursors twins : List Cursor} (paired : List.Forall₂ pair cursors twins)
    (isKind : Kind → Bool) :
    List.Forall₂ (fun cursor twin => isKind cursor.kind = true ∧ pair cursor twin)
      (cursors.filter fun cursor => isKind cursor.kind)
      (twins.filter fun twin => isKind twin.kind) :=
  forall₂_filter (fun _ _ both => congrArg isKind (mirrors.kind _ _ both)) paired

theorem rel_find?_kind {cursors twins : List Cursor} (paired : List.Forall₂ pair cursors twins)
    (kind : Kind) :
    Option.Rel (fun cursor twin => cursor.kind = kind ∧ pair cursor twin)
      (cursors.find? (·.kind == kind)) (twins.find? (·.kind == kind)) := by
  simpa using rel_find? (fun _ _ both => congrArg (· == kind) (mirrors.kind _ _ both)) paired

theorem namedChildren (faces : Faces pair first second) :
    List.Forall₂ pair first.namedChildren second.namedChildren := by
  rw [namedChildren_eq_filter, namedChildren_eq_filter]
  exact (forall₂_filter mirrors.named faces.children).imp fun _ _ both => both.2

theorem childrenAt (faces : Faces pair first second) (field : Field) :
    List.Forall₂ (fun child twin => child.node.field = some field ∧ pair child twin)
      (first.childrenAt field) (second.childrenAt field) := by
  rw [childrenAt_eq_filter, childrenAt_eq_filter]
  simpa using forall₂_filter (fun _ _ both => congrArg (· == some field) (mirrors.field _ _ both))
    faces.children

theorem childAt (faces : Faces pair first second) (field : Field) :
    Option.Rel (fun child twin => child.node.field = some field ∧ pair child twin)
      (first.childAt field) (second.childAt field) := by
  rw [childAt_eq_head?, childAt_eq_head?]
  exact rel_head? (mirrors.childrenAt faces field)

theorem childAt_name (faces : Faces pair first second) :
    Option.Rel pair (first.childAt .name) (second.childAt .name) := by
  rw [childAt_eq_head?, childAt_eq_head?]
  exact rel_head? ((mirrors.childrenAt faces .name).imp fun _ _ both => both.2)

theorem declaratorNames (faces : Faces pair first second) :
    List.Forall₂ pair first.declaratorNames second.declaratorNames := by
  refine List.rel_filterMap (fun declarator twin ⟨field, paired⟩ => ?_)
    (mirrors.childrenAt faces .declarator)
  exact mirrors.childAt_name (mirrors.faces_of_field paired field rfl)

theorem flatMap_declaratorNames {cursors twins : List Cursor}
    (paired : List.Forall₂ pair cursors twins) (isKind : Kind → Bool)
    (holds : ∀ kind, isKind kind = true → kind.holdsNames = true) :
    List.Forall₂ pair
      ((cursors.filter fun cursor => isKind cursor.kind).flatMap (·.declaratorNames))
      ((twins.filter fun twin => isKind twin.kind).flatMap (·.declaratorNames)) := by
  refine List.rel_flatMap (mirrors.forall₂_filter_kind paired isKind) ?_
  rintro declaration twin ⟨kind, both⟩
  exact mirrors.declaratorNames (mirrors.faces_of_kind both rfl (holds _ kind))

theorem statements (faces : Faces pair first second) :
    List.Forall₂ pair first.statements second.statements := by
  refine List.rel_flatMap (mirrors.namedChildren faces) fun child twin both => ?_
  rw [mirrors.kind _ _ both]
  split
  next group => exact mirrors.namedChildren (mirrors.faces_of_kind both (by simpa using group) rfl)
  next => exact .cons both .nil

theorem parameterName (paired : pair first second) :
    Option.Rel pair first.parameterName second.parameterName := by
  unfold Cursor.parameterName
  rw [mirrors.kind _ _ paired]
  split
  next kind => exact mirrors.childAt_name (mirrors.faces_of_kind paired kind rfl)
  next kind =>
    have children := mirrors.namedChildren (mirrors.faces_of_kind paired kind rfl)
    refine rel_bind (mirrors.rel_find?_kind children .variableDeclarator) ?_
    rintro declarator twin ⟨is, both⟩
    exact mirrors.childAt_name (mirrors.faces_of_kind both is rfl)
  next => exact .none

theorem parameterNames (paired : pair first second)
    (field : first.node.field = some .parameters) :
    List.Forall₂ pair first.parameterNames second.parameterNames := by
  have children := mirrors.namedChildren (mirrors.faces_of_field paired field rfl)
  unfold Cursor.parameterNames
  rw [mirrors.kind _ _ paired]
  split
  · exact .cons paired .nil
  · exact (mirrors.forall₂_filter_kind children (· == .identifier)).imp fun _ _ both => both.2
  · exact List.rel_filterMap (fun _ _ both => mirrors.parameterName both) children

theorem declaredParameters (faces : Faces pair first second) :
    List.Forall₂ pair first.declaredParameters second.declaredParameters := by
  have lists := mirrors.childAt faces .parameters
  unfold Cursor.declaredParameters
  generalize first.childAt .parameters = list, second.childAt .parameters = twin at lists ⊢
  cases lists with
  | none => exact .nil
  | some both => exact mirrors.parameterNames both.2 both.1

theorem caughtName (faces : Faces pair first second) :
    Option.Rel pair (Scope.caughtName first) (Scope.caughtName second) := by
  refine rel_bind (mirrors.rel_find?_kind (mirrors.namedChildren faces) .catchFormalParameter) ?_
  rintro parameter twin ⟨kind, both⟩
  exact mirrors.childAt_name (mirrors.faces_of_kind both kind rfl)

theorem resourceNames (faces : Faces pair first second) :
    List.Forall₂ pair (Scope.resourceNames first) (Scope.resourceNames second) := by
  have lists := mirrors.childAt faces .resources
  unfold Scope.resourceNames
  generalize first.childAt .resources = list, second.childAt .resources = twin at lists ⊢
  cases lists with
  | none => exact .nil
  | some both =>
    have children := mirrors.namedChildren (mirrors.faces_of_field both.2 both.1 rfl)
    refine List.rel_filterMap ?_ (mirrors.forall₂_filter_kind children (· == .resource))
    rintro resource twin ⟨kind, paired⟩
    exact mirrors.childAt_name (mirrors.faces_of_kind paired (by simpa using kind) rfl)

theorem memberNames (faces : Faces pair first second)
    (parents : Option.Rel (Faces pair) first.parent second.parent) :
    List.Forall₂ pair (Scope.memberNames first) (Scope.memberNames second) := by
  refine List.rel_append ?_ ?_
  · refine mirrors.flatMap_declaratorNames (mirrors.namedChildren faces)
      (fun kind => kind == .fieldDeclaration || kind == .constantDeclaration) fun kind is => ?_
    rcases Bool.or_eq_true_iff.mp is with field | constant
    · rw [beq_iff_eq.mp field]
      rfl
    · rw [beq_iff_eq.mp constant]
      rfl
  · generalize first.parent = owner, second.parent = twin at parents ⊢
    cases parents with
    | none => exact .nil
    | some owners =>
      simp only [owners.kind]
      split
      · exact mirrors.declaredParameters owners
      · exact .nil

end Mirrors

end Cursor

namespace Scope

open Cursor

theorem rel_choose {pair : Cursor → Cursor → Prop} {names twins : List Cursor}
    (paired : List.Forall₂ pair names twins) (kind : Kind) :
    Option.Rel pair (choose kind names) (choose kind twins) := by
  unfold choose
  split
  · exact rel_getLast? paired
  · exact rel_head? paired

structure Aligned (pair : Cursor → Cursor → Prop) (reference twin : Cursor) : Prop
    extends Mirrors pair where
  start_lt : ∀ first second, pair first second →
    (second.start < twin.start ↔ first.start < reference.start)
  stop_le : ∀ first second, pair first second →
    (second.stop ≤ twin.start ↔ first.stop ≤ reference.start)
  contains : ∀ first second, pair first second →
    second.span.contains twin.span = first.span.contains reference.span

namespace Aligned

variable {pair : Cursor → Cursor → Prop} {reference twin : Cursor}
  (aligned : Aligned pair reference twin) {scope other : Cursor}

include aligned

theorem inBody (faces : Faces pair scope other) :
    Scope.inBody other twin = Scope.inBody scope reference := by
  have bodies := aligned.childAt faces .body
  unfold Scope.inBody
  generalize scope.childAt .body = body, other.childAt .body = twinBody at bodies ⊢
  cases bodies with
  | none => rfl
  | some both => exact aligned.contains _ _ both.2

theorem stopsBefore {names twins : List Cursor} (paired : List.Forall₂ pair names twins) :
    List.Forall₂ pair (names.filter fun name => name.stop ≤ reference.start)
      (twins.filter fun name => name.stop ≤ twin.start) := by
  refine List.rel_filter (fun name twinName both => ?_) paired
  simpa using (aligned.stop_le name twinName both).symm

theorem declaredBefore {statements twins : List Cursor}
    (paired : List.Forall₂ pair statements twins) :
    List.Forall₂ pair (Scope.declaredBefore reference statements)
      (Scope.declaredBefore twin twins) := by
  refine aligned.stopsBefore (aligned.flatMap_declaratorNames paired
    (· == .localVariableDeclaration) fun kind is => ?_)
  rw [beq_iff_eq.mp is]
  rfl

theorem offered (faces : Faces pair scope other)
    (parents : Option.Rel (Faces pair) scope.parent other.parent) :
    List.Forall₂ pair (Scope.offered scope reference) (Scope.offered other twin) := by
  unfold Scope.offered
  rw [faces.kind, aligned.inBody faces]
  split
  case h_1 | h_2 | h_3 =>
    refine aligned.declaredBefore (forall₂_takeWhile (fun _ _ both => ?_) (aligned.statements faces))
    exact decide_eq_decide.mpr (aligned.start_lt _ _ both)
  case h_4 =>
    exact aligned.declaredBefore ((aligned.childrenAt faces .initial).imp fun _ _ both => both.2)
  case h_5 =>
    split
    · exact forall₂_toList (aligned.childAt_name faces)
    · exact .nil
  case h_6 =>
    split
    · exact forall₂_toList (aligned.caughtName faces)
    · exact .nil
  case h_7 => exact aligned.stopsBefore (aligned.resourceNames faces)
  case h_8 | h_9 | h_10 =>
    split
    · exact aligned.declaredParameters faces
    · exact .nil
  case h_11 | h_12 | h_13 | h_14 => exact aligned.memberNames faces parents
  case h_15 => exact .nil

variable {file otherFile : SourceFile}
  (texts : ∀ first second, pair first second → first.isName = true →
    otherFile.text second = file.text first)

include texts

theorem lookup (faces : Faces pair scope other)
    (parents : Option.Rel (Faces pair) scope.parent other.parent) (text : Bytes) :
    Option.Rel pair (Scope.lookup file scope reference text)
      (Scope.lookup otherFile other twin text) := by
  have names : List.Forall₂ (fun name twinName => name.isName = true ∧ pair name twinName)
      (Scope.offered scope reference) (Scope.offered other twin) :=
    (List.forall₂_and_left _ _).mpr
      ⟨fun name member => (visible_of_mem member).isName, aligned.offered faces parents⟩
  rw [lookup_eq_choose, lookup_eq_choose, faces.kind]
  refine rel_choose (List.Forall₂.imp ?_ (forall₂_filter ?_ names)) scope.kind
  · exact fun _ _ both => both.2.2
  · rintro name twinName ⟨isName, both⟩
    rw [texts name twinName both isName]

/-- From two references that the same constructs enclose, the searches end at names that are
paired. -/
theorem binder (sameText : otherFile.text twin = file.text reference)
    (around : List.Forall₂ (Faces pair) reference.ancestors twin.ancestors) :
    Option.Rel pair (Scope.binder file reference) (Scope.binder otherFile twin) := by
  rw [Scope.binder, Scope.binder, sameText]
  refine rel_findSome? ?_ (Faces.with_parents around)
  exact fun scope other both => aligned.lookup texts both.1 both.2 _

end Aligned

end Scope

end Mutant
