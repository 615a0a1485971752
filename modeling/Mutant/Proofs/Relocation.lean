import Mathlib.Order.Monotone.Basic
import Mutant.Proofs.Counterparts

/-!
The same tree with every offset moved elsewhere. The shape decides where one gets by going up and
down, so these steps commute with the move. References and offered names depend on offsets as well,
and commute with a move that keeps the order of the offsets at which nodes begin or end.
-/

namespace Mutant

namespace Node

mutual

def moved (move : Nat → Nat) : Node → Node
  | mk kind field span named missing children =>
      mk kind field ⟨move span.start, move span.stop⟩ named missing (movedAll move children)

def movedAll (move : Nat → Nat) : List Node → List Node
  | [] => []
  | node :: rest => moved move node :: movedAll move rest

end

variable (move : Nat → Nat)

theorem movedAll_eq_map (nodes : List Node) : movedAll move nodes = nodes.map (moved move) := by
  induction nodes with
  | nil => rfl
  | cons node rest ih => rw [movedAll, ih, List.map_cons]

@[simp] theorem moved_kind (node : Node) : (node.moved move).kind = node.kind := by
  cases node
  rfl

@[simp] theorem moved_field (node : Node) : (node.moved move).field = node.field := by
  cases node
  rfl

@[simp] theorem moved_named (node : Node) : (node.moved move).named = node.named := by
  cases node
  rfl

@[simp] theorem moved_span (node : Node) :
    (node.moved move).span = ⟨move node.start, move node.stop⟩ := by
  cases node
  rfl

@[simp] theorem moved_children (node : Node) :
    (node.moved move).children = node.children.map (moved move) := by
  cases node
  exact movedAll_eq_map move _

mutual

theorem size_moved : (node : Node) → (node.moved move).size = node.size
  | mk _ _ _ _ _ children => congrArg (1 + ·) (sizeAll_movedAll children)

theorem sizeAll_movedAll : (nodes : List Node) → sizeAll (movedAll move nodes) = sizeAll nodes
  | [] => rfl
  | node :: rest => congrArg₂ (· + ·) (size_moved node) (sizeAll_movedAll rest)

end

theorem childrenAt_moved (node : Node) (field : Field) :
    (node.moved move).childrenAt field = (node.childrenAt field).map (moved move) := by
  simp [childrenAt, List.filter_map, Function.comp_def]

theorem childAt_moved (node : Node) (field : Field) :
    (node.moved move).childAt field = (node.childAt field).map (moved move) := by
  rw [childAt, childAt, moved_children, List.find?_map]
  simp only [Function.comp_def, moved_field]

end Node

namespace Cursor

def moved (move : Nat → Nat) (cursor : Cursor) : Cursor :=
  ⟨cursor.node.moved move, cursor.above.map (Node.moved move)⟩

variable (move : Nat → Nat)

@[simp] theorem moved_kind (cursor : Cursor) : (cursor.moved move).kind = cursor.kind :=
  Node.moved_kind move cursor.node

@[simp] theorem moved_span (cursor : Cursor) :
    (cursor.moved move).span = ⟨move cursor.start, move cursor.stop⟩ :=
  Node.moved_span move cursor.node

@[simp] theorem moved_start (cursor : Cursor) :
    (cursor.moved move).start = move cursor.start :=
  congrArg Span.start (moved_span move cursor)

@[simp] theorem moved_stop (cursor : Cursor) : (cursor.moved move).stop = move cursor.stop :=
  congrArg Span.stop (moved_span move cursor)

theorem children_moved (cursor : Cursor) :
    (cursor.moved move).children = cursor.children.map (moved move) := by
  have below : (cursor.moved move).node.children = cursor.node.children.map (Node.moved move) :=
    Node.moved_children move cursor.node
  rw [children, children, below, List.map_map, List.map_map]
  rfl

theorem childAt_moved (cursor : Cursor) (field : Field) :
    (cursor.moved move).childAt field = (cursor.childAt field).map (moved move) := by
  have below : (cursor.moved move).node.childAt field =
      (cursor.node.childAt field).map (Node.moved move) := Node.childAt_moved move cursor.node field
  rw [childAt, childAt, below, Option.map_map, Option.map_map]
  rfl

theorem parent_moved (cursor : Cursor) :
    (cursor.moved move).parent = cursor.parent.map (moved move) := by
  obtain ⟨node, above⟩ := cursor
  cases above <;> rfl

theorem ancestors_moved (cursor : Cursor) :
    (cursor.moved move).ancestors = cursor.ancestors.map (moved move) := by
  obtain ⟨node, above⟩ := cursor
  change ancestorsFrom (above.map (Node.moved move)) = (ancestorsFrom above).map (moved move)
  induction above with
  | nil => rfl
  | cons first rest ih => rw [List.map_cons, ancestorsFrom, ancestorsFrom, ih, List.map_cons]; rfl

theorem visit_moved (fuel : Nat) (pending : List Cursor) :
    visit fuel (pending.map (moved move)) = (visit fuel pending).map (moved move) := by
  induction fuel generalizing pending with
  | zero => rfl
  | succ fuel ih =>
    cases pending with
    | nil => rfl
    | cons first rest =>
      rw [List.map_cons, visit, visit, children_moved, ← List.map_append, ih, List.map_cons]

theorem walk_moved (cursor : Cursor) : (cursor.moved move).walk = cursor.walk.map (moved move) := by
  have size : (cursor.moved move).node.size = cursor.node.size := Node.size_moved move cursor.node
  rw [walk, walk, size]
  exact visit_moved move cursor.node.size [cursor]

theorem filter_kind_moved (cursors : List Cursor) (isKind : Kind → Bool) :
    (cursors.map (moved move)).filter (fun cursor => isKind cursor.kind) =
      (cursors.filter fun cursor => isKind cursor.kind).map (moved move) := by
  rw [List.filter_map]
  simp only [Function.comp_def, moved_kind]

theorem find?_kind_moved (cursors : List Cursor) (isKind : Kind → Bool) :
    (cursors.map (moved move)).find? (fun cursor => isKind cursor.kind) =
      (cursors.find? fun cursor => isKind cursor.kind).map (moved move) := by
  rw [List.find?_map]
  simp only [Function.comp_def, moved_kind]

/-- The second cursor is the first one, which is reached from the root, in the moved tree. -/
def IsMoved (root : Cursor) (cursor twin : Cursor) : Prop :=
  Reaches root cursor ∧ twin = cursor.moved move

theorem forall₂_isMoved {root : Cursor} {cursors : List Cursor}
    (placed : ∀ cursor ∈ cursors, Reaches root cursor) :
    List.Forall₂ (IsMoved move root) cursors (cursors.map (moved move)) := by
  rw [List.forall₂_map_right_iff, List.forall₂_same]
  exact fun cursor member => ⟨placed cursor member, rfl⟩

theorem eq_map_moved {root : Cursor} {cursors twins : List Cursor}
    (paired : List.Forall₂ (IsMoved move root) cursors twins) :
    twins = cursors.map (moved move) := by
  induction paired with
  | nil => rfl
  | cons both _ ih => rw [List.map_cons, both.2, ih]

theorem faces_moved {root cursor : Cursor} (placed : Reaches root cursor) :
    Faces (IsMoved move root) cursor (cursor.moved move) := by
  refine ⟨moved_kind move cursor, ?_⟩
  rw [children_moved]
  refine forall₂_isMoved move fun found member => ?_
  obtain ⟨child, childIn, rfl⟩ := mem_children.mp member
  exact placed.down childIn

theorem mirrors_moved (root : Cursor) : Mirrors (IsMoved move root) where
  kind := by
    rintro cursor _ ⟨_, rfl⟩
    exact moved_kind move cursor
  field := by
    rintro cursor _ ⟨_, rfl⟩
    exact Node.moved_field move cursor.node
  named := by
    rintro cursor _ ⟨_, rfl⟩
    exact Node.moved_named move cursor.node
  below := by
    rintro cursor _ ⟨placed, rfl⟩ _
    exact (faces_moved move placed).children

theorem declaredParameters_moved (owner : Cursor) :
    (owner.moved move).declaredParameters = owner.declaredParameters.map (moved move) :=
  eq_map_moved move ((mirrors_moved move owner).declaredParameters (faces_moved move .here))

end Cursor

def Cursor.Boundary (root : Cursor) (offset : Nat) : Prop :=
  ∃ cursor, Reaches root cursor ∧ (offset = cursor.start ∨ offset = cursor.stop)

section Ordered

open Cursor

variable {root : Cursor} {move : Nat → Nat}
  (increasing : StrictMonoOn move {offset | root.Boundary offset})

theorem Cursor.Reaches.start_boundary {cursor : Cursor} (placed : Reaches root cursor) :
    root.Boundary cursor.start :=
  ⟨cursor, placed, Or.inl rfl⟩

theorem Cursor.Reaches.stop_boundary {cursor : Cursor} (placed : Reaches root cursor) :
    root.Boundary cursor.stop :=
  ⟨cursor, placed, Or.inr rfl⟩

include increasing

theorem Node.same_moved {first second : Cursor} (firstPlaced : Reaches root first)
    (secondPlaced : Reaches root second) :
    (first.node.moved move).same (second.node.moved move) = first.node.same second.node := by
  have starts := increasing.eq_iff_eq firstPlaced.start_boundary secondPlaced.start_boundary
  have stops := increasing.eq_iff_eq firstPlaced.stop_boundary secondPlaced.stop_boundary
  have spans : (first.node.moved move).span = (second.node.moved move).span ↔
      first.node.span = second.node.span := by
    rw [Node.moved_span, Node.moved_span, Span.mk.injEq]
    exact (and_congr starts stops).trans (Span.mk.injEq ..).symm.to_iff
  rw [Bool.eq_iff_iff]
  simp only [Node.same, Node.moved_kind, Bool.and_eq_true, beq_iff_eq, spans]

theorem Node.namesIn_moved {parent : Cursor} {child : Node} (placed : Reaches root parent)
    (member : child ∈ parent.node.children) :
    (parent.node.moved move).namesIn (child.moved move) = parent.node.namesIn child := by
  have same : ∀ other ∈ parent.node.children,
      (child.moved move).same (other.moved move) = child.same other :=
    fun other otherIn => Node.same_moved increasing (placed.down member) (placed.down otherIn)
  unfold Node.namesIn
  rw [Node.moved_kind]
  apply congrArg parent.node.kind.namingFields.any
  funext field
  rw [Node.childrenAt_moved, List.any_map, Bool.eq_iff_iff, List.any_eq_true, List.any_eq_true]
  refine exists_congr fun other => and_congr_right fun filled => ?_
  rw [Function.comp_apply, same other (List.mem_filter.mp filled).1]

theorem Node.isReceiverIn_moved {parent : Cursor} {child : Node} (placed : Reaches root parent)
    (member : child ∈ parent.node.children) :
    (parent.node.moved move).isReceiverIn (child.moved move) =
      parent.node.isReceiverIn child := by
  unfold Node.isReceiverIn
  rw [Node.moved_kind, Node.moved_children, List.head?_map]
  cases first : parent.node.children.head? with
  | none => rfl
  | some other =>
    have same := Node.same_moved increasing (placed.down member)
      (placed.down (List.mem_of_head? first))
    simp only [down_node] at same
    simp only [Option.map_some, Option.getD_some, same]

theorem Scope.aligned_moved {reference : Cursor} (placed : Reaches root reference) :
    Aligned (IsMoved move root) reference (reference.moved move) where
  toMirrors := mirrors_moved move root
  start_lt := by
    rintro cursor _ ⟨within, rfl⟩
    rw [moved_start, moved_start]
    exact increasing.lt_iff_lt within.start_boundary placed.start_boundary
  stop_le := by
    rintro cursor _ ⟨within, rfl⟩
    rw [moved_stop, moved_start]
    exact increasing.le_iff_le within.stop_boundary placed.start_boundary
  contains := by
    rintro cursor _ ⟨within, rfl⟩
    rw [Bool.eq_iff_iff, Span.contains_iff, Span.contains_iff, moved_span, moved_span]
    exact and_congr (increasing.le_iff_le within.start_boundary placed.start_boundary)
      (increasing.le_iff_le placed.stop_boundary within.stop_boundary)

variable (outermost : root.above = [])

include outermost

/-- What a construct offers at a reference, it offers after the move. -/
theorem Scope.offered_moved {scope reference : Cursor} (scopePlaced : Reaches root scope)
    (placed : Reaches root reference) :
    offered (scope.moved move) (reference.moved move) =
      (offered scope reference).map (Cursor.moved move) := by
  refine eq_map_moved move ((aligned_moved increasing placed).offered
    (faces_moved move scopePlaced) ?_)
  rw [parent_moved]
  cases above : scope.parent with
  | none => exact .none
  | some parent =>
    exact .some (faces_moved move (reaches_of_parent outermost scopePlaced above))

theorem Cursor.isReference_moved {cursor : Cursor} (placed : Reaches root cursor) :
    (cursor.moved move).isReference = cursor.isReference := by
  unfold isReference
  rw [moved_kind]
  cases placed with
  | here => simp [Cursor.moved, outermost]
  | @down parent child upper member =>
    simp only [Cursor.moved, down, List.map_cons, Node.moved_kind,
      Node.namesIn_moved increasing upper member, Node.isReceiverIn_moved increasing upper member]

theorem Cursor.references_moved :
    (root.moved move).references = root.references.map (Cursor.moved move) := by
  rw [references, references, walk_moved, List.filter_map]
  apply congrArg (List.map (Cursor.moved move))
  apply List.filter_congr
  intro cursor member
  exact isReference_moved increasing outermost (mem_walk.mp member)

end Ordered

end Mutant
