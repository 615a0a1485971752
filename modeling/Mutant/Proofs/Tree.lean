import Mutant.Tree.Node

/-!
Moving about in a syntax tree. The walk lists exactly the cursors that one reaches by going down
from child to child, and the ancestors of a cursor are those from which one reaches it.
-/

namespace Mutant

namespace Node

theorem size_eq (node : Node) : node.size = 1 + sizeAll node.children := by
  cases node
  rw [size, children]

theorem sizeAll_append (first second : List Node) :
    sizeAll (first ++ second) = sizeAll first + sizeAll second := by
  induction first with
  | nil => simp [sizeAll]
  | cons node rest ih =>
    rw [List.cons_append, sizeAll, sizeAll, ih]
    omega

theorem size_le_sizeAll {node : Node} {nodes : List Node} (member : node ∈ nodes) :
    node.size ≤ sizeAll nodes := by
  induction nodes with
  | nil => exact absurd member List.not_mem_nil
  | cons first rest ih =>
    rw [sizeAll]
    rcases List.mem_cons.mp member with rfl | later
    · omega
    · have := ih later
      omega

end Node

namespace Cursor

/-- One gets from the first cursor to the second by going down. -/
inductive Reaches (top : Cursor) : Cursor → Prop where
  | here : Reaches top top
  | down {cursor : Cursor} {child : Node} :
      Reaches top cursor → child ∈ cursor.node.children → Reaches top (cursor.down child)

@[simp] theorem down_inj {first second : Cursor} {child other : Node} :
    first.down child = second.down other ↔ first = second ∧ child = other := by
  cases first
  cases second
  simp only [down, mk.injEq, List.cons.injEq]
  exact ⟨fun ⟨nodes, first, above⟩ => ⟨⟨first, above⟩, nodes⟩,
    fun ⟨⟨first, above⟩, nodes⟩ => ⟨nodes, first, above⟩⟩

@[simp] theorem down_node (cursor : Cursor) (child : Node) : (cursor.down child).node = child :=
  rfl

@[simp] theorem down_kind (cursor : Cursor) (child : Node) :
    (cursor.down child).kind = child.kind :=
  rfl

@[simp] theorem down_parent (cursor : Cursor) (child : Node) :
    (cursor.down child).parent = some cursor :=
  rfl

@[simp] theorem down_ancestors (cursor : Cursor) (child : Node) :
    (cursor.down child).ancestors = cursor :: cursor.ancestors :=
  rfl

theorem mem_children {cursor found : Cursor} :
    found ∈ cursor.children ↔ ∃ child ∈ cursor.node.children, cursor.down child = found :=
  List.mem_map

theorem mem_namedChildren {cursor found : Cursor} (member : found ∈ cursor.namedChildren) :
    ∃ child ∈ cursor.node.children, found = cursor.down child := by
  obtain ⟨child, named, rfl⟩ := List.mem_map.mp member
  exact ⟨child, (List.mem_filter.mp named).1, rfl⟩

theorem mem_childrenAt {cursor found : Cursor} {field : Field}
    (member : found ∈ cursor.childrenAt field) :
    ∃ child ∈ cursor.node.children, child.field = some field ∧ found = cursor.down child := by
  obtain ⟨child, filled, rfl⟩ := List.mem_map.mp member
  obtain ⟨below, same⟩ := List.mem_filter.mp filled
  exact ⟨child, below, by simpa using same, rfl⟩

theorem childAt_eq_some {cursor found : Cursor} {field : Field}
    (first : cursor.childAt field = some found) :
    ∃ child ∈ cursor.node.children, child.field = some field ∧ found = cursor.down child := by
  obtain ⟨child, filled, rfl⟩ := Option.map_eq_some_iff.mp first
  exact ⟨child, List.mem_of_find?_eq_some filled, by simpa using List.find?_some filled, rfl⟩

namespace Reaches

theorem trans {top middle bottom : Cursor} (upper : Reaches top middle)
    (lower : Reaches middle bottom) : Reaches top bottom := by
  induction lower with
  | here => exact upper
  | down _ member ih => exact ih.down member

theorem child {cursor : Cursor} {child : Node} (member : child ∈ cursor.node.children) :
    Reaches cursor (cursor.down child) :=
  here.down member

/-- The first step down. -/
theorem first_step {top bottom : Cursor} (reaches : Reaches top bottom) :
    bottom = top ∨ ∃ child ∈ top.node.children, Reaches (top.down child) bottom := by
  induction reaches with
  | here => exact Or.inl rfl
  | @down cursor child _ member ih =>
    rcases ih with rfl | ⟨first, firstIn, reaches⟩
    · exact Or.inr ⟨child, member, here⟩
    · exact Or.inr ⟨first, firstIn, reaches.down member⟩

theorem eq_of_leaf {top bottom : Cursor} (reaches : Reaches top bottom)
    (leaf : top.node.children = []) : bottom = top := by
  rcases reaches.first_step with same | ⟨child, member, _⟩
  · exact same
  · rw [leaf] at member
    exact absurd member List.not_mem_nil

theorem mem_ancestors {top bottom ancestor : Cursor} (reaches : Reaches top bottom)
    (member : ancestor ∈ bottom.ancestors) :
    Reaches top ancestor ∨ ancestor ∈ top.ancestors := by
  induction reaches with
  | here => exact Or.inr member
  | down upper _ ih =>
    rcases List.mem_cons.mp member with rfl | higher
    · exact Or.inl upper
    · exact ih higher

theorem ancestors_subset {top bottom : Cursor} (reaches : Reaches top bottom) :
    top.ancestors ⊆ bottom.ancestors := by
  induction reaches with
  | here => exact List.Subset.refl _
  | down _ _ ih => exact List.subset_cons_of_subset _ ih

end Reaches

theorem reaches_of_mem_ancestors {root bottom ancestor : Cursor} (reaches : Reaches root bottom)
    (outermost : root.above = []) (member : ancestor ∈ bottom.ancestors) :
    Reaches root ancestor ∧ Reaches ancestor bottom := by
  induction reaches with
  | here =>
    rw [ancestors, outermost, ancestorsFrom] at member
    exact absurd member List.not_mem_nil
  | down upper childIn ih =>
    rcases List.mem_cons.mp member with rfl | higher
    · exact ⟨upper, .child childIn⟩
    · exact ⟨(ih higher).1, (ih higher).2.down childIn⟩

theorem length_above_lt {cursor ancestor : Cursor} (member : ancestor ∈ cursor.ancestors) :
    ancestor.above.length < cursor.above.length := by
  obtain ⟨node, above⟩ := cursor
  change ancestor ∈ ancestorsFrom above at member
  induction above with
  | nil => exact absurd member List.not_mem_nil
  | cons first rest ih =>
    rcases List.mem_cons.mp member with rfl | higher
    · exact Nat.lt_succ_self _
    · exact Nat.lt_succ_of_lt (ih higher)

theorem ancestors_of_append {cursor scope : Cursor} {inner outer : List Cursor}
    (divided : cursor.ancestors = inner ++ scope :: outer) : scope.ancestors = outer := by
  induction inner generalizing cursor with
  | nil =>
    obtain ⟨node, above⟩ := cursor
    cases above with
    | nil => exact absurd divided (by simp [ancestors, ancestorsFrom])
    | cons first rest =>
      obtain ⟨rfl, rfl⟩ := List.cons.inj divided
      rfl
  | cons first rest ih =>
    obtain ⟨node, above⟩ := cursor
    cases above with
    | nil => exact absurd divided (by simp [ancestors, ancestorsFrom])
    | cons parent higher =>
      have tail : (Cursor.mk parent higher).ancestors = rest ++ scope :: outer :=
        (List.cons.inj divided).2
      exact ih tail

theorem mem_inner_of_mem_ancestors {cursor middle scope : Cursor} {inner outer : List Cursor}
    (divided : cursor.ancestors = inner ++ scope :: outer) (member : middle ∈ cursor.ancestors)
    (above : scope ∈ middle.ancestors) : middle ∈ inner := by
  have higher := length_above_lt above
  rw [divided] at member
  rcases List.mem_append.mp member with before | rest
  · exact before
  · rcases List.mem_cons.mp rest with rfl | behind
    · exact absurd higher (Nat.lt_irrefl _)
    · rw [← ancestors_of_append divided] at behind
      exact absurd higher (Nat.lt_asymm (length_above_lt behind))

@[simp] theorem children_map_node (cursor : Cursor) :
    cursor.children.map node = cursor.node.children := by
  simp [children, Function.comp_def]

theorem walk_eq_visit (cursor : Cursor) :
    cursor.walk = cursor :: visit (Node.sizeAll cursor.node.children) cursor.children := by
  rw [walk, Node.size_eq, Nat.add_comm, visit, List.append_nil]

/-- With fuel for all the pending nodes, each of them is walked through in turn. -/
theorem visit_eq_flatMap (fuel : Nat) (pending : List Cursor)
    (enough : Node.sizeAll (pending.map node) ≤ fuel) :
    visit fuel pending = pending.flatMap walk := by
  induction fuel using Nat.strongRecOn generalizing pending with
  | _ fuel ih =>
    cases pending with
    | nil => cases fuel <;> rfl
    | cons cursor rest =>
      rw [List.map_cons, Node.sizeAll, Node.size_eq] at enough
      cases fuel with
      | zero => omega
      | succ fuel =>
        have own : visit (Node.sizeAll cursor.node.children) cursor.children =
            cursor.children.flatMap walk := by
          apply ih
          · omega
          · exact Nat.le_of_eq (congrArg Node.sizeAll (children_map_node cursor))
        have both : visit fuel (cursor.children ++ rest) =
            (cursor.children ++ rest).flatMap walk := by
          apply ih
          · omega
          · rw [List.map_append, Node.sizeAll_append, children_map_node]
            omega
        rw [visit, both, List.flatMap_append, List.flatMap_cons, walk_eq_visit, own,
          List.cons_append]

theorem walk_eq (cursor : Cursor) : cursor.walk = cursor :: cursor.children.flatMap walk := by
  have enough : Node.sizeAll (cursor.children.map node) ≤ Node.sizeAll cursor.node.children :=
    Nat.le_of_eq (congrArg Node.sizeAll (children_map_node cursor))
  rw [walk_eq_visit, visit_eq_flatMap _ _ enough]

theorem mem_walk {top cursor : Cursor} : cursor ∈ top.walk ↔ Reaches top cursor := by
  -- By induction on the size of the tree below `top`, one step down at a time.
  induction height : top.node.size using Nat.strongRecOn generalizing top with
  | _ size ih =>
    rw [walk_eq, List.mem_cons, List.mem_flatMap]
    have below : ∀ child ∈ top.node.children,
        (cursor ∈ (top.down child).walk ↔ Reaches (top.down child) cursor) := by
      intro child member
      refine ih child.size ?_ rfl
      have smaller := Node.size_le_sizeAll member
      have whole := Node.size_eq top.node
      omega
    constructor
    · rintro (rfl | ⟨first, firstIn, deeper⟩)
      · exact .here
      · obtain ⟨child, member, rfl⟩ := mem_children.mp firstIn
        exact (Reaches.child member).trans ((below child member).mp deeper)
    · intro reaches
      rcases reaches.first_step with same | ⟨child, member, deeper⟩
      · exact Or.inl same
      · exact Or.inr ⟨top.down child, mem_children.mpr ⟨child, member, rfl⟩,
          (below child member).mpr deeper⟩

end Cursor

end Mutant
