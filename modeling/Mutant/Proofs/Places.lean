import Mathlib.Logic.Function.Iterate
import Mutant.Proofs.Acceptance
import Mutant.Proofs.WellFormed

/-!
Places in a tree. A place is the list of the numbers of the children by which one goes down to a
node, so that two nodes that look alike still have two places. A walk visits the places of a tree in
lexicographic order, which is the order of the document: in a well-formed file no node begins before
one with a lesser place.
-/

namespace Mutant

namespace Node

mutual

/-- The places in a tree, each directly before those below it. -/
def places : Node → List (List Nat)
  | mk _ _ _ _ _ children => [] :: placesFrom 0 children

def placesFrom : Nat → List Node → List (List Nat)
  | _, [] => []
  | number, node :: rest => (places node).map (number :: ·) ++ placesFrom (number + 1) rest

end

theorem places_eq (node : Node) : node.places = [] :: placesFrom 0 node.children := by
  cases node
  rw [places, children]

theorem mem_placesFrom {number : Nat} {nodes : List Node} {place : List Nat} :
    place ∈ placesFrom number nodes ↔ ∃ index node inner,
      nodes[index]? = some node ∧ inner ∈ node.places ∧ place = (number + index) :: inner := by
  induction nodes generalizing number with
  | nil => simp [placesFrom]
  | cons first rest ih =>
    rw [placesFrom, List.mem_append, List.mem_map, ih]
    constructor
    · rintro (⟨inner, below, rfl⟩ | ⟨index, node, inner, found, below, rfl⟩)
      · exact ⟨0, first, inner, rfl, below, rfl⟩
      · exact ⟨index + 1, node, inner, found, below, by rw [Nat.add_right_comm, Nat.add_assoc]⟩
    · rintro ⟨index, node, inner, found, below, rfl⟩
      cases index with
      | zero =>
        obtain rfl := Option.some_inj.mp found
        exact Or.inl ⟨inner, below, rfl⟩
      | succ index =>
        exact Or.inr ⟨index, node, inner, found, below, by rw [Nat.add_right_comm, Nat.add_assoc]⟩

mutual

theorem places_pairwise : (node : Node) → node.places.Pairwise (· < ·)
  | mk _ _ _ _ _ children => by
    rw [places, List.pairwise_cons]
    refine ⟨fun place member => ?_, placesFrom_pairwise 0 children⟩
    obtain ⟨_, _, _, _, _, rfl⟩ := mem_placesFrom.mp member
    exact List.nil_lt_cons ..

theorem placesFrom_pairwise :
    (number : Nat) → (nodes : List Node) → (placesFrom number nodes).Pairwise (· < ·)
  | _, [] => by rw [placesFrom]; exact .nil
  | number, node :: rest => by
    rw [placesFrom, List.pairwise_append, List.pairwise_map]
    refine ⟨(places_pairwise node).imp ?_, placesFrom_pairwise (number + 1) rest, ?_⟩
    · exact fun less => List.cons_lt_cons_iff.mpr (Or.inr ⟨rfl, less⟩)
    · intro first firstIn second secondIn
      obtain ⟨_, _, rfl⟩ := List.mem_map.mp firstIn
      obtain ⟨index, _, _, _, _, rfl⟩ := mem_placesFrom.mp secondIn
      exact List.cons_lt_cons_iff.mpr (Or.inl (by omega))

end

mutual

theorem length_preorder : (node : Node) → node.preorder.length = node.size
  | mk _ _ _ _ _ children => by
    rw [preorder, size, List.length_cons, length_preorderAll children, Nat.add_comm]

theorem length_preorderAll : (nodes : List Node) → (preorderAll nodes).length = sizeAll nodes
  | [] => by rw [preorderAll, sizeAll, List.length_nil]
  | node :: rest => by
    rw [preorderAll, sizeAll, List.length_append, length_preorder node, length_preorderAll rest]

end

end Node

namespace Cursor

def at? (top : Cursor) : List Nat → Option Cursor
  | [] => some top
  | number :: place => (top.children[number]?).bind fun child => child.at? place

theorem at?_cons_eq_some_iff {top cursor : Cursor} {number : Nat} {place : List Nat} :
    top.at? (number :: place) = some cursor ↔
      ∃ child, top.node.children[number]? = some child ∧
        (top.down child).at? place = some cursor := by
  rw [at?, children, List.getElem?_map, Option.bind_map, Option.bind_eq_some_iff]
  rfl

theorem reaches_of_at? {top cursor : Cursor} {place : List Nat}
    (found : top.at? place = some cursor) : Reaches top cursor := by
  induction place generalizing top with
  | nil =>
    obtain rfl := Option.some_inj.mp found
    exact .here
  | cons number place ih =>
    obtain ⟨child, childFound, deeper⟩ := at?_cons_eq_some_iff.mp found
    exact (Reaches.child (List.mem_of_getElem? childFound)).trans (ih deeper)

theorem mem_places {top : Cursor} {place : List Nat} :
    place ∈ top.node.places ↔ ∃ cursor, top.at? place = some cursor := by
  induction place generalizing top with
  | nil => simp [Node.places_eq, at?]
  | cons number place ih =>
    rw [Node.places_eq, List.mem_cons, or_iff_right (List.cons_ne_nil number place),
      Node.mem_placesFrom]
    simp only [at?_cons_eq_some_iff]
    constructor
    · rintro ⟨index, child, inner, childFound, below, same⟩
      obtain ⟨rfl, rfl⟩ := List.cons.inj same
      obtain ⟨cursor, found⟩ := (@ih (top.down child)).mp below
      rw [Nat.zero_add]
      exact ⟨cursor, child, childFound, found⟩
    · rintro ⟨cursor, child, childFound, found⟩
      exact ⟨number, child, place, childFound, (@ih (top.down child)).mpr ⟨cursor, found⟩,
        by rw [Nat.zero_add]⟩

theorem placesFrom_map_at? {top : Cursor} {number : Nat} {nodes : List Node}
    (rest : top.node.children.drop number = nodes)
    (below : ∀ child ∈ nodes,
      child.places.map (top.down child).at? = (top.down child).walk.map some) :
    (Node.placesFrom number nodes).map top.at? = ((nodes.map top.down).flatMap walk).map some := by
  induction nodes generalizing number with
  | nil => rfl
  | cons child others ih =>
    have here : top.node.children[number]? = some child := by
      rw [← List.head?_drop, rest, List.head?_cons]
    have behind : top.node.children.drop (number + 1) = others := by
      rw [← List.tail_drop, rest, List.tail_cons]
    have first : top.at? ∘ (number :: ·) = (top.down child).at? := by
      funext place
      rw [Function.comp_apply, at?, children, List.getElem?_map, here, Option.map_some,
        Option.bind_some]
    rw [Node.placesFrom, List.map_append, List.map_map, first, below child List.mem_cons_self,
      ih behind fun other member => below other (List.mem_cons_of_mem _ member), List.map_cons,
      List.flatMap_cons, List.map_append]

theorem places_map_at? (top : Cursor) : top.node.places.map top.at? = top.walk.map some := by
  -- By induction on the size of the tree: the walk is not recursive on it, but takes fuel.
  induction height : top.node.size using Nat.strongRecOn generalizing top with
  | _ size ih =>
    have below : ∀ child ∈ top.node.children,
        child.places.map (top.down child).at? = (top.down child).walk.map some := by
      intro child member
      refine ih child.size ?_ (top.down child) rfl
      have smaller := Node.size_le_sizeAll member
      have whole := Node.size_eq top.node
      omega
    rw [Node.places_eq, List.map_cons, placesFrom_map_at? List.drop_zero below, walk_eq, children,
      List.map_cons, at?]

/-- What is pending once the first of the pending cursors is visited: its children come first. -/
def advance : List Cursor → List Cursor
  | [] => []
  | cursor :: pending => cursor.children ++ pending

theorem flatMap_walk_advance (pending : List Cursor) :
    (advance pending).flatMap walk = (pending.flatMap walk).tail := by
  cases pending with
  | nil => rfl
  | cons cursor rest =>
    rw [advance, List.flatMap_append, List.flatMap_cons, walk_eq cursor, List.cons_append,
      List.tail_cons]

/-- The pending cursors hold what is left of the walk, in order, after any number of visits. -/
theorem flatMap_walk_iterate (count : Nat) (pending : List Cursor) :
    (advance^[count] pending).flatMap walk = (pending.flatMap walk).drop count := by
  induction count generalizing pending with
  | zero => rfl
  | succ count ih =>
    rw [Function.iterate_succ_apply, ih, flatMap_walk_advance, List.drop_tail]

theorem flatMap_walk_eq_nil_iff {pending : List Cursor} :
    pending.flatMap walk = [] ↔ pending = [] := by
  cases pending with
  | nil => simp
  | cons cursor rest => simp [walk_eq cursor]

theorem head?_flatMap_walk (pending : List Cursor) :
    (pending.flatMap walk).head? = pending.head? := by
  cases pending with
  | nil => rfl
  | cons cursor rest => simp [walk_eq cursor]

theorem head?_iterate_advance {top : Cursor} {count : Nat} :
    (advance^[count] [top]).head? = top.walk[count]? := by
  rw [← head?_flatMap_walk, flatMap_walk_iterate, List.flatMap_singleton, List.head?_drop]

theorem iterate_advance_eq_nil_iff {top : Cursor} {count : Nat} :
    advance^[count] [top] = [] ↔ top.node.size ≤ count := by
  have length : top.walk.length = top.node.size := by
    rw [← Node.length_preorder, ← walk_map_node, List.length_map]
  rw [← flatMap_walk_eq_nil_iff, flatMap_walk_iterate, List.flatMap_singleton,
    List.drop_eq_nil_iff, length]

theorem visit_singleton {top : Cursor} {fuel : Nat} (enough : top.node.size ≤ fuel) :
    visit fuel [top] = top.walk := by
  rw [visit_eq_flatMap fuel [top] (by simpa [Node.sizeAll] using enough), List.flatMap_singleton]

/-- The list holds the nodes with the property, each node once, in the order of the document. -/
def ListsInOrder (top : Cursor) (property : Cursor → Prop) (found : List Cursor) : Prop :=
  ∃ places : List (List Nat), places.Pairwise (· < ·) ∧ places.map top.at? = found.map some ∧
    ∀ place cursor, top.at? place = some cursor → (place ∈ places ↔ property cursor)

def ListsOnce (top : Cursor) (property : Cursor → Prop) (found : List Cursor) : Prop :=
  ∃ ordered, found.Perm ordered ∧ ListsInOrder top property ordered

theorem ListsInOrder.of_walk (top : Cursor) : ListsInOrder top (fun _ => True) top.walk := by
  refine ⟨top.node.places, top.node.places_pairwise, places_map_at? top, ?_⟩
  intro place cursor found
  exact iff_of_true (mem_places.mpr ⟨cursor, found⟩) trivial

theorem ListsInOrder.of_filter {top : Cursor} {property : Cursor → Prop} {test : Cursor → Bool}
    (tells : ∀ cursor, Reaches top cursor → (test cursor = true ↔ property cursor)) :
    ListsInOrder top property (top.walk.filter test) := by
  let passes : Option Cursor → Bool := fun found => found.any test
  refine ⟨top.node.places.filter (passes ∘ top.at?), top.node.places_pairwise.filter _, ?_, ?_⟩
  · have lifted : passes ∘ some = test := rfl
    rw [← List.filter_map, places_map_at?, List.filter_map, lifted]
  · intro place cursor found
    rw [List.mem_filter, ← tells cursor (reaches_of_at? found)]
    simp [mem_places, passes, found]

end Cursor

namespace SourceFile.WellFormed

open Cursor

variable {file : SourceFile} (wellFormed : file.WellFormed)

include wellFormed

/-- A node with a lesser place does not begin later. -/
theorem start_le_of_place_lt {top first second : Cursor} (placed : Reaches file.root top)
    {place other : List Nat} (less : place < other) (found : top.at? place = some first)
    (otherFound : top.at? other = some second) : first.start ≤ second.start := by
  induction place generalizing top other with
  | nil =>
    obtain rfl := Option.some_inj.mp found
    exact (wellFormed.contains_of_reaches placed (reaches_of_at? otherFound)).1
  | cons number place ih =>
    cases other with
    | nil => exact absurd less (List.not_lt_nil _)
    | cons further other =>
      obtain ⟨child, childFound, below⟩ := at?_cons_eq_some_iff.mp found
      obtain ⟨sibling, siblingFound, otherBelow⟩ := at?_cons_eq_some_iff.mp otherFound
      have childPlaced := placed.down (List.mem_of_getElem? childFound)
      rcases List.cons_lt_cons_iff.mp less with earlier | ⟨rfl, deeper⟩
      · have siblingPlaced := placed.down (List.mem_of_getElem? siblingFound)
        have before : child.stop ≤ sibling.start := by
          obtain ⟨inside, rfl⟩ := List.getElem?_eq_some_iff.mp childFound
          obtain ⟨insideToo, rfl⟩ := List.getElem?_eq_some_iff.mp siblingFound
          exact List.pairwise_iff_getElem.mp (wellFormed.ordered top (mem_walk.mpr placed))
            number further inside insideToo earlier
        have within := wellFormed.contains_of_reaches childPlaced (reaches_of_at? below)
        have forward := wellFormed.start_le_stop (childPlaced.trans (reaches_of_at? below))
        have beyond := wellFormed.contains_of_reaches siblingPlaced (reaches_of_at? otherBelow)
        calc first.start
          _ ≤ first.stop := forward
          _ ≤ child.stop := within.2
          _ ≤ sibling.start := before
          _ ≤ second.start := beyond.1
      · obtain rfl := Option.some_inj.mp (childFound.symm.trans siblingFound)
        exact ih childPlaced deeper below otherBelow

theorem starts_pairwise {top : Cursor} (placed : Reaches file.root top)
    {property : Cursor → Prop} {found : List Cursor} (lists : ListsInOrder top property found) :
    found.Pairwise fun first second => first.start ≤ second.start := by
  obtain ⟨places, ordered, same, -⟩ := lists
  have lifted : (places.map top.at?).Pairwise fun one other => ∀ first second : Cursor,
      one = some first → other = some second → first.start ≤ second.start :=
    List.pairwise_map.mpr (ordered.imp fun less _ _ => wellFormed.start_le_of_place_lt placed less)
  rw [same, List.pairwise_map] at lifted
  exact lifted.imp fun {first second} apart => apart first second rfl rfl

end SourceFile.WellFormed

end Mutant
