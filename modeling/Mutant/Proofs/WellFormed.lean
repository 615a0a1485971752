import Mathlib.Data.List.Pairwise
import Mutant.Proofs.Tree
import Mutant.Binding.Reference
import Mutant.Source

/-!
What a parser promises of the tree of a file. Spans are nested and siblings follow one another, so
that two nodes lie one within the other or apart. A name is a leaf, so that two names are the same
node or lie apart, and no other node begins or ends inside a name.
-/

namespace Mutant

def Kind.declaresByName : Kind → Bool
  | .variableDeclarator | .formalParameter | .catchFormalParameter | .enhancedForStatement
  | .resource => true
  | _ => false

def Node.declaresAs (parent child : Node) : Bool :=
  child.field == some .name && (parent.kind.declaresByName || parent.field == some .declarator)

def Node.Apart (first second : Node) : Prop :=
  first.stop ≤ second.start ∨ second.stop ≤ first.start

instance : Std.Symm Node.Apart := ⟨fun _ _ => Or.symm⟩

/-- An identifier, or a name that declares a variable. -/
def Cursor.isName (cursor : Cursor) : Bool :=
  cursor.kind == .identifier ||
    match cursor.above with
    | [] => false
    | parent :: _ => parent.declaresAs cursor.node

namespace SourceFile

structure SpansNested (file : SourceFile) : Prop where
  inBounds : file.tree.stop ≤ file.source.length
  forward : ∀ cursor ∈ file.root.walk, cursor.start ≤ cursor.stop
  nested : ∀ cursor ∈ file.root.walk, ∀ child ∈ cursor.node.children,
    cursor.span.contains child.span = true
  ordered : ∀ cursor ∈ file.root.walk,
    cursor.node.children.Pairwise fun first second => first.stop ≤ second.start

structure WellFormed (file : SourceFile) : Prop extends file.SpansNested where
  leaf : ∀ cursor ∈ file.root.walk, cursor.isName = true →
    cursor.start < cursor.stop ∧ cursor.node.children = []

/-- Which kinds of nodes the grammar puts in two of the fields. -/
structure FollowsGrammar (file : SourceFile) : Prop where
  declarators : ∀ cursor ∈ file.root.walk, ∀ child ∈ cursor.node.children,
    child.field = some .declarator → child.kind = .variableDeclarator
  parameters : ∀ cursor ∈ file.root.walk,
    cursor.kind.isCallable = true ∨ cursor.kind = .recordDeclaration →
    ∀ child ∈ cursor.node.children, child.field = some .parameters →
      child.kind = .formalParameters

end SourceFile

namespace Cursor

theorem isName_down_declaresAs {parent : Cursor} {child : Node}
    (declares : parent.node.declaresAs child = true) : (parent.down child).isName = true := by
  simp [isName, down, declares]

end Cursor

theorem Span.contains_iff {outer inner : Span} :
    outer.contains inner = true ↔ outer.start ≤ inner.start ∧ inner.stop ≤ outer.stop := by
  simp [contains]

namespace SourceFile

open Cursor

variable {file : SourceFile}

namespace SpansNested

variable (spans : file.SpansNested)

include spans

theorem start_le_stop {cursor : Cursor} (placed : Reaches file.root cursor) :
    cursor.start ≤ cursor.stop :=
  spans.forward cursor (mem_walk.mpr placed)

theorem contains_of_reaches {top bottom : Cursor} (placed : Reaches file.root top)
    (reaches : Reaches top bottom) : top.start ≤ bottom.start ∧ bottom.stop ≤ top.stop := by
  induction reaches with
  | here => exact ⟨Nat.le_refl _, Nat.le_refl _⟩
  | @down cursor child upper member ih =>
    have inner := spans.nested cursor (mem_walk.mpr (placed.trans upper)) child member
    rw [Span.contains_iff] at inner
    exact ⟨Nat.le_trans ih.1 inner.1, Nat.le_trans inner.2 ih.2⟩

theorem stop_le_length {cursor : Cursor} (placed : Reaches file.root cursor) :
    cursor.stop ≤ file.source.length :=
  Nat.le_trans (spans.contains_of_reaches .here placed).2 spans.inBounds

theorem siblings_apart {parent : Cursor} (placed : Reaches file.root parent) {first second : Node}
    (firstIn : first ∈ parent.node.children) (secondIn : second ∈ parent.node.children)
    (different : first ≠ second) : Node.Apart first second := by
  have siblings : parent.node.children.Pairwise Node.Apart :=
    (spans.ordered parent (mem_walk.mpr placed)).imp Or.inl
  exact siblings.forall firstIn secondIn different

/-- Two nodes lie one within the other or apart. -/
theorem reaches_or_apart {first second : Cursor} (firstPlaced : Reaches file.root first)
    (secondPlaced : Reaches file.root second) :
    Reaches first second ∨ Reaches second first ∨
      first.stop ≤ second.start ∨ second.stop ≤ first.start := by
  induction firstPlaced with
  | here => exact Or.inl secondPlaced
  | @down parent child parentPlaced member ih =>
    have inside := spans.contains_of_reaches parentPlaced (.child member)
    rcases ih with below | above | apart
    · rcases below.first_step with rfl | ⟨other, otherIn, reaches⟩
      · exact Or.inr (Or.inl (.child member))
      · by_cases same : child = other
        · subst same
          exact Or.inl reaches
        · -- `second` is inside of a child that follows this one, or is followed by it.
          have apart := spans.siblings_apart parentPlaced member otherIn same
          have within := spans.contains_of_reaches (parentPlaced.down otherIn) reaches
          refine Or.inr (Or.inr ?_)
          rcases apart with before | behind
          · exact Or.inl (Nat.le_trans before within.1)
          · exact Or.inr (Nat.le_trans within.2 behind)
    · exact Or.inr (Or.inl (above.down member))
    · omega

end SpansNested

end SourceFile

namespace SourceFile.WellFormed

open Cursor

variable {file : SourceFile} (wellFormed : file.WellFormed)

include wellFormed

/-- Nothing but the name itself lies within a name. -/
theorem reaches_name {name other : Cursor} (named : name.isName = true)
    (placed : Reaches file.root name) (reaches : Reaches name other) : other = name :=
  reaches.eq_of_leaf (wellFormed.leaf name (mem_walk.mpr placed) named).2

theorem name_nonempty {name : Cursor} (named : name.isName = true)
    (placed : Reaches file.root name) : name.start < name.stop :=
  (wellFormed.leaf name (mem_walk.mpr placed) named).1

/-- No node begins or ends inside a name. -/
theorem clear_of_name {name cursor : Cursor} (named : name.isName = true)
    (namePlaced : Reaches file.root name) (placed : Reaches file.root cursor) :
    (name.stop ≤ cursor.start ∨ cursor.start ≤ name.start) ∧
      (name.stop ≤ cursor.stop ∨ cursor.stop ≤ name.start) := by
  have forward := wellFormed.start_le_stop placed
  rcases wellFormed.reaches_or_apart namePlaced placed with below | above | apart
  · rw [wellFormed.reaches_name named namePlaced below]
    exact ⟨Or.inr (Nat.le_refl _), Or.inl (Nat.le_refl _)⟩
  · have := wellFormed.contains_of_reaches placed above
    omega
  · omega

theorem names_apart {first second : Cursor} (firstNamed : first.isName = true)
    (secondNamed : second.isName = true) (firstPlaced : Reaches file.root first)
    (secondPlaced : Reaches file.root second) :
    first = second ∨ first.stop ≤ second.start ∨ second.stop ≤ first.start := by
  rcases wellFormed.reaches_or_apart firstPlaced secondPlaced with below | above | apart
  · exact Or.inl (wellFormed.reaches_name firstNamed firstPlaced below).symm
  · exact Or.inl (wellFormed.reaches_name secondNamed secondPlaced above)
  · exact Or.inr apart

theorem eq_of_start_eq {first second : Cursor} (firstNamed : first.isName = true)
    (secondNamed : second.isName = true) (firstPlaced : Reaches file.root first)
    (secondPlaced : Reaches file.root second) (same : first.start = second.start) :
    first = second := by
  have firstNonempty := wellFormed.name_nonempty firstNamed firstPlaced
  have secondNonempty := wellFormed.name_nonempty secondNamed secondPlaced
  rcases wellFormed.names_apart firstNamed secondNamed firstPlaced secondPlaced with equal | apart
  · exact equal
  · omega

theorem reaches_of_contains {top name : Cursor} (named : name.isName = true)
    (topPlaced : Reaches file.root top) (placed : Reaches file.root name)
    (contains : top.span.contains name.span = true) : Reaches top name := by
  have nonempty := wellFormed.name_nonempty named placed
  rw [Span.contains_iff] at contains
  rcases wellFormed.reaches_or_apart topPlaced placed with below | above | apart
  · exact below
  · rw [wellFormed.reaches_name named placed above]
    exact .here
  · change top.start ≤ name.start ∧ name.stop ≤ top.stop at contains
    omega

end SourceFile.WellFormed

end Mutant
