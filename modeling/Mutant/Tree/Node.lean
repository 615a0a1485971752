import Mutant.Bytes
import Mutant.Tree.Kind

/-!
A syntax tree, and cursors into it. A `Cursor` is a node together with its ancestors, so that one
can walk outward from a name to the scopes around it.
-/

namespace Mutant

inductive Node where
  | mk (kind : Kind) (field : Option Field) (span : Span) (named missing : Bool)
      (children : List Node)
deriving Repr

namespace Node

def kind : Node → Kind
  | mk kind _ _ _ _ _ => kind

def field : Node → Option Field
  | mk _ field _ _ _ _ => field

def span : Node → Span
  | mk _ _ span _ _ _ => span

def named : Node → Bool
  | mk _ _ _ named _ _ => named

def missing : Node → Bool
  | mk _ _ _ _ missing _ => missing

def children : Node → List Node
  | mk _ _ _ _ _ children => children

def start (node : Node) : Nat := node.span.start

def stop (node : Node) : Nat := node.span.stop

mutual

def size : Node → Nat
  | mk _ _ _ _ _ children => 1 + sizeAll children

def sizeAll : List Node → Nat
  | [] => 0
  | node :: rest => size node + sizeAll rest

end

/-- A node is recognised by its range and kind. -/
def same (first second : Node) : Bool :=
  first.span == second.span && first.kind == second.kind

def namedChildren (node : Node) : List Node :=
  node.children.filter named

def childrenAt (node : Node) (field : Field) : List Node :=
  node.children.filter fun child => child.field == some field

def childAt (node : Node) (field : Field) : Option Node :=
  node.children.find? fun child => child.field == some field

end Node

structure Cursor where
  node : Node
  /-- The ancestors, nearest first. -/
  above : List Node := []
deriving Repr

namespace Cursor

def kind (cursor : Cursor) : Kind := cursor.node.kind

def span (cursor : Cursor) : Span := cursor.node.span

def start (cursor : Cursor) : Nat := cursor.node.start

def stop (cursor : Cursor) : Nat := cursor.node.stop

def parent (cursor : Cursor) : Option Cursor :=
  match cursor.above with
  | [] => none
  | node :: above => some ⟨node, above⟩

def down (cursor : Cursor) (child : Node) : Cursor :=
  ⟨child, cursor.node :: cursor.above⟩

def children (cursor : Cursor) : List Cursor :=
  cursor.node.children.map cursor.down

def namedChildren (cursor : Cursor) : List Cursor :=
  cursor.node.namedChildren.map cursor.down

def childrenAt (cursor : Cursor) (field : Field) : List Cursor :=
  (cursor.node.childrenAt field).map cursor.down

def childAt (cursor : Cursor) (field : Field) : Option Cursor :=
  (cursor.node.childAt field).map cursor.down

def ancestorsFrom : List Node → List Cursor
  | [] => []
  | node :: above => ⟨node, above⟩ :: ancestorsFrom above

def ancestors (cursor : Cursor) : List Cursor :=
  ancestorsFrom cursor.above

def enclosing (cursor : Cursor) (kinds : List Kind) : Option Cursor :=
  cursor.ancestors.find? fun ancestor => kinds.contains ancestor.kind

/-- Visits the pending cursors in turn, each one's children directly after it. -/
def visit : Nat → List Cursor → List Cursor
  | 0, _ => []
  | _ + 1, [] => []
  | fuel + 1, cursor :: pending => cursor :: visit fuel (cursor.children ++ pending)

/-- The cursor and everything below it, in the order of the document. -/
def walk (cursor : Cursor) : List Cursor :=
  visit cursor.node.size [cursor]

end Cursor

end Mutant
