import Mutant.Tree.Node

/-!
A syntax tree written as a list of rows in document order, each naming the row of its parent.
-/

namespace Mutant

structure Row where
  parent : Option Nat
  kind : String
  field : String
  start : Nat
  stop : Nat
  named : Bool
  missing : Bool
deriving DecidableEq, Repr

namespace Row

def node (row : Row) (children : List Node) : Node :=
  .mk (Kind.ofName row.kind) (if row.field.isEmpty then none else some (Field.ofName row.field))
    ⟨row.start, row.stop⟩ row.named row.missing children

/-- Trees that wait for their parent, each with the number of its parent's row. -/
abbrev Orphans := List (Nat × Node)

/-- Takes one row, last rows first: its children are complete when its turn comes. -/
def adopt (row : Row) (number : Nat) (orphans : Orphans) : Node × Orphans :=
  let (mine, others) := orphans.partition fun orphan => orphan.1 == number
  (row.node (mine.map (·.2)), others)

def tree (rows : List Row) : Option Node :=
  let step := fun (entry : Row × Nat) (state : Option Node × Orphans) =>
    let (row, number) := entry
    let (node, others) := row.adopt number state.2
    match row.parent with
    | none => (some node, others)
    | some parent => (state.1, (parent, node) :: others)
  (rows.zipIdx.foldr step (none, [])).1

end Row

end Mutant
