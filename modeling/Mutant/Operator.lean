import Mutant.Text.Lowercase

/-!
The mutation operators by name, and what is said about each of them.
-/

namespace Mutant

inductive Operator where
  | renameLocal | renameParameter | insertComment | doubleNegateIf | flipIf
deriving DecidableEq, Repr

namespace Operator

def all : List Operator :=
  [renameLocal, renameParameter, insertComment, doubleNegateIf, flipIf]

def name : Operator → String
  | renameLocal => "rename-local"
  | renameParameter => "rename-param"
  | insertComment => "insert-comment"
  | doubleNegateIf => "double-negate-if"
  | flipIf => "flip-if"

/-- Names are recognised in any case. -/
def ofName? (text : String) : Option Operator :=
  all.find? fun operator => operator.name == Text.lower text

def unknown (text : String) : String :=
  s!"Unknown operation '{text}'. Choose one of: " ++ ", ".intercalate (all.map name)

def action : Operator → String
  | renameLocal => "Renamed local variable"
  | renameParameter => "Renamed parameter"
  | insertComment => "Inserted comment"
  | doubleNegateIf => "Double-negated condition"
  | flipIf => "Flipped if/else"

def label : Operator → String
  | renameLocal => "local variable"
  | renameParameter => "parameter"
  | insertComment => "insertion point"
  | doubleNegateIf | flipIf => "if-statement"

def preservesSemantics (_ : Operator) : Bool := true

def altersControlFlow : Operator → Bool
  | flipIf => true
  | _ => false

end Operator

end Mutant
