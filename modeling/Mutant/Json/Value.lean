import Mutant.Number.Double

/-!
JSON values. Objects keep the order of their members.
-/

namespace Mutant

inductive Value where
  | null
  | bool (value : Bool)
  | int (value : Int)
  | real (value : Double)
  | text (value : String)
  | list (items : List Value)
  | record (members : List (String × Value))
deriving Repr

namespace Value

def ofOption {α : Type} (encode : α → Value) : Option α → Value
  | none => null
  | some value => encode value

end Value

end Mutant
