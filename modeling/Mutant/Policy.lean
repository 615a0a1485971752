import Mutant.Random.Twister

/-!
Which of several candidates to take: the one at an index, else one drawn from a seed, else the
first.
-/

namespace Mutant

structure Policy where
  index : Option Int := none
  seed : Option Int := none
deriving DecidableEq, Repr

namespace Policy

def nothingToPick : String := "cannot pick from an empty candidate list"

/-- The position of the candidate to take out of `count`. An index beyond either end means the
candidate at that end. -/
def position (policy : Policy) (count : Nat) : Option Nat :=
  if count = 0 then none
  else
    match policy.index, policy.seed with
    | some index, _ => some (min index.toNat (count - 1))
    | none, some seed => some (Twister.below seed count)
    | none, none => some 0

def pick {α : Type} (policy : Policy) (candidates : List α) : Option α :=
  (policy.position candidates.length).bind fun position => candidates[position]?

end Policy

end Mutant
