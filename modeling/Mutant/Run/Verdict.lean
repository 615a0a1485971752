/-!
How a run can end.
-/

namespace Mutant

inductive Verdict where
  | baselineFailed | noMutation | ok | mutatedBuildFailed
deriving DecidableEq, Repr

namespace Verdict

def all : List Verdict := [baselineFailed, noMutation, ok, mutatedBuildFailed]

def name : Verdict → String
  | baselineFailed => "baseline_failed"
  | noMutation => "no_mutation"
  | ok => "ok"
  | mutatedBuildFailed => "mutated_build_failed"

def ofName? (text : String) : Option Verdict :=
  all.find? fun verdict => verdict.name == text

def preservesBuild : Verdict → Bool
  | ok | noMutation => true
  | baselineFailed | mutatedBuildFailed => false

def exitCode (failOnBuild : Bool) : Verdict → Nat
  | baselineFailed => 2
  | mutatedBuildFailed => if failOnBuild then 1 else 0
  | ok | noMutation => 0

end Verdict

end Mutant
