import Mutant.Record.Checked

/-!
The settings of a run.
-/

namespace Mutant

structure RunConfig where
  operation : String
  pickIndex : Option Int
  randomSeed : Option Int
  /-- How many files are tried, at least one. -/
  limit : Int
  timeoutMinutes : Double
  skipTests : Bool
  failOnBuild : Bool
  symbolResolution : Bool
  diagnosticsLines : Int
  keepMutation : Bool
deriving DecidableEq, Repr

namespace RunConfig

def limitReader : Reader Int := fun value =>
  (Reader.int value).map (max 1)

def timeoutReader : Reader Double := fun value =>
  (Reader.real value).andThen fun minutes =>
    if minutes.exceedsZero then .fine minutes
    else .issue (.rule "timeout_minutes must be positive")

open Reader in
def ofMembers (members : List (String × Value)) : Checked RunConfig :=
  RunConfig.mk <$> withDefault members "operation" text "rename-local"
    <*> withDefault members "pick_index" (optional int) none
    <*> withDefault members "random_seed" (optional int) none
    <*> withDefault members "limit" limitReader 1
    <*> withDefault members "timeout_minutes" timeoutReader (Double.ofInt 30)
    <*> withDefault members "skip_tests" bool true
    <*> withDefault members "fail_on_build" bool false
    <*> withDefault members "symbol_resolution" bool true
    <*> withDefault members "diagnostics_lines" int 50
    <*> withDefault members "keep_mutation" bool false

end RunConfig

end Mutant
