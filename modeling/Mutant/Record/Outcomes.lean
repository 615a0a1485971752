import Mutant.Build.Outcome
import Mutant.Mutation
import Mutant.Record.Checked

/-!
Readers for the records of mutations and builds.
-/

namespace Mutant

def Mutation.named (mutation : Mutation) : Checked Mutation :=
  if mutation.changed && ((mutation.newName.map String.isEmpty).getD true) then
    .issue (.rule "a changed MutationResult must carry new_name")
  else .fine mutation

open Reader in
def Mutation.ofMembers (members : List (String × Value)) : Checked Mutation :=
  (Mutation.mk <$> required members "file" text
    <*> withDefault members "old_name" (optional text) none
    <*> withDefault members "new_name" (optional text) none
    <*> withDefault members "changed" bool false
    <*> withDefault members "operation" (optional text) none
    <*> withDefault members "strategy" (optional text) none
    <*> withDefault members "renamed_usages" int 0).andThen Mutation.named

open Reader in
def BuildOutcome.ofMembers (members : List (String × Value)) : Checked BuildOutcome :=
  (fun success command exitCode stdout stderr timedOut _ =>
      BuildOutcome.mk success command exitCode stdout stderr timedOut)
    <$> required members "success" bool
    <*> required members "command" (list text)
    <*> required members "exit_code" int
    <*> withDefault members "stdout" text ""
    <*> withDefault members "stderr" text ""
    <*> withDefault members "timed_out" bool false
    <*> withDefault members "duration" real (Double.ofInt 0)

open Reader in
def BuildSummary.ofMembers (members : List (String × Value)) : Checked BuildSummary :=
  BuildSummary.mk <$> required members "success" bool
    <*> required members "exit_code" int
    <*> required members "command" (list text)
    <*> withDefault members "stdout_head" text ""
    <*> withDefault members "stderr_head" text ""

end Mutant
