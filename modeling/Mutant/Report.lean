import Mutant.Disk
import Mutant.Json.Printer
import Mutant.Record.Outcomes
import Mutant.Run.Verdict
import Mutant.Text.Utf8

/-!
The record of a run, and its JSON form on disk.
-/

namespace Mutant

structure Report where
  repo : String
  language : String := "java"
  operation : String
  targetFile : String := ""
  mutation : Option Mutation := none
  baselineBuild : Option BuildSummary := none
  mutatedBuild : Option BuildSummary := none
  diagnostics : Option String := none
  verdict : Verdict
  buildabilityPreserved : Bool := true
deriving DecidableEq, Repr

def Mutation.toValue (mutation : Mutation) : Value :=
  .record
    [("file", .text mutation.file),
      ("old_name", .ofOption .text mutation.oldName),
      ("new_name", .ofOption .text mutation.newName),
      ("changed", .bool mutation.changed),
      ("operation", .ofOption .text mutation.operation),
      ("strategy", .ofOption .text mutation.strategy),
      ("renamed_usages", .int mutation.renamedUsages)]

def BuildSummary.toValue (summary : BuildSummary) : Value :=
  .record
    [("success", .bool summary.success),
      ("exit_code", .int summary.exitCode),
      ("command", .list (summary.command.map .text)),
      ("stdout_head", .text summary.stdoutHead),
      ("stderr_head", .text summary.stderrHead)]

namespace Report

def verdictReader : Reader Verdict
  | .text name => ((Verdict.ofName? name).map Checked.fine).getD (.issue .choice)
  | _ => .issue .choice

open Reader in
def ofMembers (members : List (String × Value)) : Checked Report :=
  Report.mk <$> required members "repo" text
    <*> withDefault members "language" text "java"
    <*> required members "operation" text
    <*> withDefault members "target_file" text ""
    <*> withDefault members "mutation" (optional (record Mutation.ofMembers)) none
    <*> withDefault members "baseline_build" (optional (record BuildSummary.ofMembers)) none
    <*> withDefault members "mutated_build" (optional (record BuildSummary.ofMembers)) none
    <*> withDefault members "diagnostics" (optional text) none
    <*> required members "verdict" verdictReader
    <*> withDefault members "buildability_preserved" bool true

def toValue (report : Report) : Value :=
  .record
    [("repo", .text report.repo),
      ("language", .text report.language),
      ("operation", .text report.operation),
      ("target_file", .text report.targetFile),
      ("mutation", .ofOption Mutation.toValue report.mutation),
      ("baseline_build", .ofOption BuildSummary.toValue report.baselineBuild),
      ("mutated_build", .ofOption BuildSummary.toValue report.mutatedBuild),
      ("diagnostics", .ofOption .text report.diagnostics),
      ("verdict", .text report.verdict.name),
      ("buildability_preserved", .bool report.buildabilityPreserved)]

/-- Writes the report, making the folders above it first. -/
def write (report : Report) (disk : Disk) (path : Path) : Except (Trouble × Path) Disk :=
  match disk.makeFolders path.parent with
  | .error failure => .error failure
  | .ok grown =>
      match grown.write path (Utf8.ofString report.toValue.print) with
      | .error trouble => .error (trouble, path)
      | .ok written => .ok written

end Report

end Mutant
