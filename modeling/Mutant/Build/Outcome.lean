import Mutant.Text.Lines

/-!
What a build did, and bounded views of it for reports.
-/

namespace Mutant

structure BuildOutcome where
  success : Bool
  command : List String
  exitCode : Int
  stdout : String := ""
  stderr : String := ""
  timedOut : Bool := false
deriving DecidableEq, Repr

namespace BuildOutcome

def timeoutExit : Int := -9

def output (outcome : BuildOutcome) : List Char :=
  outcome.stdout.toList ++ '\n' :: outcome.stderr.toList

def withoutFinalNewlines (text : String) : String :=
  String.ofList (text.toList.reverse.dropWhile (· == '\n')).reverse

def summary (outcome : BuildOutcome) : String :=
  "\n".intercalate
    ["Command: " ++ " ".intercalate outcome.command,
      s!"Exit: {outcome.exitCode}" ++ (if outcome.timedOut then " (timed out)" else ""),
      "Success: " ++ (if outcome.success then "true" else "false"),
      "---- STDOUT ----",
      withoutFinalNewlines outcome.stdout,
      "---- STDERR ----",
      withoutFinalNewlines outcome.stderr]

end BuildOutcome

structure BuildSummary where
  success : Bool
  exitCode : Int
  command : List String
  stdoutHead : String := ""
  stderrHead : String := ""
deriving DecidableEq, Repr

namespace BuildSummary

/-- The first `count` items; a negative count leaves out that many at the end. -/
def firstItems {α : Type} (count : Int) (items : List α) : List α :=
  if 0 ≤ count then items.take count.toNat else items.take (items.length - (-count).toNat)

def head (text : String) (lines : Int) : String :=
  String.ofList (Text.joinLines (firstItems lines (Text.lines text.toList)))

def ofOutcome (outcome : BuildOutcome) (lines : Int) : BuildSummary :=
  ⟨outcome.success, outcome.exitCode, outcome.command, head outcome.stdout lines,
    head outcome.stderr lines⟩

end BuildSummary

end Mutant
