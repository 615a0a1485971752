import Mutant.Cli.Arguments
import Mutant.Cli.Markup
import Mutant.Discovery.Pattern
import Mutant.Run.Session

/-!
The command line program: `run` mutates one element of a repository and checks that it still builds,
`operations` lists the operators.
-/

namespace Mutant.Cli

open Arguments

inductive Crash where
  | discovery (failure : Discovery.Failure Pattern.Fault)
  | start (error : StartError)
  | run (error : RunError)
  | disk (trouble : Trouble)
  | markup (fault : Markup.Fault)
deriving DecidableEq, Repr

structure Answer where
  exitCode : Nat
  stdout : String := ""
  crash : Option Crash := none
deriving DecidableEq, Repr

def usageError : Answer := { exitCode := 2 }

def crashed (stdout : String) (crash : Crash) : Answer :=
  { exitCode := 1, stdout, crash := some crash }

/-! ### Values of options -/

def integer? (text : String) : Option Int :=
  match Reader.int (.text text) with
  | .fine value => some value
  | .wrong _ => none

def real? (text : String) : Option Double :=
  match Reader.real (.text text) with
  | .fine value => some value
  | .wrong _ => none

/-- The repository must be a folder. No text at all names the working directory. -/
def repo? (disk : Disk) (text : String) : Option Path :=
  let path := Path.ofText text
  if disk.isFolder path then some path else none

def jsonOut? (disk : Disk) (text : String) : Option Path :=
  let path := Path.ofText text
  if path.hasNull || disk.isFolder path then none else some path

/-! ### The list of operators -/

def operatorValue (operator : Operator) : Value :=
  .record
    [("operation", .text operator.name),
      ("description", .text operator.action),
      ("preserves_semantics", .bool operator.preservesSemantics),
      ("alters_control_flow", .bool operator.altersControlFlow)]

def operatorsJson : String :=
  (Value.list (Operator.all.map operatorValue)).print ++ "\n"

def truth (value : Bool) : String := if value then "True" else "False"

def tableHeader : List String :=
  ["Operation", "Action", "Semantics-preserving", "Alters control flow"]

def tableRow (operator : Operator) : List String :=
  [operator.name, operator.action, truth operator.preservesSemantics,
    truth operator.altersControlFlow]

def columnWidths (rows : List (List String)) : List Nat :=
  rows.foldl (fun widths row => List.zipWith max widths (row.map String.length))
    (tableHeader.map String.length)

def cell (width : Nat) (text : String) : String :=
  " " ++ text ++ "".pushn ' ' (width - text.length) ++ " "

def tableLine (left separator right : String) (cells : List String) : String :=
  left ++ separator.intercalate cells ++ right ++ "\n"

def ruleLine (left separator right : String) (line : Char) (widths : List Nat) : String :=
  tableLine left separator right (widths.map fun width => "".pushn line (width + 2))

def centred (width : Nat) (text : String) : String :=
  let blank := width - text.length
  "".pushn ' ' (blank / 2) ++ text ++ "".pushn ' ' (blank - blank / 2)

def operatorsTable : String :=
  let rows := Operator.all.map tableRow
  let widths := columnWidths rows
  let total := widths.foldl (fun sum width => sum + width + 3) 1
  let line := fun (border : String) (row : List String) =>
    tableLine border border border (List.zipWith cell widths row)
  centred total "Mutation operators" ++ "\n" ++
    ruleLine "┏" "┳" "┓" '━' widths ++
    line "┃" tableHeader ++
    ruleLine "┡" "╇" "┩" '━' widths ++
    String.join (rows.map (line "│")) ++
    ruleLine "└" "┴" "┘" '─' widths

def operationsSpecs : List Spec := [{ long := "json", takesValue := false }]

def operations (arguments : List String) : Answer :=
  match parseMixed operationsSpecs none arguments with
  | none => usageError
  | some parsed =>
      if parsed.operands.isEmpty then
        { exitCode := 0, stdout := if parsed.has "json" then operatorsJson else operatorsTable }
      else usageError

/-! ### The run command -/

def runSpecs : List Spec :=
  [{ long := "repo" },
    { long := "operation", letter := some 'o' },
    { long := "file-glob" },
    { long := "include-tests", takesValue := false },
    { long := "limit" },
    { long := "pick-index" },
    { long := "random-seed" },
    { long := "keep-mutation", takesValue := false },
    { long := "json-out" },
    { long := "diagnostics-lines" },
    { long := "fail-on-build", takesValue := false },
    { long := "timeout" },
    { long := "run-tests", takesValue := false },
    { long := "no-symbol-resolution", takesValue := false }]

structure RunArguments where
  repo : Path
  operation : String
  fileGlobs : List String
  includeTests : Bool
  limit : Int
  pickIndex : Option Int
  randomSeed : Option Int
  keepMutation : Bool
  jsonOut : Option Path
  diagnosticsLines : Int
  failOnBuild : Bool
  timeout : Double
  runTests : Bool
  noSymbolResolution : Bool
deriving DecidableEq, Repr

def readOption {α : Type} (parsed : Parsed) (option : String) (read : String → Option α) :
    Option (Option α) :=
  match parsed.last? option with
  | none => some none
  | some text => (read text).map some

def runArguments? (disk : Disk) (arguments : List String) : Option RunArguments := do
  let parsed ← parseMixed runSpecs none arguments
  guard parsed.operands.isEmpty
  let repo ← repo? disk (← parsed.last? "repo")
  let limit ← readOption parsed "limit" integer?
  let pickIndex ← readOption parsed "pick-index" integer?
  let randomSeed ← readOption parsed "random-seed" integer?
  let jsonOut ← readOption parsed "json-out" (jsonOut? disk)
  let diagnosticsLines ← readOption parsed "diagnostics-lines" integer?
  let timeout ← readOption parsed "timeout" real?
  return {
    repo
    operation := (parsed.last? "operation").getD "rename-local"
    fileGlobs := parsed.values "file-glob"
    includeTests := parsed.has "include-tests"
    limit := limit.getD 1
    pickIndex
    randomSeed
    keepMutation := parsed.has "keep-mutation"
    jsonOut
    diagnosticsLines := diagnosticsLines.getD 50
    failOnBuild := parsed.has "fail-on-build"
    timeout := timeout.getD (Double.ofInt 30)
    runTests := parsed.has "run-tests"
    noSymbolResolution := parsed.has "no-symbol-resolution" }

def RunArguments.config (arguments : RunArguments) : Checked RunConfig :=
  RunConfig.ofMembers
    [("operation", .text arguments.operation),
      ("pick_index", .ofOption .int arguments.pickIndex),
      ("random_seed", .ofOption .int arguments.randomSeed),
      ("limit", .int arguments.limit),
      ("timeout_minutes", .real arguments.timeout),
      ("skip_tests", .bool (!arguments.runTests)),
      ("fail_on_build", .bool arguments.failOnBuild),
      ("symbol_resolution", .bool (!arguments.noSymbolResolution)),
      ("diagnostics_lines", .int arguments.diagnosticsLines),
      ("keep_mutation", .bool arguments.keepMutation)]

def RunArguments.patterns (arguments : RunArguments) : List String :=
  if arguments.fileGlobs.isEmpty then Discovery.defaultPatterns arguments.includeTests
  else arguments.fileGlobs

def printed (stdout line : String) (next : String → Answer) : Answer :=
  match Markup.printed line with
  | .error fault => crashed stdout (.markup fault)
  | .ok text => next (stdout ++ text)

def errorLine (message : String) : Answer :=
  printed "" ("[red]Error: " ++ message ++ "[/red]") fun stdout => { exitCode := 2, stdout }

def verdictLine : Verdict → String
  | .ok => "[green]✅ Buildability preserved after mutation.[/green]"
  | .mutatedBuildFailed => "[red]❌ Mutation caused build failure.[/red]"
  | .baselineFailed => "[red]Baseline build failed. No mutation attempted.[/red]"
  | .noMutation => "[yellow]No suitable mutation target found.[/yellow]"

def saved (world : World) (report : Report) (jsonOut : Option Path) (stdout : String)
    (next : World → Answer × World) : Answer × World :=
  match jsonOut with
  | none => next world
  | some path =>
      match report.write world.disk path with
      | .error (trouble, _) => (crashed stdout (.disk trouble), world)
      | .ok disk => next { world with disk }

def withoutFiles (world : World) (arguments : RunArguments) (config : RunConfig) :
    Answer × World :=
  let report : Report :=
    { repo := (world.resolve arguments.repo).text
      operation := config.operation
      verdict := .noMutation }
  let stdout := "No files matched.\n"
  saved world report arguments.jsonOut stdout fun world => ({ exitCode := 1, stdout }, world)

def reported (arguments : RunArguments) (config : RunConfig) (report : Report) (world : World) :
    Answer × World :=
  let stdout := match report.diagnostics with
    | some text => if text.isEmpty then "" else Console.plain text
    | none => ""
  let finish := fun (stdout : String) =>
    printed stdout (verdictLine report.verdict) fun stdout =>
      { exitCode := report.verdict.exitCode config.failOnBuild, stdout }
  saved world report arguments.jsonOut stdout fun world =>
    match arguments.jsonOut with
    | none => (finish stdout, world)
    | some path =>
        let line := s!"\n📝 Wrote diagnostics JSON → {(world.resolve path).text}"
        (printed stdout line finish, world)

def runFiles (world : World) (arguments : RunArguments) (config : RunConfig)
    (files : List Path) : Answer × World :=
  match Session.start world.disk arguments.repo config with
  | .error error => (crashed "" (.start error), world)
  | .ok session =>
      match session.run files world with
      | (.ok report, world) => reported arguments config report world
      | (.error (.build (.toolMissing reason)), world) => (errorLine reason.message, world)
      | (.error error, world) => (crashed "" (.run error), world)

def refusedConfig : Answer := { exitCode := 2, stdout := "<validation error>" }

def run (world : World) (arguments : List String) : Answer × World :=
  match runArguments? world.disk arguments with
  | none => (usageError, world)
  | some arguments =>
      if (Operator.ofName? arguments.operation).isNone then
        (errorLine (Operator.unknown arguments.operation), world)
      else
        match arguments.config with
        | .wrong _ => (refusedConfig, world)
        | .fine config =>
            match Discovery.find Pattern.spec world.disk arguments.repo arguments.patterns
                Discovery.defaultIgnored with
            | .error failure => (crashed "" (.discovery failure), world)
            | .ok [] => withoutFiles world arguments config
            | .ok files => runFiles world arguments config files

/-! ### The program -/

def globalSpecs : List Spec :=
  [{ long := "verbose", letter := some 'v', takesValue := false },
    { long := "quiet", letter := some 'q', takesValue := false }]

def needsFiles (arguments : List String) : Bool :=
  match parseLeading globalSpecs arguments with
  | some parsed => parsed.operands.head? == some "run"
  | none => false

def answer (world : World) (arguments : List String) : Answer × World :=
  match parseLeading globalSpecs arguments with
  | none => (usageError, world)
  | some parsed =>
      match parsed.operands with
      | "run" :: rest => run world rest
      | "operations" :: rest => (operations rest, world)
      | _ => (usageError, world)

end Mutant.Cli
