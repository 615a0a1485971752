import Mutant.Diagnostics.Hint
import Mutant.Diagnostics.Javac
import Mutant.Diagnostics.Snippet

/-!
A readable report on a failed build. Without structured errors it shows the end of the raw output,
so that output is never dropped.
-/

namespace Mutant

namespace Explanation

def tailLength : Nat := 2000

def title : List Char := "=== Failure diagnostics ===".toList

def rawTail (output : List Char) : List Char :=
  Text.joinLines
    [title, "(No structured compiler errors found. Showing tail of output)".toList, [],
      s!"---- LAST {tailLength} CHARS ----".toList, output.drop (output.length - tailLength)]

def highlights (mutation : Mutation) : List String :=
  if Hint.isRenaming mutation then
    ([mutation.oldName, mutation.newName].filterMap id).filter fun name => !name.isEmpty
  else []

def numberOr (number : Option Nat) : String :=
  (number.map toString).getD "?"

def place (error : CompileError) : List Char :=
  let file := match error.file with
    | some file => if file.isEmpty then "(unknown)" else file
    | none => "(unknown)"
  s!"File: {file}  Line: {numberOr error.line}  Col: {numberOr error.column}".toList

def snippetLines (disk : Disk) (names : List String) (error : CompileError) :
    Except DiagnosticsError (List (List Char)) :=
  match error.file with
  | none => .ok []
  | some file =>
      (Snippet.render disk (some file) (error.line.map Int.ofNat) (error.column.map Int.ofNat) names
        Snippet.defaultContext).map fun snippet => [[], snippet.toList]

def errorLines (disk : Disk) (names : List String) :
    Nat → List CompileError → Except DiagnosticsError (List (List Char))
  | _, [] => .ok []
  | index, error :: rest =>
      match snippetLines disk names error, errorLines disk names (index + 1) rest with
      | .error fault, _ => .error fault
      | .ok _, .error fault => .error fault
      | .ok snippet, .ok others =>
          .ok (s!"[{index}] {error.message}".toList :: place error :: snippet ++ [] :: others)

def hintLines (outcome : BuildOutcome) (mutation : Mutation) : List (List Char) :=
  match Hint.classify outcome mutation with
  | none => []
  | some hint =>
      let shown := fun (name : Option String) => name.getD "None"
      "Hints:".toList ::
        (hint.lines (shown mutation.oldName) (shown mutation.newName)).map String.toList

def text (disk : Disk) (outcome : BuildOutcome) (mutation : Mutation) :
    Except DiagnosticsError String :=
  match Javac.read disk outcome.output with
  | .error error => .error error
  | .ok [] => .ok (String.ofList (rawTail outcome.output))
  | .ok errors =>
      match errorLines disk (highlights mutation) 0 errors with
      | .error error => .error error
      | .ok body =>
          let header := [title, s!"Parsed {errors.length} compile error(s):".toList, []]
          .ok (String.ofList (Text.stripRight
            (Text.joinLines (header ++ body ++ hintLines outcome mutation))))

end Explanation

end Mutant
