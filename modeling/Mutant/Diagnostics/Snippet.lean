import Mutant.Diagnostics.Error
import Mutant.Text.Blank
import Mutant.Text.Lines
import Mutant.Text.Utf8

/-!
The source lines around an error: the line itself is marked and may have names highlighted and a
caret below it.
-/

namespace Mutant.Snippet

def nothing : String := "(no local source to show)"

def defaultContext : Int := 2

/-- The lines of a source as they are numbered here. -/
def sourceLines (content : Bytes) : List (List Char) :=
  Text.lines (Text.unifyLineEnds (Utf8.decodeLossy content))

def highlightAll : List String → List Char → Except Mention.Fault (List Char)
  | [], text => .ok text
  | name :: names, text =>
      if (Text.strip name.toList).isEmpty then highlightAll names text
      else
        match Mention.highlight name.toList text with
        | .error fault => .error fault
        | .ok highlighted => highlightAll names highlighted

def numberText (number : Nat) : List Char :=
  let digits := (toString number).toList
  List.replicate (4 - digits.length) ' ' ++ digits

def row (mark : String) (number : Nat) (text : List Char) : List Char :=
  mark.toList ++ ' ' :: numberText number ++ " | ".toList ++ text

def caretRow (column : Int) : List Char :=
  "   ____| ".toList ++ List.replicate (column - 1).toNat ' ' ++ ['^']

def markedRows (number : Nat) (column : Option Int) (names : List String) (text : List Char) :
    Except Mention.Fault (List (List Char)) :=
  (highlightAll names text).map fun highlighted =>
    row ">>" number highlighted ::
      match column with
      | some column => if 0 < column then [caretRow column] else []
      | none => []

def rowsAt (marked : Int) (column : Option Int) (names : List String) (index : Nat)
    (text : List Char) : Except Mention.Fault (List (List Char)) :=
  if (index : Int) = marked then markedRows (index + 1) column names text
  else .ok [row "  " (index + 1) text]

def rowsFrom (marked : Int) (column : Option Int) (names : List String) :
    Nat → List (List Char) → Except Mention.Fault (List (List Char))
  | _, [] => .ok []
  | first, text :: rest =>
      match rowsAt marked column names first text,
          rowsFrom marked column names (first + 1) rest with
      | .error fault, _ => .error fault
      | .ok _, .error fault => .error fault
      | .ok here, .ok others => .ok (here ++ others)

/-- The rows for the lines that are at most `context` away from line number `line`. -/
def rows (lines : List (List Char)) (line : Int) (column : Option Int) (names : List String)
    (context : Int) : Except Mention.Fault (List (List Char)) :=
  let marked := line - 1
  let first := max 0 (marked - context)
  let last := min (lines.length - 1 : Int) (marked + context)
  let count := (last - first + 1).toNat
  rowsFrom marked column names first.toNat ((lines.drop first.toNat).take count)

def render (disk : Disk) (file : Option String) (line column : Option Int) (names : List String)
    (context : Int) : Except DiagnosticsError String :=
  match file, line with
  | some file, some line =>
      match disk.probe (Path.ofText file) with
      | .error (trouble, path) => .error (.disk trouble path)
      | .ok (some (.file _ _)) =>
          match disk.read (Path.ofText file) with
          | .error trouble => .error (.disk trouble (Path.ofText file))
          | .ok content =>
              let lines := sourceLines content
              if lines.isEmpty then .ok nothing
              else
                match rows lines line column names context with
                | .error fault => .error (.highlight fault)
                | .ok rows => .ok (String.ofList (Text.joinLines rows))
      | .ok _ => .ok nothing
  | _, _ => .ok nothing

end Mutant.Snippet
