import Mutant.Diagnostics.Error
import Mutant.Text.Blank
import Mutant.Text.Digit
import Mutant.Text.Lines

/-!
Compiler messages in build output. A message has a header such as

    /path/App.java:7: error: cannot find symbol

and usually the source line and a line with a caret after it. The caret gives the column; a header
on its own gives the line only.
-/

namespace Mutant

structure CompileError where
  file : Option String
  line : Option Nat
  column : Option Nat
  message : String
  rawText : String
deriving DecidableEq, Repr

namespace Javac

structure Header where
  path : List Char
  digits : List Char
  message : List Char
deriving DecidableEq, Repr

def afterBlanks? : List Char → Option (List Char)
  | [] => none
  | character :: rest => if Text.isBlank character then some (Text.stripLeft rest) else none

def after? (beginning text : List Char) : Option (List Char) :=
  if beginning.isPrefixOf text then some (text.drop beginning.length) else none

def severity? (text : List Char) : Option (List Char) :=
  (after? "error:".toList text).orElse fun _ => after? "warning:".toList text

def position? : List Char → Option (List Char × List Char)
  | ':' :: rest =>
      let digits := rest.takeWhile Text.isDigit
      if digits.isEmpty then none
      else
        ((((after? [':'] (rest.dropWhile Text.isDigit)).bind afterBlanks?).bind severity?).bind
          afterBlanks?).map fun message => (digits, message)
  | _ => none

def isSourcePath (reversed : List Char) : Bool :=
  "avaj.".toList.isPrefixOf reversed && 5 < reversed.length

def headerAt? (reversed rest : List Char) : Option Header :=
  if isSourcePath reversed then
    (position? rest).map fun (digits, message) => ⟨reversed.reverse, digits, message⟩
  else none

/-- Of several readings of a line, the one with the longest path counts. -/
def headerFrom (reversed : List Char) : List Char → Option Header
  | [] => headerAt? reversed []
  | character :: rest =>
      (headerFrom (character :: reversed) rest).orElse fun _ =>
        headerAt? reversed (character :: rest)

def header? (line : List Char) : Option Header :=
  headerFrom [] line

def caret : Char := '^'

/-- The column that a caret line points at, counted from one. -/
def caretColumn (line : List Char) : Nat :=
  (line.takeWhile (· != caret)).length + 1

/-- Whether there is such a file here is looked at before the number is read. -/
def errorOf (disk : Disk) (header : Header) (column : Option Nat) (raw : List (List Char)) :
    Except DiagnosticsError CompileError :=
  let path := String.ofList header.path
  match disk.probe (Path.ofText path) with
  | .error (trouble, path) => .error (.disk trouble path)
  | .ok entry =>
      if Text.maxDigits < header.digits.length then .error (.number ⟨header.digits.length⟩)
      else
        .ok
          { file := entry.map fun _ => path
            line := some (Text.ofDigits header.digits)
            column
            message := String.ofList header.message
            rawText := String.ofList (Text.joinLines raw) }

def consOk {ε α : Type} : Except ε α → Except ε (List α) → Except ε (List α)
  | .error error, _ => .error error
  | .ok _, .error error => .error error
  | .ok item, .ok items => .ok (item :: items)

/-- Reads the messages line by line. A header takes the two lines after it along if the second of
them has a caret. -/
def readLines (disk : Disk) : List (List Char) → Except DiagnosticsError (List CompileError)
  | [] => .ok []
  | line :: source :: pointer :: rest =>
      match header? line with
      | none => readLines disk (source :: pointer :: rest)
      | some header =>
          if pointer.contains caret then
            consOk (errorOf disk header (some (caretColumn pointer)) [line, source, pointer])
              (readLines disk rest)
          else
            consOk (errorOf disk header none [line]) (readLines disk (source :: pointer :: rest))
  | line :: rest =>
      match header? line with
      | none => readLines disk rest
      | some header => consOk (errorOf disk header none [line]) (readLines disk rest)

def read (disk : Disk) (output : List Char) : Except DiagnosticsError (List CompileError) :=
  readLines disk (Text.lines output)

end Javac

end Mutant
