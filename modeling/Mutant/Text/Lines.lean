/-!
Lines of a text. Build output and sources are cut at every line boundary known to Unicode, which are
more than the ends of lines that a compiler counts.
-/

namespace Mutant.Text

/-- The characters that end a line; a carriage return and a line feed together end one. -/
def isLineEnd (character : Char) : Bool :=
  let value := character.toNat
  (0x0A ≤ value && value ≤ 0x0D) || (0x1C ≤ value && value ≤ 0x1E) || value = 0x85 ||
    value = 0x2028 || value = 0x2029

/-- `line` holds the characters of the unfinished line, the last one first. -/
def linesFrom (line : List Char) : List Char → List (List Char)
  | [] => if line.isEmpty then [] else [line.reverse]
  | '\r' :: '\n' :: rest => line.reverse :: linesFrom [] rest
  | character :: rest =>
      if isLineEnd character then line.reverse :: linesFrom [] rest
      else linesFrom (character :: line) rest

/-- The lines of a text without their ends. A text that ends with a line end has no empty last line. -/
def lines (text : List Char) : List (List Char) :=
  linesFrom [] text

def unifyLineEnds : List Char → List Char
  | [] => []
  | '\r' :: '\n' :: rest => '\n' :: unifyLineEnds rest
  | '\r' :: rest => '\n' :: unifyLineEnds rest
  | character :: rest => character :: unifyLineEnds rest

def joinLines (lines : List (List Char)) : List Char :=
  List.intercalate ['\n'] lines

end Mutant.Text
