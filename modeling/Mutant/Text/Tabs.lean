import Mutant.Text.CellWidth
import Mutant.Text.Split

/-!
Tabs as blanks. A tab leads at least one cell on, to the next multiple of eight.
-/

namespace Mutant.Text

def tabStop : Nat := 8

def tabBlanks (piece : List Char) : List Char :=
  let reached := cells (piece ++ [' '])
  List.replicate (1 + (tabStop - reached % tabStop) % tabStop) ' '

def spread : List (List Char) → List Char
  | [] => []
  | [last] => last
  | piece :: rest => piece ++ tabBlanks piece ++ spread rest

def expandLine (line : List Char) : List Char :=
  spread (splitAt '\t' line)

def expandTabs (text : List Char) : List Char :=
  List.intercalate ['\n'] ((splitAt '\n' text).map expandLine)

end Mutant.Text
