import Mutant.Text.Emoji
import Mutant.Text.Tabs

/-!
Texts as a console shows them: codes between colons become emoji, a few control codes are dropped, and
tabs are spread into blanks.
-/

namespace Mutant.Console

/-- Bell, backspace, vertical tab, form feed and carriage return move the cursor or make a noise. -/
def isDropped (character : Char) : Bool :=
  [0x07, 0x08, 0x0B, 0x0C, 0x0D].contains character.toNat

def prepared (text : List Char) : List Char :=
  (Text.Emoji.replace text).filter fun character => !isDropped character

def printed (text : List Char) : String :=
  String.ofList (Text.expandTabs text ++ ['\n'])

def plain (text : String) : String :=
  printed (prepared text.toList)

end Mutant.Console
