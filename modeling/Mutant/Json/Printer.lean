import Mutant.Json.Value
import Mutant.Text.Quoted

/-!
JSON as text: two blanks per level, one item a line, and ASCII characters only.
-/

namespace Mutant.Value

def unicodeEscape (unit : Nat) : List Char :=
  Text.backslash :: 'u' :: Text.hex 4 unit

/-- Characters from the blank to the tilde stand for themselves, but for the quote and the backslash.
Those above U+FFFF are written as two surrogates. -/
def printChar (character : Char) : List Char :=
  let value := character.toNat
  if value = 0x22 || value = 0x5C then [Text.backslash, character]
  else if 0x20 ≤ value && value ≤ 0x7E then [character]
  else if value = 0x0A then [Text.backslash, 'n']
  else if value = 0x0D then [Text.backslash, 'r']
  else if value = 0x09 then [Text.backslash, 't']
  else if value = 0x08 then [Text.backslash, 'b']
  else if value = 0x0C then [Text.backslash, 'f']
  else if value < 0x10000 then unicodeEscape value
  else
    let offset := value - 0x10000
    unicodeEscape (0xD800 + offset / 0x400) ++ unicodeEscape (0xDC00 + offset % 0x400)

def printText (text : String) : List Char :=
  Text.doubleQuote :: text.toList.flatMap printChar ++ [Text.doubleQuote]

def printInt (value : Int) : List Char :=
  (toString value).toList

def lineBreak (level : Nat) : List Char :=
  '\n' :: List.replicate (2 * level) ' '

mutual

def printAt (level : Nat) : Value → List Char
  | null => "null".toList
  | bool value => (if value then "true" else "false").toList
  | int value => printInt value
  | real value => value.text.toList
  | text value => printText value
  | list [] => "[]".toList
  | list (item :: rest) =>
      '[' :: lineBreak (level + 1) ++ printAt (level + 1) item ++ printItems (level + 1) rest ++
        lineBreak level ++ [']']
  | record [] => "\x7b\x7d".toList
  | record ((name, value) :: rest) =>
      Char.ofNat 0x7B :: lineBreak (level + 1) ++ printText name ++ [':', ' '] ++
        printAt (level + 1) value ++ printMembers (level + 1) rest ++ lineBreak level ++
        [Char.ofNat 0x7D]

def printItems (level : Nat) : List Value → List Char
  | [] => []
  | item :: rest => ',' :: lineBreak level ++ printAt level item ++ printItems level rest

def printMembers (level : Nat) : List (String × Value) → List Char
  | [] => []
  | (name, value) :: rest =>
      ',' :: lineBreak level ++ printText name ++ [':', ' '] ++ printAt level value ++
        printMembers level rest

end

def print (value : Value) : String :=
  String.ofList (printAt 0 value)

end Mutant.Value
