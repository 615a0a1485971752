import Mutant.Text.Printable

/-!
Texts between quotes, as error messages show them. Single quotes are used unless the text holds
one and no double quote; characters that cannot be shown are written as escapes.
-/

namespace Mutant.Text

def singleQuote : Char := Char.ofNat 0x27

def doubleQuote : Char := Char.ofNat 0x22

def backslash : Char := Char.ofNat 0x5C

def hexDigit (value : Nat) : Char :=
  if value < 10 then Char.ofNat (0x30 + value) else Char.ofNat (0x57 + value)

def hex : Nat → Nat → List Char
  | 0, _ => []
  | width + 1, value => hex width (value / 16) ++ [hexDigit (value % 16)]

/-- A character between quotes; `shown` tells which characters stand for themselves. -/
def quotedChar (shown : Char → Bool) (quote character : Char) : List Char :=
  let value := character.toNat
  if character == quote || character == backslash then [backslash, character]
  else if character == '\n' then [backslash, 'n']
  else if character == '\r' then [backslash, 'r']
  else if character == '\t' then [backslash, 't']
  else if shown character then [character]
  else if value < 0x100 then backslash :: 'x' :: hex 2 value
  else if value < 0x10000 then backslash :: 'u' :: hex 4 value
  else backslash :: 'U' :: hex 8 value

def quotedBy (shown : Char → Bool) (characters : List Char) : List Char :=
  let quote :=
    if characters.contains singleQuote && !characters.contains doubleQuote then doubleQuote
    else singleQuote
  quote :: characters.flatMap (quotedChar shown quote) ++ [quote]

def quoted (text : String) : String :=
  String.ofList (quotedBy isPrintable text.toList)

def quotedAscii (characters : List Char) : List Char :=
  quotedBy (fun character => character.toNat < 0x80 && isPrintable character) characters

end Mutant.Text
