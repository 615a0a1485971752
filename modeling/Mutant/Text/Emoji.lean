import Mutant.Text.Blank
import Mutant.Text.CellWidth
import Mutant.Text.Emoji.Flags
import Mutant.Text.Emoji.Names
import Mutant.Text.Lowercase

/-!
Emoji by name. Between two colons a name stands for its emoji, in any case; `-emoji` or `-text` after
it asks for one of the two forms that many emoji have. A name that is not known stays as it is.
-/

namespace Mutant.Text.Emoji

def pairs : List String → List (String × String)
  | name :: meaning :: rest => (name, meaning) :: pairs rest
  | _ => []

def pairsOf (lines : List String) : List (String × String) :=
  pairs (lines.flatMap fun line => line.splitOn " ")

def things : List (String × String) := pairsOf thingLines

def people : List (String × String) := pairsOf peopleLines

/-! ### Flags -/

def bareFlags : List (String × String) := pairsOf (regionLines ++ bareLines)

def headedFlags : List (String × String) := pairsOf (regionLines ++ headedLines)

def flagHeading : List Char := "flag_for_".toList

def regional (letter : Char) : Char := Char.ofNat (letter.toNat - 0x41 + 0x1F1E6)

def flag (region : String) : List Char := region.toList.map regional

def flag? (name : List Char) : Option (List Char) :=
  let named :=
    if flagHeading.isPrefixOf name then
      headedFlags.lookup (String.ofList (name.drop flagHeading.length))
    else bareFlags.lookup (String.ofList name)
  named.map flag

/-! ### Skin tones -/

/-- What follows a name for each tone, and the modifier that colours the emoji. -/
def tones : List (String × Char) :=
  [("_light_skin_tone", Char.ofNat 0x1F3FB), ("_medium-light_skin_tone", Char.ofNat 0x1F3FC),
    ("_medium_skin_tone", Char.ofNat 0x1F3FD), ("_medium-dark_skin_tone", Char.ofNat 0x1F3FE),
    ("_dark_skin_tone", Char.ofNat 0x1F3FF)]

/-- The modifier stands after the first character, in place of a wish for the emoji form. -/
def coloured (modifier : Char) : List Char → List Char
  | [] => []
  | first :: rest =>
      first :: modifier :: if rest.head? == some emojiForm then rest.drop 1 else rest

def before? (ending text : List Char) : Option (List Char) :=
  if ending.isSuffixOf text then some (text.take (text.length - ending.length)) else none

def toned? (name : List Char) : Option (List Char) :=
  tones.findSome? fun (ending, modifier) =>
    ((before? ending.toList name).bind fun person => people.lookup (String.ofList person)).map
      fun emoji => coloured modifier emoji.toList

/-! ### Codes in a text -/

def find? (name : String) : Option (List Char) :=
  ((things.lookup name).map String.toList).orElse fun _ =>
    ((people.lookup name).map String.toList).orElse fun _ =>
      (flag? name.toList).orElse fun _ => toned? name.toList

def formOf (code : List Char) : List Char × List Char :=
  match before? "-emoji".toList code with
  | some name => (name, [emojiForm])
  | none =>
      match before? "-text".toList code with
      | some name => (name, [textForm])
      | none => (code, [])

def shown (code : List Char) : List Char :=
  let (name, form) := formOf code
  match find? (lower (String.ofList name)) with
  | some emoji => emoji ++ form
  | none => ':' :: code ++ [':']

def code? (text : List Char) : Option (List Char) :=
  let code := text.takeWhile fun character => character != ':' && !isBlank character
  if (text.drop code.length).head? == some ':' then some code else none

/-- `skip` counts the characters of a code that are already read. -/
def replaceFrom : Nat → List Char → List Char
  | _, [] => []
  | skip + 1, _ :: rest => replaceFrom skip rest
  | 0, character :: rest =>
      if character == ':' then
        match code? rest with
        | some code => shown code ++ replaceFrom (code.length + 1) rest
        | none => character :: replaceFrom 0 rest
      else character :: replaceFrom 0 rest

def replace (text : List Char) : List Char :=
  replaceFrom 0 text

end Mutant.Text.Emoji
