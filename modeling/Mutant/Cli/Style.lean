import Mutant.Cli.Colour
import Mutant.Text.Blank

/-!
Styles of console texts, as the words that describe them. Two descriptions of one style have the same
normal form, whatever their order and their short names.
-/

namespace Mutant

namespace Style

inductive Attribute where
  | bold | dim | italic | underline | blink | blinkFast | reverse | conceal | strike
  | underlineTwice | frame | encircle | overline
deriving DecidableEq, Repr

namespace Attribute

def all : List Attribute :=
  [bold, dim, italic, underline, blink, blinkFast, reverse, conceal, strike, underlineTwice, frame,
    encircle, overline]

def name : Attribute → String
  | bold => "bold"
  | dim => "dim"
  | italic => "italic"
  | underline => "underline"
  | blink => "blink"
  | blinkFast => "blink2"
  | reverse => "reverse"
  | conceal => "conceal"
  | strike => "strike"
  | underlineTwice => "underline2"
  | frame => "frame"
  | encircle => "encircle"
  | overline => "overline"

def shortName? : Attribute → Option String
  | bold => some "b"
  | dim => some "d"
  | italic => some "i"
  | underline => some "u"
  | reverse => some "r"
  | conceal => some "c"
  | strike => some "s"
  | underlineTwice => some "uu"
  | overline => some "o"
  | _ => none

def ofWord? (word : String) : Option Attribute :=
  all.find? fun trait => trait.name == word || trait.shortName? == some word

end Attribute

end Style

structure Style where
  switches : List (Style.Attribute × Bool) := []
  colour : Option String := none
  background : Option String := none
  link : Option String := none
deriving DecidableEq, Repr

namespace Style

def readWords (style : Style) : List String → Except Fault Style
  | [] => .ok style
  | word :: rest =>
      match Text.lower word, rest with
      | "on", [] | "not", [] | "link", [] => .error .unknown
      | "on", shade :: rest =>
          match readColour shade with
          | .error fault => .error fault
          | .ok shade => readWords { style with background := some shade } rest
      | "not", trait :: rest =>
          match Attribute.ofWord? trait with
          | none => .error .unknown
          | some trait =>
              readWords { style with switches := (trait, false) :: style.switches } rest
      | "link", target :: rest => readWords { style with link := some target } rest
      | lowered, rest =>
          match Attribute.ofWord? lowered with
          | some trait =>
              readWords { style with switches := (trait, true) :: style.switches } rest
          | none =>
              match readColour lowered with
              | .error fault => .error fault
              | .ok shade => readWords { style with colour := some shade } rest

def wordsFrom (word : List Char) : List Char → List String
  | [] => if word.isEmpty then [] else [String.ofList word.reverse]
  | character :: rest =>
      if Text.isBlank character then
        if word.isEmpty then wordsFrom [] rest
        else String.ofList word.reverse :: wordsFrom [] rest
      else wordsFrom (character :: word) rest

def plainWord : String := "none"

def read (description : List Char) : Except Fault Style :=
  match wordsFrom [] description with
  | [word] => if word == plainWord then .ok {} else readWords {} [word]
  | words => readWords {} words

def switchText (style : Style) (trait : Attribute) : Option String :=
  (style.switches.lookup trait).map fun isOn =>
    if isOn then trait.name else "not " ++ trait.name

def text (style : Style) : String :=
  let words := Attribute.all.filterMap style.switchText ++
    style.colour.toList ++
    (style.background.map ("on " ++ ·)).toList ++
    (style.link.map ("link " ++ ·)).toList
  if words.isEmpty then plainWord else " ".intercalate words

/-- The normal form of a description. One that is no style is compared without blanks at its ends, in
lower case. -/
def normal (description : List Char) : Except Fault String :=
  match read description with
  | .ok style => .ok style.text
  | .error .unknown => .ok (Text.lower (String.ofList (Text.strip description)))
  | .error .badPart => .error .badPart

end Style

end Mutant
