/-!
Texts cut at a character.
-/

namespace Mutant.Text

def splitAt (separator : Char) : List Char → List (List Char)
  | [] => [[]]
  | character :: rest =>
      if character == separator then [] :: splitAt separator rest
      else
        match splitAt separator rest with
        | [] => [[character]]
        | piece :: others => (character :: piece) :: others

end Mutant.Text
