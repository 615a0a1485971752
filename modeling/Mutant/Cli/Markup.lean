import Mutant.Cli.Console
import Mutant.Cli.Literal
import Mutant.Cli.Style

/-!
Markup of console lines. A tag such as `[bold]` begins a style and `[/bold]` ends it; here the styles are
dropped and the text remains. A bracket that opens no tag stands for itself, and a backslash keeps a
tag from being one.
-/

namespace Mutant.Markup

inductive Piece where
  | text (characters : List Char)
  | tag (content : List Char)
deriving DecidableEq, Repr

def beginsTag (character : Char) : Bool :=
  ('a' ≤ character && character ≤ 'z') || character == '#' || character == '/' || character == '@'

def tag? : List Char → Option (List Char)
  | [] => none
  | first :: rest =>
      let body := rest.takeWhile fun character => character != '[' && character != ']'
      if beginsTag first && (rest.drop body.length).head? == some ']' then some (first :: body)
      else none

def backslashes (count : Nat) : List Char := List.replicate count Text.backslash

/-- The pieces for a tag with backslashes before it. Two of them stand for one, and one that is left over
makes a text of the tag. -/
def tagPieces (escapes : Nat) (content : List Char) : List Piece :=
  (if escapes < 2 then [] else [.text (backslashes (escapes / 2))]) ++
    [if escapes % 2 = 1 then .text ('[' :: content ++ [']']) else .tag content]

def textPiece (reversed : List Char) (pieces : List Piece) : List Piece :=
  if reversed.isEmpty then pieces else .text reversed.reverse :: pieces

/-- Cuts a line into texts and tags. `skip` counts the characters of a tag already read, `escapes` the
backslashes directly before the current character, and `reversed` holds the unfinished text. -/
def piecesFrom : Nat → Nat → List Char → List Char → List Piece
  | _, escapes, reversed, [] => textPiece (backslashes escapes ++ reversed) []
  | skip + 1, _, _, _ :: rest => piecesFrom skip 0 [] rest
  | 0, escapes, reversed, character :: rest =>
      if character == Text.backslash then piecesFrom 0 (escapes + 1) reversed rest
      else if character == '[' then
        match tag? rest with
        | some content =>
            textPiece reversed (tagPieces escapes content ++ piecesFrom (content.length + 1) 0 [] rest)
        | none => piecesFrom 0 0 ('[' :: backslashes (escapes - 1) ++ reversed) rest
      else piecesFrom 0 0 (character :: backslashes escapes ++ reversed) rest

def pieces (line : List Char) : List Piece :=
  piecesFrom 0 0 [] line

inductive Fault where
  | unmatched (content : String)
  | action (content : String)
  | colour
deriving DecidableEq, Repr

structure Tag where
  name : String
  parameters : Option (List Char)
deriving DecidableEq, Repr

def Tag.description (tag : Tag) : List Char :=
  match tag.parameters with
  | none => tag.name.toList
  | some parameters => tag.name.toList ++ ' ' :: parameters

/-! ### Actions -/

def Tag.isAction (tag : Tag) : Bool := tag.name.toList.head? == some '@'

def arguments (parameters : List Char) : List Char :=
  let text := Text.strip parameters
  let rest := text.dropWhile fun character => Text.isWord character || character == '.'
  if rest.isEmpty then "()".toList
  else if rest.head? == some '(' && rest.getLast? == some ')' && !rest.contains '\n' then rest
  else text

def Tag.fault? (tag : Tag) : Option Fault :=
  match tag.parameters with
  | some parameters =>
      if tag.isAction && !parameters.isEmpty && !Literal.isLiteral (arguments parameters) then
        some (.action (String.ofList parameters))
      else none
  | none => none

/-! ### Open tags -/

structure State where
  opened : List Tag := []
  closed : List Tag := []
deriving DecidableEq, Repr

/-- Takes the latest tag with a name off the open ones. -/
def takeNamed (name : String) : List Tag → Option (Tag × List Tag)
  | [] => none
  | latest :: earlier =>
      if latest.name == name then some (latest, earlier)
      else (takeNamed name earlier).map fun (tag, others) => (tag, latest :: others)

def takeLatest : List Tag → Option (Tag × List Tag)
  | [] => none
  | latest :: earlier => some (latest, earlier)

def normal (name : List Char) : Except Fault String :=
  match Style.normal name with
  | .ok text => .ok text
  | .error _ => .error .colour

def State.close (state : State) (content name : List Char) : Except Fault State :=
  let taken :=
    if (Text.strip name).isEmpty then .ok (takeLatest state.opened)
    else (normal (Text.strip name)).map fun name => takeNamed name state.opened
  match taken with
  | .error fault => .error fault
  | .ok none => .error (.unmatched (String.ofList content))
  | .ok (some (tag, others)) =>
      match tag.fault? with
      | some fault => .error fault
      | none => .ok { opened := others, closed := tag :: state.closed }

def State.afterTag (state : State) (content : List Char) : Except Fault State :=
  let name := content.takeWhile (· != '=')
  let parameters := if content.contains '=' then some (content.drop (name.length + 1)) else none
  match name with
  | '/' :: closed => state.close content closed
  | _ =>
      (normal name).map fun name => { state with opened := ⟨name, parameters⟩ :: state.opened }

/-- Tags are read as styles at the end, all but those whose action was carried out. -/
def State.fault? (state : State) : Option Fault :=
  let styles := state.opened ++ state.closed.filter fun tag => !tag.isAction
  if styles.any fun tag => (Style.read tag.description) matches .error .badPart then some .colour
  else none

def textFrom (state : State) : List Piece → Except Fault (List Char)
  | [] =>
      match state.fault? with
      | some fault => .error fault
      | none => .ok []
  | .text characters :: rest => (textFrom state rest).map (Console.prepared characters ++ ·)
  | .tag content :: rest =>
      match state.afterTag content with
      | .error fault => .error fault
      | .ok state => textFrom state rest

def printed (line : String) : Except Fault String :=
  (textFrom {} (pieces line.toList)).map Console.printed

end Mutant.Markup
