import Mutant.Text.Padding

/-!
Templates with named places: a name between braces stands for a value, and a doubled brace for
itself. A place may go on with `!` and a letter for a conversion, and with `:` and a description of the
padding, in which there may be places again. It may ask for a character of the value, and for a member,
which the language that runs the program has an answer to.
-/

namespace Mutant.Text

inductive TemplateError where
  | unknownName (name : String)
  /-- A place asks for a value by its position, and values have names only. -/
  | position (index : Nat)
  | subscript
  | namedSubscript
  | member (name : String)
  | lone (brace : Char)
  | brokenPlace (reason : String)
  | padding (reason : PaddingError)
deriving DecidableEq, Repr

def TemplateError.message : TemplateError → String
  | unknownName name => quoted name
  | position index => s!"Replacement index {index} out of range for positional args tuple"
  | subscript => "string index out of range"
  | namedSubscript => "string indices must be integers, not 'str'"
  | member name => s!"'str' object has no attribute '{name}'"
  | lone brace => s!"Single '{brace}' encountered in format string"
  | brokenPlace reason => reason
  | padding reason => reason.message

namespace Template

def opening : Char := Char.ofNat 0x7B

def closing : Char := Char.ofNat 0x7D

structure Place where
  name : List Char
  conversion : Option Char := none
  padding : List Char := []
deriving DecidableEq, Repr

inductive Part where
  | literal (character : Char)
  | place (place : Place)
  | failure (error : TemplateError)
deriving DecidableEq, Repr

inductive Mode where
  | plain
  | opened
  | closed
  | name (read : List Char)
  | subscript (read : List Char)
  | conversion (name : List Char)
  | converted (place : Place)
  /-- `depth` counts the braces that are open. -/
  | padding (place : Place) (depth : Nat)
deriving DecidableEq, Repr

def broken (reason : String) : List Part :=
  [.failure (.brokenPlace reason)]

def atEnd : Mode → List Part
  | .plain => []
  | .opened => [.failure (.lone opening)]
  | .closed => [.failure (.lone closing)]
  | .name _ | .subscript _ => broken s!"expected '{closing}' before end of string"
  | .conversion _ => broken "end of string while looking for conversion specifier"
  | .converted _ | .padding _ _ => broken s!"unmatched '{opening}' in format spec"

/-- What the next character does: parts that are now complete, and the mode to go on in unless the
template is broken. -/
def step (character : Char) : Mode → List Part × Option Mode
  | .plain =>
      if character == opening then ([], some .opened)
      else if character == closing then ([], some .closed)
      else ([.literal character], some .plain)
  | .closed =>
      if character == closing then ([.literal closing], some .plain)
      else ([.failure (.lone closing)], none)
  | .opened =>
      if character == opening then ([.literal opening], some .plain) else inName [] character
  | .name read => inName read character
  | .subscript read =>
      ([], some (if character == ']' then .name (read ++ [character])
        else .subscript (read ++ [character])))
  | .conversion name => ([], some (.converted { name, conversion := some character }))
  | .converted place =>
      if character == closing then ([.place place], some .plain)
      else if character == ':' then ([], some (.padding place 0))
      else (broken "expected ':' after conversion specifier", none)
  | .padding place depth =>
      let grown := { place with padding := place.padding ++ [character] }
      if character == opening then ([], some (.padding grown (depth + 1)))
      else if character == closing then
        match depth with
        | 0 => ([.place place], some .plain)
        | depth + 1 => ([], some (.padding grown depth))
      else ([], some (.padding grown depth))
where
  inName (read : List Char) (character : Char) : List Part × Option Mode :=
    if character == opening then (broken s!"unexpected '{opening}' in field name", none)
    else if character == closing then ([.place { name := read }], some .plain)
    else if character == '!' then ([], some (.conversion read))
    else if character == ':' then ([], some (.padding { name := read } 0))
    else if character == '[' then ([], some (.subscript (read ++ [character])))
    else ([], some (.name (read ++ [character])))

def parts : Mode → List Char → List Part
  | mode, [] => atEnd mode
  | mode, character :: rest =>
      match step character mode with
      | (complete, some next) => complete ++ parts next rest
      | (complete, none) => complete

def index (digits : List Char) : Except TemplateError Nat :=
  if Padding.maxNumber < ofDigits digits then .error (.padding .tooManyDigits)
  else .ok (ofDigits digits)

inductive Conversion where
  | plain | quoted | ascii
deriving DecidableEq, Repr

structure Object where
  converted : Conversion → List Char
  /-- Its text with a description of the padding. -/
  padded : List Char → Except TemplateError (List Char)

def pad (value description : List Char) : Except TemplateError (List Char) :=
  match Padding.ofDescription description with
  | .error reason => .error (.padding reason)
  | .ok padding => .ok (padding.apply value)

def Object.ofText (value : List Char) : Object where
  converted
    | .plain => value
    | .quoted => quotedBy isPrintable value
    | .ascii => quotedAscii value
  padded := pad value

/-- What a text has in store for a chain that begins with a member. -/
abbrev Members := List Char → List Char → Except TemplateError Object

def memberName (chain : List Char) : List Char :=
  chain.takeWhile fun character => character != '.' && character != '['

def noMembers : Members := fun _ chain => .error (.member (String.ofList (memberName chain.tail)))

/-- What a chain of subscripts and members takes out of a text. -/
def select (members : Members) (value : List Char) : List Char → Except TemplateError Object
  | [] => .ok (.ofText value)
  | '.' :: rest =>
      if (memberName rest).isEmpty then .error (.brokenPlace "Empty attribute in format string")
      else members value ('.' :: rest)
  | '[' :: rest =>
      let item := rest.takeWhile (· != ']')
      match h : rest.dropWhile (· != ']') with
      | [] => .error (.brokenPlace "Missing ']' in format string")
      | _ :: after =>
          if item.isEmpty then .error (.brokenPlace "Empty attribute in format string")
          else if item.all isDigit then
            match index item with
            | .error error => .error error
            | .ok position =>
                match value[position]? with
                | none => .error .subscript
                | some character =>
                    have : after.length < rest.length := by
                      have := (List.dropWhile_suffix (l := rest) (· != ']')).length_le
                      rw [h, List.length_cons] at this
                      omega
                    select members [character] after
          else .error .namedSubscript
  | _ :: _ =>
      .error (.brokenPlace "Only '.' or '[' may follow ']' in format field specifier")
termination_by chain => chain.length

def valueOf (members : Members) (name value place : List Char) : Except TemplateError Object :=
  let first := memberName place
  let chain := place.drop first.length
  if first == name then select members value chain
  else if first.all isDigit then
    match index first with
    | .error error => .error error
    | .ok position => .error (.position position)
  else .error (.unknownName (String.ofList first))

def convert (value : Object) : Option Char → Except TemplateError Object
  | none => .ok value
  | some 's' => .ok (.ofText (value.converted .plain))
  | some 'r' => .ok (.ofText (value.converted .quoted))
  | some 'a' => .ok (.ofText (value.converted .ascii))
  | some other =>
      let shown :=
        if 32 < other.toNat && other.toNat < 127 then other.toString
        else "\\x" ++ String.ofList (Nat.toDigits 16 other.toNat)
      .error (.brokenPlace ("Unknown conversion specifier " ++ shown))

section

variable (members : Members) (name value : List Char)

mutual

/-- Fills in the places of a template; `depth` tells how deep places may stand inside places. -/
def fillTo (depth : Nat) (template : List Char) :
    Except TemplateError (List Char) :=
  match depth with
  | 0 => .error (.brokenPlace "Max string recursion exceeded")
  | depth + 1 => fillParts depth (parts .plain template)
termination_by (depth, 0)

def fillParts (depth : Nat) :
    List Part → Except TemplateError (List Char)
  | [] => .ok []
  | .literal character :: rest => (fillParts depth rest).map (character :: ·)
  | .failure error :: _ => .error error
  | .place place :: rest => do
      let found ← valueOf members name value place.name
      let converted ← convert found place.conversion
      let description ←
        if place.padding.contains opening then fillTo depth place.padding
        else .ok place.padding
      let text ← converted.padded description
      let others ← fillParts depth rest
      return text ++ others
termination_by parts => (depth, parts.length + 1)

end

end

def fill (members : Members) (template name value : String) : Except TemplateError String :=
  (fillTo members name.toList value.toList 2 template.toList).map String.ofList

end Template

end Mutant.Text
