import Mutant.Text.Digit
import Mutant.Text.Lines
import Mutant.Text.Quoted
import Mutant.Text.Split
import Mutant.Text.Word

/-!
Literals: numbers, texts, truth values, and tuples, sets and dictionaries of them. The arguments in a
tag must be one; what they are does not matter here, only that they can be read.
-/

namespace Mutant.Literal

inductive Kind where
  | real | imaginary
  /-- A real number with a sign. -/
  | signed
  | value
  | container
deriving DecidableEq, Repr

def Kind.canBeMember : Kind → Bool
  | container => false
  | _ => true

abbrev Parse := Option (Kind × List Char)

/-! ### Numbers -/

def moreDigits (isDigit : Char → Bool) : List Char → List Char × List Char
  | '_' :: character :: rest =>
      if isDigit character then
        let (digits, rest) := moreDigits isDigit rest
        (character :: digits, rest)
      else ([], '_' :: character :: rest)
  | character :: rest =>
      if isDigit character then
        let (digits, rest) := moreDigits isDigit rest
        (character :: digits, rest)
      else ([], character :: rest)
  | [] => ([], [])

def digits (isDigit : Char → Bool) (text : List Char) : List Char × List Char :=
  if text.head?.any isDigit then moreDigits isDigit text else ([], text)

def baseDigit? (letter : Char) : Option (Char → Bool) :=
  if letter == 'x' || letter == 'X' then
    some fun character => character.isDigit || ('a' ≤ character.toLower && character.toLower ≤ 'f')
  else if letter == 'o' || letter == 'O' then some fun character => '0' ≤ character && character ≤ '7'
  else if letter == 'b' || letter == 'B' then some fun character => character == '0' || character == '1'
  else none

def afterPower (text : List Char) : Option (List Char) :=
  match text with
  | mark :: rest =>
      if mark == 'e' || mark == 'E' then
        let unsigned := match rest with
          | '+' :: rest | '-' :: rest => rest
          | _ => rest
        let (power, rest) := digits Char.isDigit unsigned
        if power.isEmpty then none else some rest
      else none
  | [] => none

def isWhole (digits : List Char) : Bool :=
  digits.length ≤ Text.maxDigits && (digits.head? != some '0' || digits.all (· == '0'))

def decimal (text : List Char) : Parse :=
  let (whole, rest) := digits Char.isDigit text
  let (fraction, rest, hasPoint) := match rest with
    | '.' :: rest =>
        let (fraction, rest) := digits Char.isDigit rest
        (fraction, rest, true)
    | _ => ([], rest, false)
  if whole.isEmpty && fraction.isEmpty then none
  else
    let (rest, hasPower) := match afterPower rest with
      | some rest => (rest, true)
      | none => (rest, false)
    match rest with
    | 'j' :: rest | 'J' :: rest => some (.imaginary, rest)
    | _ => if hasPoint || hasPower || isWhole whole then some (.real, rest) else none

def number (text : List Char) : Parse :=
  match text with
  | '0' :: letter :: rest =>
      match baseDigit? letter with
      | some isDigit =>
          let (read, rest) := moreDigits isDigit rest
          if read.isEmpty then none else some (.real, rest)
      | none => decimal text
  | _ => decimal text

/-! ### Texts -/

def isHex (character : Char) : Bool :=
  character.isDigit || ('a' ≤ character.toLower && character.toLower ≤ 'f')

def hasHex (count : Nat) (text : List Char) : Bool :=
  (text.take count).length == count && (text.take count).all isHex

structure TextForm where
  raw : Bool
  bytes : Bool
deriving DecidableEq, Repr

def escapeFits (form : TextForm) (letter : Char) (rest : List Char) : Bool :=
  if form.raw then true
  else if letter == 'x' then hasHex 2 rest
  else if form.bytes then true
  else if letter == 'u' then hasHex 4 rest
  else if letter == 'U' then
    hasHex 8 rest && rest.take 2 == ['0', '0'] &&
      (rest.drop 2).head?.any fun digit => digit == '0' ||
        (digit == '1' && (rest.drop 3).head? == some '0')
  else letter != 'N'

def fits (form : TextForm) (character : Char) : Bool :=
  !form.bytes || character.toNat < 0x80

/-- What follows the end of a text. A text between triple quotes may go over several lines. -/
def textEnd (form : TextForm) (quote : Char) (triple : Bool) : List Char → Option (List Char)
  | [] => none
  | [character] => if character == quote && !triple then some [] else none
  | first :: second :: rest =>
      if first == Text.backslash then
        if fits form second && escapeFits form second rest then textEnd form quote triple rest
        else none
      else if first == quote then
        if !triple then some (second :: rest)
        else if second == quote && rest.head? == some quote then some (rest.drop 1)
        else textEnd form quote triple (second :: rest)
      else if (first == '\n' && !triple) || !fits form first then none
      else textEnd form quote triple (second :: rest)

def textForm? (letters : String) : Option TextForm :=
  match letters with
  | "" | "u" => some ⟨false, false⟩
  | "r" => some ⟨true, false⟩
  | "b" => some ⟨false, true⟩
  | "br" | "rb" => some ⟨true, true⟩
  | _ => none

def isQuote (character : Char) : Bool :=
  character == Text.singleQuote || character == Text.doubleQuote

def textPart (text : List Char) : Option (Bool × List Char) :=
  let letters := text.takeWhile Char.isAlpha
  match textForm? (String.ofList (letters.map Char.toLower)), text.drop letters.length with
  | some form, quote :: rest =>
      if !isQuote quote then none
      else
        let ended :=
          if rest.take 2 == [quote, quote] then textEnd form quote true (rest.drop 2)
          else textEnd form quote false rest
        ended.map fun rest => (form.bytes, rest)
  | _, _ => none

/-! ### Blanks -/

/-- Drops blanks and comments; between brackets the ends of lines are blanks, too. -/
def skipFrom (inBrackets inComment : Bool) : List Char → List Char
  | [] => []
  | [character] =>
      if inComment then if character == '\n' && !inBrackets then [character] else []
      else if character == ' ' || character == '\t' || character.toNat = 0xC || character == '#' then []
      else if character == '\n' && inBrackets then []
      else [character]
  | character :: next :: rest =>
      if inComment then
        if character != '\n' then skipFrom inBrackets true (next :: rest)
        else if inBrackets then skipFrom inBrackets false (next :: rest)
        else character :: next :: rest
      else if character == ' ' || character == '\t' || character.toNat = 0xC then
        skipFrom inBrackets false (next :: rest)
      else if character == '#' then skipFrom inBrackets true (next :: rest)
      else if character == '\n' && inBrackets then skipFrom inBrackets false (next :: rest)
      else if character == Text.backslash && next == '\n' then skipFrom inBrackets false rest
      else character :: next :: rest

def skip (inBrackets : Bool) (text : List Char) : List Char :=
  skipFrom inBrackets false text

def moreTexts (inBrackets bytes : Bool) : Nat → List Char → Parse
  | 0, _ => none
  | fuel + 1, text =>
      match textPart (skip inBrackets text) with
      | some (more, rest) => if more == bytes then moreTexts inBrackets bytes fuel rest else none
      | none => some (.value, text)

def texts (inBrackets : Bool) (text : List Char) : Parse :=
  (textPart text).bind fun (bytes, rest) => moreTexts inBrackets bytes (text.length + 1) rest

/-! ### Words -/

def afterEmptyCall (inBrackets : Bool) (text : List Char) : Parse :=
  match skip inBrackets text with
  | '(' :: rest =>
      match skip true rest with
      | ')' :: rest => some (.container, rest)
      | _ => none
  | _ => none

def word (inBrackets : Bool) (text : List Char) : Parse :=
  let name := text.takeWhile Text.isWord
  let rest := text.drop name.length
  match String.ofList name with
  | "True" | "False" | "None" => some (.value, rest)
  | "set" => afterEmptyCall inBrackets rest
  | _ => none

def atom (inBrackets : Bool) (text : List Char) : Parse :=
  match text with
  | '.' :: '.' :: '.' :: rest => some (.value, rest)
  | _ =>
      (number text).orElse fun _ => (texts inBrackets text).orElse fun _ => word inBrackets text

/-! ### Literals in literals -/

def maxDepth : Nat := 200

def Kind.withSign : Kind → Option Kind
  | real => some signed
  | imaginary => some value
  | _ => none

def Kind.isReal : Kind → Bool
  | real | signed => true
  | _ => false

def isSign (character : Char) : Bool :=
  character == '+' || character == '-'

def openBrace : Char := Char.ofNat 0x7B

def closeBrace : Char := Char.ofNat 0x7D

/-- Values between round brackets. One value without a comma is no tuple. -/
def grouped : List Kind × Bool → Kind
  | ([kind], false) => kind
  | (kinds, _) => if kinds.all Kind.canBeMember then .value else .container

mutual

def primary (inBrackets : Bool) : Nat → Nat → List Char → Parse
  | 0, _, _ => none
  | fuel + 1, depth, text =>
      match skip inBrackets text with
      | [] => none
      | first :: rest =>
          if first == '(' then
            if depth = 0 then none
            else
              (items ')' fuel (depth - 1) rest).map fun (kinds, hasComma, rest) =>
                (grouped (kinds, hasComma), rest)
          else if first == openBrace then
            if depth = 0 then none
            else (members fuel (depth - 1) rest).map fun rest => (.container, rest)
          else atom inBrackets (first :: rest)
termination_by structural fuel => fuel

def expression (inBrackets : Bool) : Nat → Nat → List Char → Parse
  | 0, _, _ => none
  | fuel + 1, depth, text =>
      let first := match skip inBrackets text with
        | character :: rest =>
            if isSign character then
              (primary inBrackets fuel depth rest).bind fun (kind, rest) =>
                kind.withSign.map fun kind => (kind, rest)
            else primary inBrackets fuel depth (character :: rest)
        | [] => none
      first.bind fun (kind, rest) =>
        match skip inBrackets rest with
        | character :: after =>
            if isSign character then
              if kind.isReal then
                (primary inBrackets fuel depth after).bind fun (second, rest) =>
                  if second = .imaginary then some (.value, rest) else none
              else none
            else some (kind, rest)
        | [] => some (kind, rest)
termination_by structural fuel => fuel

def items (closing : Char) : Nat → Nat → List Char → Option (List Kind × Bool × List Char)
  | 0, _, _ => none
  | fuel + 1, depth, text =>
      match skip true text with
      | [] => none
      | first :: rest =>
          if first == closing then some ([], false, rest)
          else
            (expression true fuel depth (first :: rest)).bind fun (kind, rest) =>
              match skip true rest with
              | [] => none
              | next :: rest =>
                  if next == closing then some ([kind], false, rest)
                  else if next == ',' then
                    (items closing fuel depth rest).map fun (kinds, _, rest) =>
                      (kind :: kinds, true, rest)
                  else none
termination_by structural fuel => fuel

def members : Nat → Nat → List Char → Option (List Char)
  | 0, _, _ => none
  | fuel + 1, depth, text =>
      match skip true text with
      | [] => none
      | first :: rest =>
          if first == closeBrace then some rest
          else
            (expression true fuel depth (first :: rest)).bind fun (kind, rest) =>
              if !kind.canBeMember then none
              else
                match skip true rest with
                | [] => none
                | next :: rest =>
                    if next == closeBrace then some rest
                    else if next == ':' then
                      (expression true fuel depth rest).bind fun (_, rest) =>
                        moreEntries fuel depth rest
                    else if next == ',' then
                      (items closeBrace fuel depth rest).bind fun (kinds, _, rest) =>
                        if kinds.all Kind.canBeMember then some rest else none
                    else none
termination_by structural fuel => fuel

def moreEntries : Nat → Nat → List Char → Option (List Char)
  | 0, _, _ => none
  | fuel + 1, depth, text =>
      match skip true text with
      | [] => none
      | first :: rest =>
          if first == closeBrace then some rest
          else if first != ',' then none
          else
            match skip true rest with
            | [] => none
            | next :: rest =>
                if next == closeBrace then some rest
                else
                  (expression true fuel depth (next :: rest)).bind fun (kind, rest) =>
                    match skip true rest with
                    | ':' :: rest =>
                        if kind.canBeMember then
                          (expression true fuel depth rest).bind fun (_, rest) =>
                            moreEntries fuel depth rest
                        else none
                    | _ => none
termination_by structural fuel => fuel

end

def isRow : Nat → List Char → Bool
  | 0, _ => false
  | fuel + 1, text =>
      match expression false (4 * text.length + 4) maxDepth text with
      | none => false
      | some (_, rest) =>
          match skip false rest with
          | ',' :: rest => (skip true rest).isEmpty || isRow fuel rest
          | rest => (skip true rest).isEmpty

def isEmptyLine (line : List Char) : Bool :=
  (skip false line).isEmpty

/-- Whether a text is a literal. Lines before it may be empty, but it is not indented then. -/
def isLiteral (text : List Char) : Bool :=
  let lines := Text.splitAt '\n' (Text.unifyLineEnds text)
  let body := Text.joinLines (lines.dropWhile isEmptyLine)
  !text.contains (Char.ofNat 0) && body.head? != some ' ' && body.head? != some '\t' &&
    isRow (body.length + 1) body

end Mutant.Literal
