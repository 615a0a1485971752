import Mutant.Json.Value
import Mutant.Number.Reading
import Mutant.Text.Quoted

/-!
JSON read from text, one character at a time. Characters make up tokens, and a builder takes the
tokens in turn, with the lists and records that are still open on a stack.
-/

namespace Mutant.Value

inductive Token where
  | openList | closeList | openRecord | closeRecord | comma | colon
  | atom (value : Value)
deriving Repr

namespace Token

def punctuation : List (Char × Token) :=
  [('[', openList), (']', closeList), (Char.ofNat 0x7B, openRecord), (Char.ofNat 0x7D, closeRecord),
    (',', comma), (':', colon)]

def isBlank (character : Char) : Bool :=
  character == ' ' || character == '\n' || character == '\r' || character == '\t'

/-! ### Words and numbers -/

def isWordChar (character : Char) : Bool :=
  character.isAlphanum || character == '+' || character == '-' || character == '.'

def afterFraction? : List Char → Option (List Char)
  | '.' :: rest =>
      if rest.head?.any Char.isDigit then some (rest.dropWhile Char.isDigit) else none
  | other => some other

/-- A number has no zero in front of other digits. One without a fraction and a power is an integer,
which must not be too long. -/
def number? (text : List Char) : Option Value :=
  let negative := text.head? == some '-'
  let body := if negative then text.drop 1 else text
  let whole := body.takeWhile Char.isDigit
  let rest := body.dropWhile Char.isDigit
  if whole.isEmpty || (whole.head? == some '0' && 1 < whole.length) then none
  else if rest.isEmpty then
    if Text.maxDigits < whole.length then none
    else some (int (Reading.signed negative (Text.ofDigits whole)))
  else if (afterFraction? rest).any fun power => (Reading.power? power).isSome then
    (Reading.double? text).map real
  else none

def words : List (List Char × Value) :=
  [("null".toList, null), ("true".toList, bool true), ("false".toList, bool false)]

def word? (text : List Char) : Option Value :=
  (words.lookup text).orElse fun _ => number? text

/-! ### Texts -/

def escapes : List (Char × Nat) :=
  [(Text.doubleQuote, 0x22), (Text.backslash, 0x5C), ('/', 0x2F), ('b', 0x08), ('f', 0x0C),
    ('n', 0x0A), ('r', 0x0D), ('t', 0x09)]

def hexValue? (character : Char) : Option Nat :=
  if character.isDigit then some (character.toNat - 0x30)
  else if 'a' ≤ character && character ≤ 'f' then some (character.toNat - 0x57)
  else if 'A' ≤ character && character ≤ 'F' then some (character.toNat - 0x37)
  else none

def isHigh (unit : Nat) : Bool := 0xD800 ≤ unit && unit < 0xDC00

def isLow (unit : Nat) : Bool := 0xDC00 ≤ unit && unit < 0xE000

def ofSurrogates (high low : Nat) : Char :=
  Char.ofNat (0x10000 + (high - 0xD800) * 0x400 + (low - 0xDC00))

def scalar? (unit : Nat) : Option Char :=
  if unit.isValidChar then some (Char.ofNat unit) else none

/-- The characters of a text. Two surrogates are one character, and one of them alone is none. -/
def characters? : List Nat → Option (List Char)
  | [] => some []
  | [unit] => (scalar? unit).map ([·])
  | first :: second :: rest =>
      if isHigh first && isLow second then
        (characters? rest).map (ofSurrogates first second :: ·)
      else (scalar? first).bind fun character => (characters? (second :: rest)).map (character :: ·)

/-! ### The scanner -/

/-- Where the scanner is: between tokens, in a word or number, or in a text, of which the characters
and surrogates so far are given by their numbers. -/
inductive Mode where
  | between
  | word (read : List Char)
  | quoted (units : List Nat)
  | escaped (units : List Nat)
  | hex (units : List Nat) (due value : Nat)
deriving DecidableEq, Repr

def opening (character : Char) : Option (List Token × Mode) :=
  if isWordChar character then some ([], .word [character])
  else if isBlank character then some ([], .between)
  else if character == Text.doubleQuote then some ([], .quoted [])
  else (punctuation.lookup character).map fun token => ([token], .between)

def scan : Mode → Char → Option (List Token × Mode)
  | .between, character => opening character
  | .word read, character =>
      if isWordChar character then some ([], .word (read ++ [character]))
      else (word? read).bind fun value =>
        (opening character).map fun (tokens, next) => (atom value :: tokens, next)
  | .quoted units, character =>
      if character == Text.doubleQuote then
        (characters? units).map fun characters =>
          ([atom (text (String.ofList characters))], .between)
      else if character == Text.backslash then some ([], .escaped units)
      else if character.toNat < 0x20 then none
      else some ([], .quoted (units ++ [character.toNat]))
  | .escaped units, character =>
      if character == 'u' then some ([], .hex units 4 0)
      else (escapes.lookup character).map fun unit => ([], .quoted (units ++ [unit]))
  | .hex units due value, character =>
      (hexValue? character).map fun digit =>
        let value := value * 16 + digit
        ([], if due ≤ 1 then .quoted (units ++ [value]) else .hex units (due - 1) value)

def finish : Mode → Option (List Token)
  | .between => some []
  | .word read => (word? read).map fun value => [atom value]
  | .quoted _ | .escaped _ | .hex _ _ _ => none

end Token

/-! ### The builder -/

inductive Frame where
  | items (before : List Value)
  | member (before : List (String × Value)) (name : String)
deriving Repr

inductive Stage where
  | value
  | name (before : List (String × Value))
  | colon (before : List (String × Value)) (name : String)
  | done (value : Value)
deriving Repr

structure Builder where
  stage : Stage
  frames : List Frame
deriving Repr

namespace Builder

open Token

/-- Nothing closes where an item or a member is due after a comma. -/
def take : Builder → Token → Option Builder
  | ⟨.value, frames⟩, atom value => some ⟨.done value, frames⟩
  | ⟨.value, frames⟩, openList => some ⟨.value, .items [] :: frames⟩
  | ⟨.value, frames⟩, openRecord => some ⟨.name [], frames⟩
  | ⟨.value, .items [] :: frames⟩, closeList => some ⟨.done (list []), frames⟩
  | ⟨.name [], frames⟩, closeRecord => some ⟨.done (record []), frames⟩
  | ⟨.name before, frames⟩, atom (text name) => some ⟨.colon before name, frames⟩
  | ⟨.colon before name, frames⟩, colon => some ⟨.value, .member before name :: frames⟩
  | ⟨.done item, .items before :: frames⟩, comma =>
      some ⟨.value, .items (before ++ [item]) :: frames⟩
  | ⟨.done item, .items before :: frames⟩, closeList =>
      some ⟨.done (list (before ++ [item])), frames⟩
  | ⟨.done value, .member before name :: frames⟩, comma =>
      some ⟨.name (before ++ [(name, value)]), frames⟩
  | ⟨.done value, .member before name :: frames⟩, closeRecord =>
      some ⟨.done (record (before ++ [(name, value)])), frames⟩
  | _, _ => none

def takeAll (builder : Builder) (tokens : List Token) : Option Builder :=
  tokens.foldlM take builder

def whole? : Builder → Option Value
  | ⟨.done value, []⟩ => some value
  | _ => none

end Builder

def decodeFrom (mode : Token.Mode) (builder : Builder) : List Char → Option Value
  | [] => (Token.finish mode).bind fun tokens => (builder.takeAll tokens).bind Builder.whole?
  | character :: rest =>
      (Token.scan mode character).bind fun (tokens, next) =>
        (builder.takeAll tokens).bind fun built => decodeFrom next built rest

def decode? (text : String) : Option Value :=
  decodeFrom .between ⟨.value, []⟩ text.toList

end Mutant.Value
