import Mutant.Number.Double
import Mutant.Text.Blank
import Mutant.Text.Digit

/-!
Numbers read from text, as records and command lines give them: in ASCII digits, with underscores to
group them.
-/

namespace Mutant.Reading

def sign : List Char → Bool × List Char
  | '-' :: rest => (true, rest)
  | '+' :: rest => (false, rest)
  | text => (false, text)

/-- Takes out underscores. None may stand at an end or beside another. -/
def withoutUnderscores? (text : List Char) : Option (List Char) :=
  if text.head? == some '_' || text.getLast? == some '_' ||
      (text.zip (text.drop 1)).contains ('_', '_') then none
  else some (text.filter (· != '_'))

def natural? (text : List Char) : Option Nat :=
  if !text.isEmpty && text.all Char.isDigit then some (Text.ofDigits text) else none

def signed (negative : Bool) (size : Nat) : Int :=
  if negative then -size else size

structure Decimal where
  whole : List Char
  fraction : List Char
  power : Int
deriving DecidableEq, Repr

def power? : List Char → Option Int
  | [] => some 0
  | mark :: rest =>
      if mark == 'e' || mark == 'E' then
        let (negative, digits) := sign rest
        (natural? digits).map (signed negative)
      else none

def decimal? (text : List Char) : Option Decimal :=
  let whole := text.takeWhile Char.isDigit
  let afterWhole := text.dropWhile Char.isDigit
  let (fraction, rest) :=
    match afterWhole with
    | '.' :: tail => (tail.takeWhile Char.isDigit, tail.dropWhile Char.isDigit)
    | other => ([], other)
  if whole.isEmpty && fraction.isEmpty then none
  else (power? rest).map fun power => ⟨whole, fraction, power⟩

def Decimal.toDouble (negative : Bool) (decimal : Decimal) : Double :=
  Double.ofDecimal negative (Text.ofDigits (decimal.whole ++ decimal.fraction))
    (decimal.power - decimal.fraction.length)

def asciiLower (text : List Char) : String :=
  String.ofList (text.map Char.toLower)

def double? (text : List Char) : Option Double :=
  let (negative, body) := sign text
  let word := asciiLower body
  if word == "inf" || word == "infinity" then some (.infinite negative)
  else if word == "nan" then some .nan
  else (decimal? body).map (·.toDouble negative)

/-! ### Whole numbers -/

def withoutPlus? : List Char → Option (List Char)
  | '+' :: '-' :: _ => none
  | '+' :: rest => some rest
  | text => some text

/-- Drops zeros and underscores after a first zero, which is `previous` or came before it. One zero is
left where no digit follows. -/
def afterZeros (previous : Char) : List Char → Option (List Char)
  | [] => some [previous]
  | character :: rest =>
      if character == '0' || character == '_' then afterZeros character rest
      else if character.isDigit || character == '-' then some (character :: rest)
      else if character == '.' then some (previous :: character :: rest)
      else none

/-- A whole number begins with a digit or a minus sign; zeros in front of it do not count. -/
def withoutLeadingZeros? : List Char → Option (List Char)
  | [] => none
  | first :: rest =>
      if first == '0' then afterZeros first rest
      else if first.isDigit || first == '-' then some (first :: rest)
      else none

def withoutZeroFraction (text : List Char) : List Char :=
  let fraction := (text.dropWhile (· != '.')).drop 1
  if !fraction.isEmpty && fraction.all (· == '0') then text.takeWhile (· != '.') else text

def wholeText? (text : List Char) : Option (List Char) :=
  ((withoutPlus? text).bind withoutLeadingZeros?).map fun text =>
    let whole := withoutZeroFraction text
    (withoutUnderscores? whole).getD whole

inductive WholeFault where
  | malformed
  | tooLong
deriving DecidableEq, Repr

def digits (text : List Char) : Except WholeFault Nat :=
  match natural? text with
  | none => .error .malformed
  | some value =>
      if text.head? == some '0' && 1 < text.length then .error .malformed
      else if Text.maxDigits < text.length then .error .tooLong
      else .ok value

def whole (text : List Char) : Except WholeFault Int :=
  match wholeText? text with
  | none => .error .malformed
  | some ('-' :: rest) => (digits rest).map fun size => -(size : Int)
  | some bare => (digits bare).map fun size => (size : Int)

end Mutant.Reading
