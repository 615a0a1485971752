import Mutant.Text.Digit
import Mutant.Text.Quoted

/-!
Fitting a text into a column: a fill character, the side on which the text stands, a least width and
a greatest length. A description such as `*^30.10` reads as fill, side, width, point and length, all of
which may be left out.
-/

namespace Mutant.Text

inductive Side where
  | left | right | middle
deriving DecidableEq, Repr

structure Padding where
  fill : Char := ' '
  side : Side := .left
  width : Nat := 0
  limit : Option Nat := none
deriving DecidableEq, Repr

inductive PaddingError where
  | sign | blankSign | zeroSign | alternate | afterSign
  | grouping (mark code : Char)
  | twoGroupings
  | noLength
  | tooManyDigits
  | unknownCode (code : Char)
  | invalid (description : String)
deriving DecidableEq, Repr

namespace PaddingError

def codeText (code : Char) : String :=
  if 32 < code.toNat && code.toNat < 128 then code.toString
  else "\\x" ++ String.ofList (Nat.toDigits 16 code.toNat)

def message : PaddingError → String
  | sign => "Sign not allowed in string format specifier"
  | blankSign => "Space not allowed in string format specifier"
  | zeroSign => "Negative zero coercion (z) not allowed in string format specifier"
  | alternate => "Alternate form (#) not allowed in string format specifier"
  | afterSign => "'=' alignment not allowed in string format specifier"
  | grouping mark code => s!"Cannot specify '{mark}' with '{codeText code}'."
  | twoGroupings => "Cannot specify both ',' and '_'."
  | noLength => "Format specifier missing precision"
  | tooManyDigits => "Too many decimal digits in format string"
  | unknownCode code => s!"Unknown format code '{codeText code}' for object of type 'str'"
  | invalid description => s!"Invalid format specifier '{description}' for object of type 'str'"

end PaddingError

namespace Padding

def maxNumber : Nat := 0x7FFFFFFFFFFFFFFF

def isSideMark (mark : Char) : Bool :=
  ['<', '>', '^', '='].contains mark

/-- A fill character and the mark of a side, each if it is there, and what follows. -/
def fillAndSide : List Char → Option Char × Option Char × List Char
  | first :: second :: rest =>
      if isSideMark second then (some first, some second, rest)
      else if isSideMark first then (none, some first, second :: rest)
      else (none, none, first :: second :: rest)
  | [first] => if isSideMark first then (none, some first, []) else (none, none, [first])
  | [] => (none, none, [])

def mark? (marks : List Char) : List Char → Option Char × List Char
  | first :: rest => if marks.contains first then (some first, rest) else (none, first :: rest)
  | [] => (none, [])

def number? (text : List Char) : Option Nat × List Char :=
  let digits := text.takeWhile isDigit
  (if digits.isEmpty then none else some (ofDigits digits), text.dropWhile isDigit)

def side? : Option Char → Except PaddingError Side
  | some '>' => .ok .right
  | some '^' => .ok .middle
  | some '=' => .error .afterSign
  | _ => .ok .left

def limit? (text : List Char) : Except PaddingError (Option Nat × List Char) :=
  match mark? ['.'] text with
  | (none, rest) => .ok (none, rest)
  | (some _, rest) =>
      match number? rest with
      | (none, _) => .error .noLength
      | (some length, rest) =>
          if maxNumber < length then .error .tooManyDigits else .ok (some length, rest)

def code (description : List Char) : List Char → Except PaddingError Char
  | [] => .ok 's'
  | [code] => .ok code
  | _ => .error (.invalid (String.ofList description))

def groupedCodes (mark : Char) : List Char :=
  "deEfFgG%".toList ++ if mark == '_' then "boxX".toList else []

def checkGrouping (code : Char) : Option Char → Except PaddingError Unit
  | none => .ok ()
  | some mark => if (groupedCodes mark).contains code then .ok () else .error (.grouping mark code)

/-- The marks of numbers are refused, and so is every code but that of texts. -/
def checkMarks (code : Char) (sign zero hash : Option Char) : Except PaddingError Unit :=
  if code != 's' then .error (.unknownCode code)
  else
    match sign, zero, hash with
    | some ' ', _, _ => .error .blankSign
    | some _, _, _ => .error .sign
    | none, some _, _ => .error .zeroSign
    | none, none, some _ => .error .alternate
    | none, none, none => .ok ()

def ofDescription (description : List Char) : Except PaddingError Padding := do
  let (fill, mark, rest) := fillAndSide description
  let (sign, rest) := mark? ['+', '-', ' '] rest
  let (zero, rest) := mark? ['z'] rest
  let (hash, rest) := mark? ['#'] rest
  let (zeroFill, rest) := if fill.isNone then mark? ['0'] rest else (none, rest)
  let (width, rest) := number? rest
  if maxNumber < width.getD 0 then throw .tooManyDigits
  let (comma, rest) := mark? [','] rest
  let (underscore, rest) := mark? ['_'] rest
  if comma.isSome && underscore.isSome then throw .twoGroupings
  let (limit, rest) ← limit? rest
  let code ← code description rest
  checkGrouping code (comma.or underscore)
  checkMarks code sign zero hash
  let side ← side? mark
  return { fill := (fill.or zeroFill).getD ' ', side, width := width.getD 0, limit }

/-- Cuts the text to its greatest length and fills it up to its least width. In the middle, the left
side gets the smaller half. -/
def apply (padding : Padding) (text : List Char) : List Char :=
  let shown := (padding.limit.map text.take).getD text
  let missing := padding.width - shown.length
  let filled := fun (count : Nat) => List.replicate count padding.fill
  match padding.side with
  | .left => shown ++ filled missing
  | .right => filled missing ++ shown
  | .middle => filled (missing / 2) ++ shown ++ filled (missing - missing / 2)

end Padding

end Mutant.Text
