import Mutant.Json.Value
import Mutant.Number.Reading

/-!
Checking records that come from outside. Every field is checked, and all problems are reported in
the order of the fields. Values of a neighbouring type are taken where nothing is lost: a number
may be given as text, a truth value as one of a few words.
-/

namespace Mutant

inductive Problem where
  | missing
  | textType
  | intType | intParsing | intFromFraction | intTooLarge
  | notFinite
  | realType | realParsing
  | boolType | boolParsing
  | listType
  | recordType
  | choice
  | rule (text : String)
deriving DecidableEq, Repr

namespace Problem

def code : Problem → String
  | missing => "missing"
  | textType => "string_type"
  | intType => "int_type"
  | intParsing => "int_parsing"
  | intFromFraction => "int_from_float"
  | intTooLarge => "int_parsing_size"
  | notFinite => "finite_number"
  | realType => "float_type"
  | realParsing => "float_parsing"
  | boolType => "bool_type"
  | boolParsing => "bool_parsing"
  | listType => "list_type"
  | recordType => "model_type"
  | choice => "enum"
  | rule _ => "value_error"

def message? : Problem → Option String
  | rule text => some ("Value error, " ++ text)
  | _ => none

end Problem

structure Issue where
  location : List String
  problem : Problem
deriving DecidableEq, Repr

inductive Checked (α : Type) where
  | fine (value : α)
  | wrong (issues : List Issue)
deriving Repr

namespace Checked

def map {α β : Type} (f : α → β) : Checked α → Checked β
  | fine value => fine (f value)
  | wrong issues => wrong issues

/-- Both sides are checked, and the issues of both are kept. -/
def seq {α β : Type} : Checked (α → β) → Checked α → Checked β
  | fine f, fine value => fine (f value)
  | fine _, wrong issues => wrong issues
  | wrong issues, fine _ => wrong issues
  | wrong first, wrong second => wrong (first ++ second)

instance : Applicative Checked where
  pure := fine
  map := map
  seq f value := f.seq (value ())

def issue {α : Type} (problem : Problem) : Checked α :=
  wrong [⟨[], problem⟩]

def andThen {α β : Type} : Checked α → (α → Checked β) → Checked β
  | fine value, next => next value
  | wrong issues, _ => wrong issues

def under {α : Type} (name : String) : Checked α → Checked α
  | fine value => fine value
  | wrong issues => wrong (issues.map fun issue => { issue with location := name :: issue.location })

end Checked

abbrev Reader (α : Type) := Value → Checked α

namespace Reader

def text : Reader String
  | .text value => .fine value
  | _ => .issue .textType

/-- Blanks around a number do not count; the separators of files and records are no blanks. -/
def isPadding (character : Char) : Bool :=
  Text.isBlank character && !(0x1C ≤ character.toNat && character.toNat ≤ 0x1F)

def trim (text : List Char) : List Char :=
  ((text.dropWhile isPadding).reverse.dropWhile isPadding).reverse

def intOfText (text : List Char) : Checked Int :=
  match Reading.whole (trim text) with
  | .ok value => .fine value
  | .error .malformed => .issue .intParsing
  | .error .tooLong => .issue .intTooLarge

def isMachineInt (value : Int) : Bool :=
  -0x8000000000000000 < value && value < 0x8000000000000000

/-- A number without a fraction counts as an integer unless it is very large. -/
def intOfReal (value : Double) : Checked Int :=
  if value.isFinite then
    match value.toInt? with
    | none => .issue .intFromFraction
    | some whole => if isMachineInt whole then .fine whole else .issue .intTooLarge
  else .issue .notFinite

def int : Reader Int
  | .int value => .fine value
  | .bool value => .fine (if value then 1 else 0)
  | .real value => intOfReal value
  | .text value => intOfText value.toList
  | _ => .issue .intType

def realOfText? (text : List Char) : Option Double :=
  (Reading.double? (trim text)).orElse fun _ =>
    (Reading.withoutUnderscores? text).bind Reading.double?

/-- An integer that is larger than every real number of the machine does not count as one. -/
def realOfInt (value : Int) : Checked Double :=
  if (Double.ofInt value).isFinite then .fine (Double.ofInt value) else .issue .realType

def real : Reader Double
  | .real value => .fine value
  | .int value => realOfInt value
  | .bool value => .fine (Double.ofInt (if value then 1 else 0))
  | .text value => ((realOfText? value.toList).map Checked.fine).getD (.issue .realParsing)
  | _ => .issue .realType

def boolOfInt (value : Int) : Checked Bool :=
  if value = 0 then .fine false
  else if value = 1 then .fine true
  else if isMachineInt value || value = -0x8000000000000000 then .issue .boolParsing
  else .issue .boolType

def boolOfReal (value : Double) : Checked Bool :=
  match intOfReal value with
  | .fine whole => boolOfInt whole
  | .wrong _ => .issue .boolType

def falseWords : List String := ["0", "off", "f", "false", "n", "no"]

def trueWords : List String := ["1", "on", "t", "true", "y", "yes"]

def boolOfText (text : String) : Checked Bool :=
  let word := Reading.asciiLower text.toList
  if falseWords.contains word then .fine false
  else if trueWords.contains word then .fine true
  else .issue .boolParsing

def bool : Reader Bool
  | .bool value => .fine value
  | .int value => boolOfInt value
  | .real value => boolOfReal value
  | .text value => boolOfText value
  | _ => .issue .boolType

def optional {α : Type} (reader : Reader α) : Reader (Option α)
  | .null => .fine none
  | value => (reader value).map some

def itemsFrom {α : Type} (reader : Reader α) : Nat → List Value → Checked (List α)
  | _, [] => .fine []
  | position, item :: rest =>
      List.cons <$> (reader item).under (toString position) <*> itemsFrom reader (position + 1) rest

def list {α : Type} (reader : Reader α) : Reader (List α)
  | .list items => itemsFrom reader 0 items
  | _ => .issue .listType

def required {α : Type} (members : List (String × Value)) (name : String) (reader : Reader α) :
    Checked α :=
  match members.lookup name with
  | some value => (reader value).under name
  | none => (Checked.issue .missing).under name

def withDefault {α : Type} (members : List (String × Value)) (name : String) (reader : Reader α)
    (default : α) : Checked α :=
  match members.lookup name with
  | some value => (reader value).under name
  | none => .fine default

def record {α : Type} (reader : List (String × Value) → Checked α) : Reader α
  | .record members => reader members
  | _ => .issue .recordType

end Reader

end Mutant
