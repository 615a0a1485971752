/-!
Numbers of double precision as exact fractions `mantissa * 2 ^ exponent`, their nearest value to a
decimal, and the shortest decimal that reads back as the same number.
-/

namespace Mutant

inductive Double where
  | nan
  | infinite (negative : Bool)
  | finite (negative : Bool) (mantissa : Nat) (exponent : Int)
deriving DecidableEq, Repr

/-- A fraction of naturals: the value of a power with any exponent, times a natural. -/
structure Fraction where
  numerator : Nat
  denominator : Nat
deriving DecidableEq, Repr

def Fraction.scaled (factor base : Nat) (exponent : Int) : Fraction :=
  if 0 ≤ exponent then ⟨factor * Nat.pow base exponent.toNat, 1⟩
  else ⟨factor, Nat.pow base (-exponent).toNat⟩

def Fraction.le (first second : Fraction) : Bool :=
  first.numerator * second.denominator ≤ second.numerator * first.denominator

def Fraction.lt (first second : Fraction) : Bool :=
  first.numerator * second.denominator < second.numerator * first.denominator

/-- The quotient rounded to the nearest natural, a tie to the even one. -/
def Fraction.round (value : Fraction) : Nat :=
  let quotient := value.numerator / value.denominator
  let twice := 2 * (value.numerator % value.denominator)
  if twice < value.denominator then quotient
  else if value.denominator < twice then quotient + 1
  else if quotient % 2 = 0 then quotient else quotient + 1

def Fraction.shifted (value : Fraction) (exponent : Int) : Fraction :=
  if 0 ≤ exponent then ⟨value.numerator, value.denominator * Nat.pow 2 exponent.toNat⟩
  else ⟨value.numerator * Nat.pow 2 (-exponent).toNat, value.denominator⟩

namespace Double

def precision : Nat := 53

def leastExponent : Int := -1074

def greatestExponent : Int := 971

def exponentOf (value : Fraction) : Int :=
  let guess : Int := (value.numerator.log2 : Int) - value.denominator.log2 - (precision - 1)
  let short := (value.shifted guess).lt ⟨Nat.pow 2 (precision - 1), 1⟩
  let long := Fraction.le ⟨Nat.pow 2 precision, 1⟩ (value.shifted guess)
  max leastExponent (if long then guess + 1 else if short then guess - 1 else guess)

def nearest (negative : Bool) (value : Fraction) : Double :=
  let exponent := exponentOf value
  let mantissa := (value.shifted exponent).round
  let (mantissa, exponent) :=
    if mantissa = Nat.pow 2 precision then (Nat.pow 2 (precision - 1), exponent + 1)
    else (mantissa, exponent)
  if greatestExponent < exponent then .infinite negative else .finite negative mantissa exponent

/-- The nearest number to `digits * 10 ^ scale`. Far outside the range no power is computed. -/
def ofDecimal (negative : Bool) (digits : Nat) (scale : Int) : Double :=
  let order : Int := (Nat.toDigits 10 digits).length + scale
  if digits = 0 || order < -330 then .finite negative 0 leastExponent
  else if 310 < order then .infinite negative
  else nearest negative (Fraction.scaled digits 10 scale)

def ofInt (value : Int) : Double :=
  ofDecimal (value < 0) value.natAbs 0

def exceedsZero : Double → Bool
  | nan => true
  | infinite negative => !negative
  | finite negative mantissa _ => !negative && 0 < mantissa

def isFinite : Double → Bool
  | finite _ _ _ => true
  | nan | infinite _ => false

def toInt? : Double → Option Int
  | finite negative mantissa exponent =>
      let value := Fraction.scaled mantissa 2 exponent
      if value.numerator % value.denominator = 0 then
        let size : Int := value.numerator / value.denominator
        some (if negative then -size else size)
      else none
  | _ => none

/-- The fractions that round to a number: from the middle between it and its lower neighbour to the
middle between it and the upper one. -/
structure Rounding where
  low : Fraction
  high : Fraction
  closed : Bool
deriving DecidableEq, Repr

def rounding (mantissa : Nat) (exponent : Int) : Rounding :=
  let narrow := mantissa = Nat.pow 2 (precision - 1) && leastExponent < exponent
  let low :=
    if narrow then Fraction.scaled (4 * mantissa - 1) 2 (exponent - 2)
    else Fraction.scaled (2 * mantissa - 1) 2 (exponent - 1)
  ⟨low, Fraction.scaled (2 * mantissa + 1) 2 (exponent - 1), mantissa % 2 = 0⟩

def Rounding.contains (range : Rounding) (value : Fraction) : Bool :=
  if range.closed then range.low.le value && value.le range.high
  else range.low.lt value && value.lt range.high

def distance (first second : Fraction) : Fraction :=
  let left := first.numerator * second.denominator
  let right := second.numerator * first.denominator
  ⟨(left - right) + (right - left), first.denominator * second.denominator⟩

/-- Of the two neighbours of a value among the multiples of `10 ^ scale`, the nearer one that rounds
to the number. A tie goes to the even one. -/
def onGrid (range : Rounding) (value : Fraction) (scale : Int) : Option Nat :=
  let unit := Fraction.scaled 1 10 scale
  let lower := value.numerator * unit.denominator / (value.denominator * unit.numerator)
  let point := fun (digits : Nat) => Fraction.scaled digits 10 scale
  let lowerHits := range.contains (point lower)
  let upperHits := range.contains (point (lower + 1))
  let fromLower := distance value (point lower)
  let fromUpper := distance value (point (lower + 1))
  if lowerHits && upperHits then
    if fromUpper.lt fromLower || (fromUpper.le fromLower && lower % 2 = 1) then some (lower + 1)
    else some lower
  else if lowerHits then some lower
  else if upperHits then some (lower + 1)
  else none

/-- Tries grids from the coarsest to the finest. -/
def shortestFrom (range : Rounding) (value : Fraction) : Nat → Int → Nat × Int
  | 0, scale => (0, scale)
  | tries + 1, scale =>
      match onGrid range value scale with
      | some digits => if digits = 0 then shortestFrom range value tries (scale - 1) else (digits, scale)
      | none => shortestFrom range value tries (scale - 1)

def shortest (mantissa : Nat) (exponent : Int) : Nat × Int :=
  let value := Fraction.scaled mantissa 2 exponent
  let order : Int :=
    (Nat.toDigits 10 (value.numerator / value.denominator)).length -
      (if value.numerator < value.denominator then
        (Nat.toDigits 10 (value.denominator / value.numerator)).length else 0)
  shortestFrom (rounding mantissa exponent) value 25 order

def layout (digits : List Char) (scale : Int) : List Char :=
  let digits := (digits.reverse.dropWhile (· == '0')).reverse
  let point : Int := scale
  let size : Int := digits.length
  if -4 < point && point ≤ 16 then
    if point ≤ 0 then '0' :: '.' :: List.replicate (-point).toNat '0' ++ digits
    else if size ≤ point then
      digits ++ List.replicate (point - size).toNat '0' ++ ['.', '0']
    else digits.take point.toNat ++ '.' :: digits.drop point.toNat
  else
    let power := point - 1
    let exponent := Nat.toDigits 10 power.natAbs
    let exponent := if exponent.length < 2 then '0' :: exponent else exponent
    let fraction := if digits.length ≤ 1 then [] else '.' :: digits.drop 1
    digits.take 1 ++ fraction ++ 'e' :: (if power < 0 then '-' else '+') :: exponent

/-- The shortest decimal that reads back as the number. -/
def text : Double → String
  | nan => "nan"
  | infinite negative => if negative then "-inf" else "inf"
  | finite negative mantissa exponent =>
      let sign := if negative then "-" else ""
      if mantissa = 0 then sign ++ "0.0"
      else
        let (digits, scale) := shortest mantissa exponent
        let written := Nat.toDigits 10 digits
        sign ++ String.ofList (layout written (scale + written.length))

end Double

end Mutant
