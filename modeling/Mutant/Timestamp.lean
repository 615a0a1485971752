/-!
Points in time, written `2025-08-13T19:54:32+00:00`. A fraction of a second has six digits and is left
out when it is zero, and so are the seconds of the distance to universal time.
-/

namespace Mutant

structure Timestamp where
  year : Nat
  month : Nat
  day : Nat
  hour : Nat
  minute : Nat
  second : Nat
  microsecond : Nat
  offset : Option Int
deriving DecidableEq, Repr

namespace Timestamp

def padded (width value : Nat) : String :=
  let digits := toString value
  "".pushn '0' (width - digits.length) ++ digits

def offsetText (offset : Int) : String :=
  let seconds := offset.natAbs
  let sign := if offset < 0 then "-" else "+"
  let rest := seconds % 60
  sign ++ padded 2 (seconds / 3600) ++ ":" ++ padded 2 (seconds / 60 % 60) ++
    (if rest = 0 then "" else ":" ++ padded 2 rest)

def text (moment : Timestamp) : String :=
  padded 4 moment.year ++ "-" ++ padded 2 moment.month ++ "-" ++ padded 2 moment.day ++ "T" ++
    padded 2 moment.hour ++ ":" ++ padded 2 moment.minute ++ ":" ++ padded 2 moment.second ++
    (if moment.microsecond = 0 then "" else "." ++ padded 6 moment.microsecond) ++
    (moment.offset.map offsetText).getD ""

end Timestamp

end Mutant
