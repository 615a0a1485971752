import Mutant.Diagnostics.Mention
import Mutant.Disk
import Mutant.Text.Digit

/-!
Why the output of a build cannot be explained.
-/

namespace Mutant

structure TooLong where
  digits : Nat
deriving DecidableEq, Repr

def TooLong.message (error : TooLong) : String :=
  s!"Exceeds the limit ({Text.maxDigits} digits) for integer string conversion: value has " ++
    s!"{error.digits} digits; use sys.set_int_max_str_digits() to increase the limit"

inductive DiagnosticsError where
  | number (reason : TooLong)
  | highlight (reason : Mention.Fault)
  | disk (trouble : Trouble) (path : Path)
deriving DecidableEq, Repr

def DiagnosticsError.message : DiagnosticsError → String
  | number reason => reason.message
  | highlight reason => reason.message
  | disk trouble path => trouble.message path

end Mutant
