/-!
Source texts are byte strings, and every offset counts bytes.
-/

namespace Mutant

abbrev Bytes := List UInt8

/-- The bytes from `start` up to `stop`. Offsets past the end are clamped, and a range that ends
before it starts is empty. -/
def Bytes.slice (source : Bytes) (start stop : Nat) : Bytes :=
  (source.take stop).drop start

structure Span where
  start : Nat
  stop : Nat
deriving DecidableEq, Repr

def Span.contains (outer inner : Span) : Bool :=
  outer.start ≤ inner.start && inner.stop ≤ outer.stop

def Span.text (source : Bytes) (span : Span) : Bytes :=
  source.slice span.start span.stop

def Bytes.occursIn (needle : Bytes) : Bytes → Bool
  | [] => needle.isEmpty
  | byte :: rest => needle.isPrefixOf (byte :: rest) || occursIn needle rest

end Mutant
