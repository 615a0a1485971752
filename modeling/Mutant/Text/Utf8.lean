import Mutant.Bytes

/-!
UTF-8. `encode` writes scalar values, `decode` reads them back or names the first sequence that is no
character, and `decodeLossy` puts U+FFFD for every maximal broken piece.
Both readers run the same automaton, one byte at a time.
-/

namespace Mutant.Utf8

def encodeChar (character : Char) : Bytes :=
  let value := character.toNat
  if value < 0x80 then
    [UInt8.ofNat value]
  else if value < 0x800 then
    [UInt8.ofNat (0xC0 + value / 0x40), UInt8.ofNat (0x80 + value % 0x40)]
  else if value < 0x10000 then
    [UInt8.ofNat (0xE0 + value / 0x1000), UInt8.ofNat (0x80 + value / 0x40 % 0x40),
      UInt8.ofNat (0x80 + value % 0x40)]
  else
    [UInt8.ofNat (0xF0 + value / 0x40000), UInt8.ofNat (0x80 + value / 0x1000 % 0x40),
      UInt8.ofNat (0x80 + value / 0x40 % 0x40), UInt8.ofNat (0x80 + value % 0x40)]

def encode (text : List Char) : Bytes :=
  text.flatMap encodeChar

def ofString (text : String) : Bytes :=
  encode text.toList

/-- An unfinished character: the bits read so far, how many bytes are still due, and the range in
which the next one must lie. -/
structure Pending where
  value : Nat
  due : Nat
  low : Nat
  high : Nat
deriving DecidableEq, Repr

inductive Step where
  | character (value : Nat)
  | pending (state : Pending)
  | broken
deriving DecidableEq, Repr

/-- How a sequence may begin. The narrowed ranges leave out overlong forms, surrogates and values
above U+10FFFF. -/
def lead (byte : UInt8) : Step :=
  let value := byte.toNat
  if value < 0x80 then .character value
  else if value < 0xC2 then .broken
  else if value < 0xE0 then .pending ⟨value - 0xC0, 1, 0x80, 0xBF⟩
  else if value = 0xE0 then .pending ⟨0, 2, 0xA0, 0xBF⟩
  else if value = 0xED then .pending ⟨0xD, 2, 0x80, 0x9F⟩
  else if value < 0xF0 then .pending ⟨value - 0xE0, 2, 0x80, 0xBF⟩
  else if value = 0xF0 then .pending ⟨0, 3, 0x90, 0xBF⟩
  else if value < 0xF4 then .pending ⟨value - 0xF0, 3, 0x80, 0xBF⟩
  else if value = 0xF4 then .pending ⟨4, 3, 0x80, 0x8F⟩
  else .broken

def follow (state : Pending) (byte : UInt8) : Step :=
  let value := byte.toNat
  if state.low ≤ value && value ≤ state.high then
    let bits := state.value * 0x40 + (value - 0x80)
    if state.due ≤ 1 then .character bits else .pending ⟨bits, state.due - 1, 0x80, 0xBF⟩
  else .broken

inductive Reason where
  | badStart
  | badContinuation
  | unfinished
deriving DecidableEq, Repr

/-- A sequence that is no character, from its first byte up to the one that broke it. -/
structure Malformed where
  start : Nat
  stop : Nat
  reason : Reason
deriving DecidableEq, Repr

/-- Reads from the middle of a text: `start` is the offset at which the current character began,
`offset` the current one. -/
def decodeFrom (start offset : Nat) : Option Pending → Bytes → Except Malformed (List Char)
  | none, [] => .ok []
  | some _, [] => .error ⟨start, offset, .unfinished⟩
  | none, byte :: rest =>
      match lead byte with
      | .character value =>
          (decodeFrom (offset + 1) (offset + 1) none rest).map (Char.ofNat value :: ·)
      | .pending state => decodeFrom offset (offset + 1) (some state) rest
      | .broken => .error ⟨offset, offset + 1, .badStart⟩
  | some state, byte :: rest =>
      match follow state byte with
      | .character value =>
          (decodeFrom (offset + 1) (offset + 1) none rest).map (Char.ofNat value :: ·)
      | .pending next => decodeFrom start (offset + 1) (some next) rest
      | .broken => .error ⟨start, offset, .badContinuation⟩

def decode (bytes : Bytes) : Except Malformed (List Char) :=
  decodeFrom 0 0 none bytes

def replacement : Char := Char.ofNat 0xFFFD

def decodeLossyFrom : Option Pending → Bytes → List Char
  | none, [] => []
  | some _, [] => [replacement]
  | none, byte :: rest =>
      match lead byte with
      | .character value => Char.ofNat value :: decodeLossyFrom none rest
      | .pending state => decodeLossyFrom (some state) rest
      | .broken => replacement :: decodeLossyFrom none rest
  | some state, byte :: rest =>
      match follow state byte with
      | .character value => Char.ofNat value :: decodeLossyFrom none rest
      | .pending next => decodeLossyFrom (some next) rest
      | .broken =>
          match lead byte with
          | .character value => replacement :: Char.ofNat value :: decodeLossyFrom none rest
          | .pending next => replacement :: decodeLossyFrom (some next) rest
          | .broken => replacement :: replacement :: decodeLossyFrom none rest

/-- The characters of any bytes: a broken sequence yields one U+FFFD, and the byte that broke it is
read again. -/
def decodeLossy (bytes : Bytes) : List Char :=
  decodeLossyFrom none bytes

def toText (bytes : Bytes) : String :=
  String.ofList (decodeLossy bytes)

end Mutant.Utf8
