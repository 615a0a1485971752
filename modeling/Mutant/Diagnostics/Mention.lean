import Mutant.Text.Digit
import Mutant.Text.Quoted
import Mutant.Text.Word

/-!
Mentions of a name in a text: occurrences at both ends of which a word begins or ends. Mentions can be
found, or put between guillemets.
-/

namespace Mutant.Mention

def isBoundary (before after : Option Char) : Bool :=
  (before.map Text.isWord).getD false != (after.map Text.isWord).getD false

def beginsAt (name : List Char) (before : Option Char) (text : List Char) : Bool :=
  name.isPrefixOf text && isBoundary before text.head? &&
    isBoundary (name.getLast?.or before) (text.drop name.length).head?

def occursFrom (name : List Char) (before : Option Char) : List Char → Bool
  | [] => beginsAt name before []
  | character :: rest =>
      beginsAt name before (character :: rest) || occursFrom name (some character) rest

def occurs (name text : List Char) : Bool :=
  occursFrom name none text

/-- Replaces mentions from left to right; `skip` counts the characters of a mention that are still to
be left out. -/
def replaceFrom (name replacement : List Char) : Option Char → Nat → List Char → List Char
  | _, _, [] => []
  | _, skip + 1, character :: rest => replaceFrom name replacement (some character) skip rest
  | before, 0, character :: rest =>
      if beginsAt name before (character :: rest) then
        replacement ++ replaceFrom name replacement (some character) (name.length - 1) rest
      else character :: replaceFrom name replacement (some character) 0 rest

inductive Fault where
  | badEscape
  | unknownGroup (name : String)
deriving DecidableEq, Repr

def Fault.message : Fault → String
  | badEscape => "bad escape"
  | unknownGroup name => "unknown group name " ++ Text.quoted name

def octalDigit? (character : Char) : Option Nat :=
  if '0' ≤ character ∧ character ≤ '7' then some (character.toNat - 0x30) else none

def control? (character : Char) : Option Char :=
  match character with
  | 'a' => some (Char.ofNat 7)
  | 'b' => some (Char.ofNat 8)
  | 't' => some (Char.ofNat 9)
  | 'n' => some (Char.ofNat 10)
  | 'v' => some (Char.ofNat 11)
  | 'f' => some (Char.ofNat 12)
  | 'r' => some (Char.ofNat 13)
  | _ => none

def zeroEscape (rest : List Char) : Char × Nat :=
  let digits := ((rest.take 2).takeWhile fun digit => (octalDigit? digit).isSome).filterMap
    octalDigit?
  (Char.ofNat (digits.foldl (fun value digit => value * 8 + digit) 0), digits.length)

def octalEscape? : List Char → Option Char
  | first :: second :: third :: _ =>
      match octalDigit? first, octalDigit? second, octalDigit? third with
      | some high, some middle, some low =>
          let value := high * 64 + middle * 8 + low
          if value ≤ 0o377 then some (Char.ofNat value) else none
      | _, _, _ => none
  | _ => none

/-- The group between angle brackets: group zero is the mention itself, and there is no other. -/
def groupFault (rest : List Char) : Option Fault :=
  match rest with
  | '<' :: body =>
      let group := body.takeWhile (· != '>')
      if (body.dropWhile (· != '>')).isEmpty || group.isEmpty then some .badEscape
      else if group.all Char.isDigit then
        if Text.ofDigits group = 0 then none else some .badEscape
      else if group.all Text.isWord && !((group.head?.map Text.isDigit).getD false) then
        some (.unknownGroup (String.ofList group))
      else some .badEscape
  | _ => some .badEscape

/-- Expands the escapes of a replacement; `skip` counts the characters that belong to an escape
already expanded. -/
def expandFrom (mention : List Char) : Nat → List Char → Except Fault (List Char)
  | _, [] => .ok []
  | skip + 1, _ :: rest => expandFrom mention skip rest
  | 0, [character] => .ok [character]
  | 0, character :: next :: rest =>
      if character != Text.backslash then (expandFrom mention 0 (next :: rest)).map (character :: ·)
      else if next == 'g' then
        match groupFault rest with
        | some fault => .error fault
        | none =>
            (expandFrom mention ((rest.takeWhile (· != '>')).length + 2) (next :: rest)).map
              (mention ++ ·)
      else if next == '0' then
        let (value, extra) := zeroEscape rest
        (expandFrom mention (extra + 1) (next :: rest)).map (value :: ·)
      else if next.isDigit then
        match octalEscape? (next :: rest) with
        | some value => (expandFrom mention 3 (next :: rest)).map (value :: ·)
        | none => .error .badEscape
      else
        match control? next with
        | some value => (expandFrom mention 1 (next :: rest)).map (value :: ·)
        | none =>
            if next == Text.backslash then (expandFrom mention 1 (next :: rest)).map (next :: ·)
            else if next.isAlpha then .error .badEscape
            else (expandFrom mention 1 (next :: rest)).map fun text => character :: next :: text

def leftGuillemet : Char := Char.ofNat 0xAB

def rightGuillemet : Char := Char.ofNat 0xBB

/-- Puts every mention between guillemets. Backslashes in the name are escapes in what is put there,
though not in what is searched for. -/
def highlight (name text : List Char) : Except Fault (List Char) :=
  (expandFrom name 0 (leftGuillemet :: name ++ [rightGuillemet])).map fun replacement =>
    replaceFrom name replacement none 0 text

end Mutant.Mention
