/-!
Command lines. Options have long names and sometimes a letter; a value follows as the next argument,
after `=`, or directly after the letter. Everything after `--` is an operand.
-/

namespace Mutant.Arguments

structure Spec where
  long : String
  letter : Option Char := none
  takesValue : Bool := true
deriving DecidableEq, Repr

abbrev Given := String × Option String

structure Parsed where
  given : List Given := []
  operands : List String := []
deriving DecidableEq, Repr

def Parsed.addGiven (parsed : Parsed) (given : List Given) : Parsed :=
  { parsed with given := given ++ parsed.given }

inductive Meaning where
  | complete (given : List Given)
  | awaits (given : List Given) (option : String)
  | unknown
deriving DecidableEq, Repr

def letters (specs : List Spec) : List Char → List Given → Meaning
  | [], given => .complete given
  | letter :: rest, given =>
      match specs.find? fun spec => spec.letter == some letter with
      | none => .unknown
      | some spec =>
          if spec.takesValue then
            if rest.isEmpty then .awaits given spec.long
            else .complete (given ++ [(spec.long, some (String.ofList rest))])
          else letters specs rest (given ++ [(spec.long, none)])

def long (specs : List Spec) (argument : List Char) : Option Meaning :=
  let name := argument.takeWhile (· != '=')
  let value := if argument.contains '=' then some (argument.drop (name.length + 1)) else none
  (specs.find? fun spec => ("--" ++ spec.long).toList == name).map fun spec =>
    match spec.takesValue, value with
    | true, some value => .complete [(spec.long, some (String.ofList value))]
    | true, none => .awaits [] spec.long
    | false, some _ => .unknown
    | false, none => .complete [(spec.long, none)]

def meaning (specs : List Spec) (argument : List Char) : Meaning :=
  match long specs argument with
  | some meaning => meaning
  | none =>
      match argument with
      | '-' :: '-' :: _ => .unknown
      | _ => letters specs (argument.drop 1) []

def isOption (argument : String) : Bool :=
  argument.toList.head? == some '-' && argument != "-"

/-- Reads options and operands in any order; `none` means that the command line is wrong. -/
def parseMixed (specs : List Spec) : Option String → List String → Option Parsed
  | some _, [] => none
  | some option, value :: rest =>
      (parseMixed specs none rest).map fun parsed => parsed.addGiven [(option, some value)]
  | none, [] => some {}
  | none, argument :: rest =>
      if argument == "--" then some { operands := rest }
      else if isOption argument then
        match meaning specs argument.toList with
        | .unknown => none
        | .complete given => (parseMixed specs none rest).map fun parsed => parsed.addGiven given
        | .awaits given option =>
            (parseMixed specs (some option) rest).map fun parsed => parsed.addGiven given
      else
        (parseMixed specs none rest).map fun parsed =>
          { parsed with operands := argument :: parsed.operands }

def parseLeading (specs : List Spec) : List String → Option Parsed
  | [] => some {}
  | argument :: rest =>
      if argument == "--" then some { operands := rest }
      else if isOption argument then
        match meaning specs argument.toList with
        | .complete given => (parseLeading specs rest).map fun parsed => parsed.addGiven given
        | _ => none
      else some { operands := argument :: rest }

def Parsed.last? (parsed : Parsed) (option : String) : Option String :=
  (parsed.given.reverse.lookup option).join

def Parsed.values (parsed : Parsed) (option : String) : List String :=
  parsed.given.filterMap fun given => if given.1 == option then given.2 else none

def Parsed.has (parsed : Parsed) (option : String) : Bool :=
  parsed.given.any fun given => given.1 == option

end Mutant.Arguments
