import Mutant.Build.Outcome
import Mutant.Diagnostics.Mention
import Mutant.Mutation
import Mutant.Text.Blank

/-!
A guess at why a renaming broke the build, from the names that the output mentions. It never affects
the verdict.
-/

namespace Mutant

inductive Hint where
  | missedReference | nameClash | unrelated
deriving DecidableEq, Repr

namespace Hint

def name : Hint → String
  | missedReference => "missed_reference"
  | nameClash => "name_clash"
  | unrelated => "unrelated"

def unresolvedMarker : List Char := "cannot find symbol".toList

def occursIn (needle : List Char) : List Char → Bool
  | [] => needle.isEmpty
  | character :: rest => needle.isPrefixOf (character :: rest) || occursIn needle rest

/-- Only renamings change identifiers. A mutation of unknown kind counts as one. -/
def isRenaming (mutation : Mutation) : Bool :=
  match mutation.operation with
  | none => true
  | some operation =>
      operation == Operator.renameLocal.name || operation == Operator.renameParameter.name

def mentionsName (output : List Char) : Option String → Bool
  | none => false
  | some name => !name.isEmpty && Mention.occurs name.toList output

def ofOutput (output : List Char) (oldName : String) (newName : Option String) : Option Hint :=
  if (Text.strip oldName.toList).isEmpty || !occursIn unresolvedMarker output then none
  else if mentionsName output newName then some nameClash
  else if Mention.occurs oldName.toList output then some missedReference
  else some unrelated

def classify (outcome : BuildOutcome) (mutation : Mutation) : Option Hint :=
  if isRenaming mutation then
    mutation.oldName.bind fun oldName => ofOutput outcome.output oldName mutation.newName
  else none

def lines (oldName newName : String) : Hint → List String
  | missedReference =>
      [s!"• Looks like references to '{oldName}' remain but declaration was renamed to '{newName}'.",
        "  This usually means the reference is outside the renamer's scope (e.g., lambda/inner class) or symbol resolution failed.",
        "  Try enabling symbol resolution, or broaden the reference update strategy."]
  | nameClash =>
      [s!"• The new name '{newName}' appears in errors; check for shadowing or a name clash in the same scope."]
  | unrelated =>
      ["• Rename likely triggered a type/flow issue not directly mentioning the identifier. Inspect the snippets above."]

end Hint

end Mutant
