import Mutant.Binding.Scope
import Mutant.Candidate

/-!
Renaming a declaration together with its usages. The first tier takes the references that resolve
to the declaration; when it is switched off or finds none, the second tier takes every reference
with the old name in the candidate's scope.
-/

namespace Mutant

inductive Strategy where
  | identity | lexical
deriving DecidableEq, Repr

def Strategy.text : Strategy → String
  | identity => "identity"
  | lexical => "lexical"

namespace Rename

structure Plan where
  edits : List Edit
  usages : Nat
  strategy : Strategy
deriving DecidableEq, Repr

def nameRequired : String := "rename requires a candidate with a name node"

/-- The same declaration, or two parameters alike in name and type. Only references in the owner's
body are asked about. -/
def sameSymbol (found target : Declaration) : Bool :=
  found == target ||
    (target.role == .parameter && found.role == .parameter && found.name == target.name &&
      found.descriptor == target.descriptor)

def denotes (file : SourceFile) (target : Declaration) (reference : Cursor) : Bool :=
  ((Scope.resolve file reference).map fun found => sameSymbol found target).getD false

/-- Keeps the first of several cursors that start at one offset. -/
def distinctStarts : List Nat → List Cursor → List Cursor
  | _, [] => []
  | seen, cursor :: rest =>
      if seen.contains cursor.start then distinctStarts seen rest
      else cursor :: distinctStarts (cursor.start :: seen) rest

def isNamed (file : SourceFile) (name : Bytes) (reference : Cursor) : Bool :=
  file.text reference == name

def identityUsages (file : SourceFile) (scope : Cursor) (target : Declaration) : List Cursor :=
  distinctStarts [] ((file.root.references.filter (isNamed file target.name)).filter fun reference =>
    scope.span.contains reference.span && denotes file target reference)

def lexicalUsages (file : SourceFile) (scope : Cursor) (name : Bytes) : List Cursor :=
  distinctStarts [] (scope.references.filter (isNamed file name))

/-- The usages to rename, and how they were found. -/
def usages (file : SourceFile) (resolution : Bool) (scope : Cursor) (target : Declaration) :
    List Cursor × Strategy :=
  let bound := if resolution then identityUsages file scope target else []
  if bound.isEmpty then (lexicalUsages file scope target.name, .lexical) else (bound, .identity)

/-- The edits that rename the variable declared by `name`. -/
def plan (file : SourceFile) (resolution : Bool) (scope name : Cursor) (newName : Bytes) : Plan :=
  let (found, strategy) := usages file resolution scope (Declaration.ofName file name)
  ⟨Edit.replace name.span newName :: found.map fun usage => Edit.replace usage.span newName,
    found.length, strategy⟩

end Rename

end Mutant
