import Mutant.Binding.Declaration
import Mutant.Binding.Reference

/-!
Resolution of references. From a reference one walks outward through the constructs that contain
it; the first of them that declares the name, visibly at that point, binds the reference. What is
declared outside the file stays unresolved.
-/

namespace Mutant.Scope

def isEarlier (file : SourceFile) (reference : Cursor) (name : Bytes) (candidate : Cursor) :
    Bool :=
  file.text candidate == name && candidate.stop ≤ reference.start

/-- In a block, later declarations of a name hide earlier ones. -/
def inBlock (file : SourceFile) (scope reference : Cursor) (name : Bytes) : Option Cursor :=
  let before := scope.statements.takeWhile fun statement => statement.start < reference.start
  let declarations := before.filter (·.kind == .localVariableDeclaration)
  ((declarations.flatMap (·.declaratorNames)).filter (isEarlier file reference name)).getLast?

def inFor (file : SourceFile) (scope reference : Cursor) (name : Bytes) : Option Cursor :=
  let declarations :=
    (scope.childrenAt .initial).filter (·.kind == .localVariableDeclaration)
  (declarations.flatMap (·.declaratorNames)).find? (isEarlier file reference name)

def inBody (scope reference : Cursor) : Bool :=
  ((scope.childAt .body).map fun body => body.span.contains reference.span).getD false

def throughBody (file : SourceFile) (scope reference : Cursor) (name : Bytes)
    (candidates : List Cursor) : Option Cursor :=
  if inBody scope reference then candidates.find? fun candidate => file.text candidate == name
  else none

def caughtName (scope : Cursor) : Option Cursor :=
  (scope.namedChildren.find? (·.kind == .catchFormalParameter)).bind (·.childAt .name)

def resourceNames (scope : Cursor) : List Cursor :=
  match scope.childAt .resources with
  | none => []
  | some resources =>
      (resources.namedChildren.filter (·.kind == .resource)).filterMap (·.childAt .name)

/-- The fields of a class body, then the components of the record whose body it is. -/
def memberNames (scope : Cursor) : List Cursor :=
  let members := scope.namedChildren.filter fun member =>
    member.kind == .fieldDeclaration || member.kind == .constantDeclaration
  let components :=
    match scope.parent with
    | none => []
    | some owner => if owner.kind == .recordDeclaration then owner.declaredParameters else []
  members.flatMap (·.declaratorNames) ++ components

/-- The declaring name that a construct offers for a name at a reference inside it. -/
def lookup (file : SourceFile) (scope reference : Cursor) (name : Bytes) : Option Cursor :=
  match scope.kind with
  | .block | .constructorBody | .switchBlock => inBlock file scope reference name
  | .forStatement => inFor file scope reference name
  | .enhancedForStatement =>
      throughBody file scope reference name (scope.childAt .name).toList
  | .catchClause => throughBody file scope reference name (caughtName scope).toList
  | .tryWithResourcesStatement =>
      (resourceNames scope).find? (isEarlier file reference name)
  | .lambdaExpression | .methodDeclaration | .constructorDeclaration =>
      throughBody file scope reference name scope.declaredParameters
  | .classBody | .interfaceBody | .enumBody | .enumBodyDeclarations =>
      (memberNames scope).find? fun candidate => file.text candidate == name
  | _ => none

def binder (file : SourceFile) (reference : Cursor) : Option Cursor :=
  reference.ancestors.findSome? fun scope => lookup file scope reference (file.text reference)

def resolve (file : SourceFile) (reference : Cursor) : Option Declaration :=
  (binder file reference).map (Declaration.ofName file)

end Mutant.Scope
