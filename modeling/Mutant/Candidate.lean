import Mutant.Binding.Reference
import Mutant.Source

/-!
The program elements that may be mutated, in document order. A name that already carries the marker
is passed over, so that a second round does not touch what the first one changed.
-/

namespace Mutant

inductive Owner where
  | block | callable | lambda | conditional
deriving DecidableEq, Repr

def Owner.text : Owner → String
  | block => "local"
  | callable => "callable"
  | lambda => "lambda"
  | conditional => "conditional"

structure Candidate where
  element : Cursor
  /-- The boundary that a renaming does not cross. -/
  scope : Cursor
  owner : Owner
  name : Option Cursor
deriving Repr

inductive Family where
  | localVariable | parameter | conditional
deriving DecidableEq, Repr

def Family.ofText? (text : String) : Option Family :=
  if text == "local" then some .localVariable
  else if text == "parameter" then some .parameter
  else if text == "conditional" then some .conditional
  else none

def Family.unknown (text : String) : String :=
  "Unknown candidate family: " ++ text

namespace Candidate

def defaultMarker : Bytes := Utf8.ofString "_mt"

def effectiveMarker (marker : Bytes) : Bytes :=
  if marker.isEmpty then defaultMarker else marker

def isMarked (file : SourceFile) (marker : Bytes) (name : Cursor) : Bool :=
  (effectiveMarker marker).isSuffixOf (file.text name)

def localVariable? (file : SourceFile) (marker : Bytes) (cursor : Cursor) : Option Candidate :=
  if cursor.kind == .variableDeclarator &&
      (cursor.parent.map (·.kind == .localVariableDeclaration)).getD false then
    match cursor.enclosing Kind.blocks, cursor.childAt .name with
    | some block, some name =>
        if isMarked file marker name then none else some ⟨cursor, block, .block, some name⟩
    | _, _ => none
  else none

def localVariables (file : SourceFile) (marker : Bytes) : List Candidate :=
  file.root.walk.filterMap (localVariable? file marker)

/-- A plain parameter is mutated as a whole, any other by its name alone. -/
def parameterElement (name : Cursor) : Cursor :=
  match name.parent with
  | some parent => if parent.kind == .formalParameter then parent else name
  | none => name

/-- The parameters of one callable or lambda. One without a body has none to offer. -/
def parametersOf (file : SourceFile) (marker : Bytes) (owner : Cursor) : List Candidate :=
  if owner.kind.isCallable || owner.kind == .lambdaExpression then
    match owner.childAt .body with
    | none => []
    | some body =>
        let kind := if owner.kind == .lambdaExpression then Owner.lambda else Owner.callable
        (owner.declaredParameters.filter fun name => !isMarked file marker name).map fun name =>
          ⟨parameterElement name, body, kind, some name⟩
  else []

def parameters (file : SourceFile) (marker : Bytes) : List Candidate :=
  file.root.walk.flatMap (parametersOf file marker)

def conditionals (file : SourceFile) : List Candidate :=
  (file.root.walk.filter (·.kind == .ifStatement)).map fun cursor =>
    ⟨cursor, cursor, .conditional, none⟩

def select (file : SourceFile) (marker : Bytes) : Family → List Candidate
  | .localVariable => localVariables file marker
  | .parameter => parameters file marker
  | .conditional => conditionals file

end Candidate

end Mutant
