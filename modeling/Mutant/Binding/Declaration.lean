import Mutant.Source

/-!
The identity of a declared variable: the place of its name, the role it plays, and the text of its
type. The role is read off the nodes around the name alone.
-/

namespace Mutant

inductive Role where
  | localVariable | parameter | member | loop | caught | resource
deriving DecidableEq, Repr

def Role.text : Role → String
  | localVariable => "local"
  | parameter => "parameter"
  | member => "field"
  | loop => "loop"
  | caught => "catch"
  | resource => "resource"

structure Declaration where
  name : Bytes
  role : Role
  span : Span
  /-- The text of the declared type and dimensions, or `inferred`. -/
  descriptor : Bytes
deriving DecidableEq, Repr

namespace Declaration

def ofHolder (holder : Cursor) : Role × Option Cursor :=
  match holder.kind with
  | .localVariableDeclaration => (.localVariable, holder.childAt .typ)
  | .spreadParameter => (.parameter, holder.namedChildren.find? (·.kind != .modifiers))
  | _ => (.member, holder.childAt .typ)

/-- Record components are parameters in form, and fields by what they declare. -/
def parameterRole (parameter : Cursor) : Role :=
  match parameter.above with
  | _ :: owner :: _ => if owner.kind == .recordDeclaration then .member else .parameter
  | _ => .parameter

def ofParent (parent : Cursor) : Role × Option Cursor :=
  match parent.kind with
  | .variableDeclarator => (parent.parent.map ofHolder).getD (.localVariable, none)
  | .formalParameter => (parameterRole parent, parent.childAt .typ)
  | .lambdaExpression | .inferredParameters => (.parameter, none)
  | .catchFormalParameter => (.caught, parent.childAt .typ)
  | .enhancedForStatement => (.loop, parent.childAt .typ)
  | .resource => (.resource, parent.childAt .typ)
  | _ => (.localVariable, none)

def inferred : Bytes := Utf8.ofString "inferred"

def descriptorText (file : SourceFile) (parent : Cursor) (typeNode : Option Cursor) : Bytes :=
  (typeNode.map file.text).getD inferred ++
    ((parent.childAt .dimensions).map file.text).getD []

def ofName (file : SourceFile) (name : Cursor) : Declaration :=
  match name.parent with
  | none => ⟨file.text name, .localVariable, name.span, inferred⟩
  | some parent =>
      let (role, typeNode) := ofParent parent
      ⟨file.text name, role, name.span, descriptorText file parent typeNode⟩

end Declaration

end Mutant
