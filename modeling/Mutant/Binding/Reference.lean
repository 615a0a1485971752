import Mutant.Tree.Node

/-!
Which identifiers refer to a value, and which declare one. The two lists are written apart: a
reference is any identifier but those in a naming position, a declaring name is found from the
construct that declares it.
-/

namespace Mutant

def Kind.namingFields : Kind → List Field
  | .variableDeclarator | .formalParameter | .catchFormalParameter | .enhancedForStatement
  | .resource | .instanceofExpression | .methodDeclaration | .constructorDeclaration
  | .compactConstructorDeclaration | .classDeclaration | .interfaceDeclaration
  | .enumDeclaration | .recordDeclaration | .annotationTypeDeclaration
  | .annotationTypeElementDeclaration | .enumConstant | .methodInvocation | .annotationUse
  | .markerAnnotationUse => [.name]
  | .fieldAccess => [.member]
  | .elementValuePair => [.key]
  | .lambdaExpression => [.parameters]
  | _ => []

def Kind.bindsNoValue : Kind → Bool
  | .scopedIdentifier | .importDeclaration | .packageDeclaration | .labeledStatement
  | .breakStatement | .continueStatement | .inferredParameters | .moduleDeclaration => true
  | _ => false

/-- Kinds of blocks whose local declarations are visible to later statements. A local of one case
group stays visible in the groups after it, so a whole switch block is one scope. -/
def Kind.blocks : List Kind := [.block, .constructorBody, .switchBlock]

def Kind.isBlock (kind : Kind) : Bool := blocks.contains kind

def Kind.isCallable : Kind → Bool
  | .methodDeclaration | .constructorDeclaration => true
  | _ => false

def Kind.isClassBody : Kind → Bool
  | .classBody | .interfaceBody | .enumBody | .enumBodyDeclarations => true
  | _ => false

namespace Node

def namesIn (parent child : Node) : Bool :=
  parent.kind.namingFields.any fun field => (parent.childrenAt field).any child.same

/-- Of the two sides of `Foo::bar`, only the first can be a variable. -/
def isReceiverIn (parent child : Node) : Bool :=
  parent.kind != .methodReference || (parent.children.head?.map child.same).getD false

end Node

namespace Cursor

def isReference (cursor : Cursor) : Bool :=
  cursor.kind == .identifier &&
    match cursor.above with
    | [] => false
    | parent :: _ =>
        !parent.kind.bindsNoValue && !parent.namesIn cursor.node && parent.isReceiverIn cursor.node

def references (cursor : Cursor) : List Cursor :=
  cursor.walk.filter isReference

def parameterName (parameter : Cursor) : Option Cursor :=
  match parameter.kind with
  | .formalParameter => parameter.childAt .name
  | .spreadParameter =>
      (parameter.namedChildren.find? (·.kind == .variableDeclarator)).bind (·.childAt .name)
  | _ => none

def parameterNames (parameters : Cursor) : List Cursor :=
  match parameters.kind with
  | .identifier => [parameters]
  | .inferredParameters => parameters.namedChildren.filter (·.kind == .identifier)
  | _ => parameters.namedChildren.filterMap parameterName

def declaredParameters (owner : Cursor) : List Cursor :=
  ((owner.childAt .parameters).map parameterNames).getD []

def declaratorNames (declaration : Cursor) : List Cursor :=
  (declaration.childrenAt .declarator).filterMap (·.childAt .name)

/-- The statements of a block in order; the case groups of a switch are flattened. -/
def statements (block : Cursor) : List Cursor :=
  block.namedChildren.flatMap fun child =>
    if child.kind == .switchBlockStatementGroup then child.namedChildren else [child]

end Cursor

end Mutant
