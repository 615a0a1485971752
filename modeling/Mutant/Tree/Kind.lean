/-!
The kinds of nodes and the fields of children that the analyses of a Java syntax tree tell apart.
Every other kind or field keeps its name.
-/

namespace Mutant

inductive Kind where
  | block | constructorBody | switchBlock | switchBlockStatementGroup
  | methodDeclaration | constructorDeclaration | compactConstructorDeclaration | lambdaExpression
  | classBody | interfaceBody | enumBody | enumBodyDeclarations
  | classDeclaration | interfaceDeclaration | enumDeclaration | recordDeclaration
  | annotationTypeDeclaration | annotationTypeElementDeclaration | enumConstant
  | localVariableDeclaration | fieldDeclaration | constantDeclaration | variableDeclarator | modifiers
  | formalParameters | formalParameter | spreadParameter | inferredParameters | catchFormalParameter
  | forStatement | enhancedForStatement | catchClause | tryWithResourcesStatement | resource
  | identifier | scopedIdentifier | importDeclaration | packageDeclaration | moduleDeclaration
  | labeledStatement | breakStatement | continueStatement
  | methodInvocation | methodReference | fieldAccess | instanceofExpression
  | annotationUse | markerAnnotationUse | elementValuePair
  | ifStatement | parenthesizedExpression | lineComment | blockComment
  | error
  | other (name : String)
deriving DecidableEq, Repr

namespace Kind

def named : List (String × Kind) :=
  [("block", block), ("constructor_body", constructorBody), ("switch_block", switchBlock),
    ("switch_block_statement_group", switchBlockStatementGroup),
    ("method_declaration", methodDeclaration), ("constructor_declaration", constructorDeclaration),
    ("compact_constructor_declaration", compactConstructorDeclaration),
    ("lambda_expression", lambdaExpression), ("class_body", classBody),
    ("interface_body", interfaceBody), ("enum_body", enumBody),
    ("enum_body_declarations", enumBodyDeclarations), ("class_declaration", classDeclaration),
    ("interface_declaration", interfaceDeclaration), ("enum_declaration", enumDeclaration),
    ("record_declaration", recordDeclaration),
    ("annotation_type_declaration", annotationTypeDeclaration),
    ("annotation_type_element_declaration", annotationTypeElementDeclaration),
    ("enum_constant", enumConstant), ("local_variable_declaration", localVariableDeclaration),
    ("field_declaration", fieldDeclaration), ("constant_declaration", constantDeclaration),
    ("variable_declarator", variableDeclarator), ("modifiers", modifiers),
    ("formal_parameters", formalParameters), ("formal_parameter", formalParameter),
    ("spread_parameter", spreadParameter), ("inferred_parameters", inferredParameters),
    ("catch_formal_parameter", catchFormalParameter), ("for_statement", forStatement),
    ("enhanced_for_statement", enhancedForStatement), ("catch_clause", catchClause),
    ("try_with_resources_statement", tryWithResourcesStatement), ("resource", resource),
    ("identifier", identifier), ("scoped_identifier", scopedIdentifier),
    ("import_declaration", importDeclaration), ("package_declaration", packageDeclaration),
    ("module_declaration", moduleDeclaration), ("labeled_statement", labeledStatement),
    ("break_statement", breakStatement), ("continue_statement", continueStatement),
    ("method_invocation", methodInvocation), ("method_reference", methodReference),
    ("field_access", fieldAccess), ("instanceof_expression", instanceofExpression),
    ("annotation", annotationUse), ("marker_annotation", markerAnnotationUse),
    ("element_value_pair", elementValuePair), ("if_statement", ifStatement),
    ("parenthesized_expression", parenthesizedExpression), ("line_comment", lineComment),
    ("block_comment", blockComment), ("ERROR", error)]

def ofName (name : String) : Kind :=
  (named.lookup name).getD (other name)

def name : Kind → String
  | other name => name
  | kind => ((named.find? (·.2 == kind)).map (·.1)).getD ""

end Kind

inductive Field where
  | name | body | parameters | typ | dimensions | declarator | initial | resources | member | key
  | condition | consequence | alternative
  | other (name : String)
deriving DecidableEq, Repr

namespace Field

def named : List (String × Field) :=
  [("name", name), ("body", body), ("parameters", parameters), ("type", typ),
    ("dimensions", dimensions), ("declarator", declarator), ("init", initial),
    ("resources", resources), ("field", member), ("key", key), ("condition", condition),
    ("consequence", consequence), ("alternative", alternative)]

def ofName (name : String) : Field :=
  (named.lookup name).getD (other name)

end Field

end Mutant
