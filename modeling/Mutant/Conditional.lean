import Mutant.Source

/-!
Changing an if-statement: its condition negated twice, or negated once with the branches swapped. A
branch that moves in front of the `else` is put in braces unless it is a block, so that it cannot
capture that `else`.
-/

namespace Mutant.Conditional

def isComment (cursor : Cursor) : Bool :=
  cursor.kind == .lineComment || cursor.kind == .blockComment

def inParentheses (condition : Cursor) : Cursor :=
  if condition.kind == .parenthesizedExpression then
    (condition.namedChildren.find? fun child => !isComment child).getD condition
  else condition

def condition (statement : Cursor) : Option Cursor :=
  (statement.childAt .condition).map inParentheses

def negated (expression : Bytes) : Bytes :=
  Utf8.ofString "!(" ++ expression ++ Utf8.ofString ")"

def inBraces (statement : Bytes) : Bytes :=
  Utf8.ofString "\x7b " ++ statement ++ Utf8.ofString " \x7d"

def braced (file : SourceFile) (statement : Cursor) : Bytes :=
  if statement.kind == .block then file.text statement else inBraces (file.text statement)

def doubleNegate (file : SourceFile) (statement : Cursor) : Option (List Edit) :=
  (condition statement).map fun expression =>
    [Edit.replace expression.span (negated (negated (file.text expression)))]

/-- The edits of the branches. A statement without `else` gets an empty branch first. -/
def swapBranches (file : SourceFile) (consequence : Cursor) : Option Cursor → List Edit
  | none =>
      [Edit.replace consequence.span
        (Utf8.ofString "\x7b \x7d else " ++ file.text consequence)]
  | some alternative =>
      [Edit.replace consequence.span (braced file alternative),
        Edit.replace alternative.span (file.text consequence)]

def flip (file : SourceFile) (statement : Cursor) : Option (List Edit) :=
  match condition statement, statement.childAt .consequence with
  | some expression, some consequence =>
      some (Edit.replace expression.span (negated (file.text expression)) ::
        swapBranches file consequence (statement.childAt .alternative))
  | _, _ => none

end Mutant.Conditional
