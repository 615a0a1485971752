import Mutant.Edit
import Mutant.Path
import Mutant.Text.Utf8
import Mutant.Tree.Node

/-!
A source file is accepted when its bytes are UTF-8 and its syntax tree has no error. The tree comes
from outside: a `Grammar` gives the tree of any bytes it is asked about.
-/

namespace Mutant

/-- The parser, as a function of the bytes it reads. -/
abbrev Grammar := Bytes → Node

structure SourceFile where
  path : Path
  source : Bytes
  tree : Node
deriving Repr

inductive ParseFailure where
  | unreadable (reason : String)
  | encoding (offset : Nat)
  | grammar (line column : Nat)
deriving DecidableEq, Repr

structure ParseError where
  path : Path
  failure : ParseFailure
deriving DecidableEq, Repr

def ParseFailure.message : ParseFailure → String
  | unreadable reason => reason
  | encoding offset => s!"not valid UTF-8 (byte {offset})"
  | grammar line column => s!"syntax error at line {line}, column {column}"

def ParseError.message (error : ParseError) : String :=
  s!"Failed to parse {error.path.text}: {error.failure.message}"

def newline : UInt8 := 10

/-- Lines and columns are counted from one. Only `\n` ends a line, and a column counts bytes. -/
def lineAt (source : Bytes) (offset : Nat) : Nat :=
  (source.take offset).count newline + 1

def columnAt (source : Bytes) (offset : Nat) : Nat :=
  ((source.take offset).reverse.takeWhile (· != newline)).length + 1

namespace SourceFile

def root (file : SourceFile) : Cursor := ⟨file.tree, []⟩

def draft (file : SourceFile) : Draft := { source := file.source }

def text (file : SourceFile) (cursor : Cursor) : Bytes :=
  cursor.span.text file.source

def isError (cursor : Cursor) : Bool :=
  cursor.kind == .error || cursor.node.missing

def errors (tree : Node) : List Cursor :=
  (Cursor.walk ⟨tree, []⟩).filter isError

def parse (grammar : Grammar) (path : Path) (source : Bytes) : Except ParseError SourceFile :=
  match Utf8.decode source with
  | .error malformed => .error ⟨path, .encoding malformed.start⟩
  | .ok _ =>
      let tree := grammar source
      match errors tree with
      | first :: _ =>
          .error ⟨path, .grammar (lineAt source first.start) (columnAt source first.start)⟩
      | [] => .ok ⟨path, source, tree⟩

end SourceFile

end Mutant
