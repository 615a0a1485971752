import Mutant.Conditional
import Mutant.Operator
import Mutant.Policy
import Mutant.Rename
import Mutant.Text.Template
import Mutant.Timestamp

/-!
Applying an operator to a parsed file: the edits it queues, and a record of what it did.
-/

namespace Mutant

/-- Outcome of one operator on one file. When nothing changed, the file had no candidate or could not
be read, and the next file is tried. -/
structure Mutation where
  file : String
  oldName : Option String := none
  newName : Option String := none
  changed : Bool := false
  operation : Option String := none
  strategy : Option String := none
  renamedUsages : Int := 0
deriving DecidableEq, Repr

namespace Mutation

def unchanged (file : String) (operation : Option String) : Mutation :=
  { file, operation }

def shown (name : Option String) : String :=
  match name with
  | some text => if text.isEmpty then "-" else text
  | none => "-"

def describe (mutation : Mutation) : String :=
  if mutation.oldName.isNone && mutation.newName.isNone then ""
  else s!": {shown mutation.oldName} -> {shown mutation.newName}"

end Mutation

structure Settings where
  marker : Bytes := Candidate.defaultMarker
  extensions : List String := [".java"]
  commentTemplate : String := "//mt: touched by mtspark at \x7bstamp\x7d"
  resolution : Bool := true
  /-- What the members of texts are, for a template that asks for one. -/
  members : Text.Template.Members := Text.Template.noMembers

def Settings.supports (settings : Settings) (path : Path) : Bool :=
  settings.extensions.contains (Text.lower path.suffix)

inductive ApplyError where
  | overlap (collision : Overlap)
  | template (reason : Text.TemplateError)
  | incomplete
deriving DecidableEq, Repr

def ApplyError.message : ApplyError → String
  | overlap collision => collision.message
  | template reason => reason.message
  | incomplete => "incomplete if-statement"

namespace Operator

abbrev Applied := Except ApplyError (Draft × Mutation)

def queued (file : SourceFile) (edits : List Edit) (mutation : Mutation) : Applied :=
  match file.draft.queue edits with
  | .error overlap => .error (.overlap overlap)
  | .ok draft => .ok (draft, mutation)

def untouched (operator : Operator) (file : SourceFile) : Applied :=
  .ok (file.draft, Mutation.unchanged file.path.text (some operator.name))

/-- The marker is appended as it was given, an empty one included. -/
def applyRename (operator : Operator) (family : Family) (settings : Settings) (policy : Policy)
    (file : SourceFile) : Applied :=
  match policy.pick (Candidate.select file settings.marker family) with
  | some ⟨_, scope, _, some name⟩ =>
      let oldName := file.text name
      let newName := oldName ++ settings.marker
      let plan := Rename.plan file settings.resolution scope name newName
      queued file plan.edits
        { file := file.path.text
          oldName := some (Utf8.toText oldName)
          newName := some (Utf8.toText newName)
          changed := true
          operation := some operator.name
          strategy := some plan.strategy.text
          renamedUsages := plan.usages }
  | _ => operator.untouched file

def lineEnding (source : Bytes) : String :=
  if Bytes.occursIn [13, 10] source then "\r\n" else "\n"

def applyComment (operator : Operator) (settings : Settings) (now : Timestamp)
    (file : SourceFile) : Applied :=
  match Text.Template.fill settings.members settings.commentTemplate "stamp" now.text with
  | .error error => .error (.template error)
  | .ok comment =>
      queued file [Edit.insert 0 (Utf8.ofString (comment ++ lineEnding file.source))]
        { file := file.path.text
          newName := some "comment_inserted"
          changed := true
          operation := some operator.name }

def applyConditional (operator : Operator) (newName : String)
    (editsOf : SourceFile → Cursor → Option (List Edit)) (policy : Policy) (file : SourceFile) :
    Applied :=
  match policy.pick (Candidate.conditionals file) with
  | none => operator.untouched file
  | some candidate =>
      match editsOf file candidate.element with
      | none => .error .incomplete
      | some edits =>
          queued file edits
            { file := file.path.text
              oldName := some "if"
              newName := some newName
              changed := true
              operation := some operator.name }

def apply (operator : Operator) (settings : Settings) (policy : Policy) (now : Timestamp)
    (file : SourceFile) : Applied :=
  match operator with
  | renameLocal => operator.applyRename .localVariable settings policy file
  | renameParameter => operator.applyRename .parameter settings policy file
  | insertComment => operator.applyComment settings now file
  | doubleNegateIf =>
      operator.applyConditional "if_double_negated" Conditional.doubleNegate policy file
  | flipIf => operator.applyConditional "if_negated_swapped" Conditional.flip policy file

end Operator

end Mutant
