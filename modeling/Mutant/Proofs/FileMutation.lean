import Mutant.Proofs.AtomicReplacement
import Mutant.Proofs.Growth

/-!
Work on one file of the disk. It ends in one of three ways: with a new version of the file in its place,
with a report that nothing changed, or with an error. In the last two nothing did change.
-/

namespace Mutant

theorem SourceFile.source_of_parse {grammar : Grammar} {path : Path} {source : Bytes}
    {file : SourceFile} (parsed : parse grammar path source = .ok file) : file.source = source := by
  simp only [parse] at parsed
  split at parsed
  · exact absurd parsed (by simp)
  · split at parsed
    · exact absurd parsed (by simp)
    · rw [← Except.ok.inj parsed]

namespace World

theorem parseFile_eq_ok {world : World} {path : Path} {file : SourceFile}
    (parsed : world.parseFile path = .ok file) :
    world.disk.read path = .ok file.source ∧
      SourceFile.parse world.grammar path file.source = .ok file := by
  unfold parseFile at parsed
  split at parsed
  · exact absurd parsed (by simp)
  · exact absurd parsed (by simp)
  next source content =>
    split at parsed
    · exact absurd parsed (by simp)
    next accepted =>
      obtain rfl := Except.ok.inj parsed
      rw [SourceFile.source_of_parse accepted]
      exact ⟨content, accepted⟩

/-- A new version of a file: where the file is, what it holds, and what the operator makes of it. -/
structure Revision (world : World) (operator : Operator) (settings : Settings) (policy : Policy)
    (path : Path) where
  folder : List String
  name : String
  mode : Nat
  file : SourceFile
  draft : Draft
  mutation : Mutation
  located : world.disk.locate path = .ok (folder ++ [name])
  present : world.disk.at? (folder ++ [name]) = some (.file file.source mode)
  parsed : SourceFile.parse world.grammar path file.source = .ok file
  applied : operator.apply settings policy world.now file = .ok (draft, mutation)
  changed : mutation.changed = true
  readable : world.disk.refuses? .read (folder ++ [name]) mode = none

namespace Revision

variable {world : World} {operator : Operator} {settings : Settings} {policy : Policy} {path : Path}
  (revision : world.Revision operator settings policy path)

def location : List String :=
  revision.folder ++ [revision.name]

def disk : Disk :=
  world.disk.put revision.location (.file revision.draft.render (Entry.permissionsOf revision.mode))

def after : World :=
  { world with disk := revision.disk }

theorem room : world.disk.Room revision.folder revision.name :=
  Disk.room_of_at? revision.present

theorem status?_location : world.disk.status? revision.location =
    some (.file revision.file.source (Entry.permissionsOf revision.mode)) :=
  Disk.status?_of_at? revision.present

theorem status?_disk (other : List String) :
    revision.disk.status? other =
      if other = revision.location then
        some (.file revision.draft.render (Entry.permissionsOf revision.mode))
      else world.disk.status? other := by
  rw [disk, location, revision.room.status?_put, Entry.permissionsOf_permissionsOf]

theorem read_source : world.disk.read path = .ok revision.file.source :=
  Disk.read_eq_ok.mpr ⟨_, _, revision.located, revision.present, revision.readable⟩

theorem render_ne_source (marked : settings.marker ≠ []) :
    revision.draft.render ≠ revision.file.source := by
  have longer := Operator.length_lt_of_apply marked revision.applied revision.changed
  intro same
  rw [same] at longer
  exact Nat.lt_irrefl _ longer

end Revision

/-- Why a file is passed over: it is of no kind that is worked on, it cannot be read or parsed, the
operator finds nothing to change, or its new version cannot be moved into place. -/
def PassesOver (world : World) (operator : Operator) (settings : Settings) (policy : Policy)
    (path : Path) : Prop :=
  settings.supports path = false ∨
  (∃ error, world.parseFile path = .error (.parse error)) ∨
  (∃ file draft mutation, world.parseFile path = .ok file ∧
    operator.apply settings policy world.now file = .ok (draft, mutation) ∧
    mutation.changed = false) ∨
  world.replaceFails = true

inductive FileOutcome (world : World) (operator : Operator) (settings : Settings) (policy : Policy)
    (path : Path) : Except FileError Mutation × World → Prop
  | failed (error : FileError) : FileOutcome world operator settings policy path (.error error, world)
  | skipped (mutation : Mutation) (unchanged : mutation.changed = false)
      (reason : world.PassesOver operator settings policy path) :
      FileOutcome world operator settings policy path (.ok mutation, world)
  | revised (revision : world.Revision operator settings policy path) :
      FileOutcome world operator settings policy path
        (.ok revision.mutation, revision.after)

theorem mutateFile_outcome (world : World) (operator : Operator) (settings : Settings)
    (policy : Policy) (path : Path) :
    world.FileOutcome operator settings policy path
      (world.mutateFile operator settings policy path) := by
  unfold mutateFile
  split
  · split
    next error unparsed => exact .skipped _ rfl (Or.inr (Or.inl ⟨error, unparsed⟩))
    next error _ _ => exact .failed error
    next file parsed =>
      split
      next error _ => exact .failed (.apply error)
      next draft mutation applied =>
        split
        next changed =>
          obtain ⟨content, accepted⟩ := parseFile_eq_ok parsed
          obtain ⟨place, mode, reached, here, readable⟩ := Disk.read_eq_ok.mp content
          have found := Disk.find_eq_file.mpr ⟨place, reached, here⟩
          -- The original is read before, so it is a file that can be replaced.
          rcases Disk.replaceContent_cases found world.replaceFails draft.render with
            ⟨⟨trouble, temporary⟩, failed⟩ | ⟨fails, kept⟩ |
              ⟨_, folder, name, located, present, replaced⟩
          · rw [failed]
            exact .failed (.disk trouble temporary)
          · rw [kept]
            exact .skipped _ rfl (Or.inr (Or.inr (Or.inr fails)))
          · rw [replaced]
            obtain rfl := Except.ok.inj (reached.symm.trans located)
            exact .revised ⟨folder, name, mode, file, draft, mutation, located, present, accepted,
              applied, changed, readable⟩
        next same =>
          have unchanged : mutation.changed = false := by simpa using same
          exact .skipped mutation unchanged
            (Or.inr (Or.inr (Or.inl ⟨file, draft, mutation, parsed, applied, unchanged⟩)))
  next unsupported => exact .skipped _ rfl (Or.inl (by simpa using unsupported))

def guarded : SourceFile where
  path := ⟨"", ["A.java"]⟩
  source := Utf8.ofString "class A\x7bvoid f()\x7bif(a)b();\x7d\x7d"
  tree :=
    .mk (.other "program") none ⟨0, 28⟩ true false [
      .mk .classDeclaration none ⟨0, 28⟩ true false [
        .mk .identifier (some .name) ⟨6, 7⟩ true false [],
        .mk .classBody (some .body) ⟨7, 28⟩ true false [
          .mk .methodDeclaration none ⟨8, 27⟩ true false [
            .mk (.other "void_type") (some .typ) ⟨8, 12⟩ true false [],
            .mk .identifier (some .name) ⟨13, 14⟩ true false [],
            .mk .formalParameters (some .parameters) ⟨14, 16⟩ true false [],
            .mk .block (some .body) ⟨16, 27⟩ true false [
              .mk .ifStatement none ⟨17, 26⟩ true false [
                .mk .parenthesizedExpression (some .condition) ⟨19, 22⟩ true false [
                  .mk .identifier none ⟨20, 21⟩ true false []],
                .mk (.other "expression_statement") (some .consequence) ⟨22, 26⟩ true false [
                  .mk .methodInvocation none ⟨22, 25⟩ true false [
                    .mk .identifier (some .name) ⟨22, 23⟩ true false [],
                    .mk (.other "argument_list") (some (.other "arguments")) ⟨23, 25⟩
                      true false []]]]]]]]]

def doubleNegated : Draft :=
  ⟨guarded.source, [⟨20, 21, Utf8.ofString "!(!(a))"⟩]⟩

def doubleNegation : Mutation :=
  { file := "A.java"
    oldName := some "if"
    newName := some "if_double_negated"
    changed := true
    operation := some "double-negate-if" }

theorem apply_guarded (now : Timestamp) :
    Operator.doubleNegateIf.apply {} {} now guarded = .ok (doubleNegated, doubleNegation) := by
  have apart : Overlap.firstIn (Edit.sort ([] ++ doubleNegated.edits)) = none := by
    simp [Edit.sort, doubleNegated, Overlap.firstIn]
  change Operator.queued guarded doubleNegated.edits doubleNegation = _
  rw [Operator.queued, Draft.queue, SourceFile.draft, apart]
  rfl

def projectFolder (mode : Nat) : Entry :=
  .folder [("gradlew", .file (Utf8.ofString "#!/bin/sh") 0o755), ("A.java", .file guarded.source mode)]

def projectDisk : Disk where
  root := .folder [("work", projectFolder 0o640)]
  home := ["work"]

def negatedDisk : Disk :=
  projectDisk.put ["work", "A.java"] (.file doubleNegated.render 0o640)

theorem replaceContent_projectDisk :
    projectDisk.replaceContent false guarded.path doubleNegated.render = .ok (true, negatedDisk) :=
  rfl

def project (disk : Disk) (builds : List Disk) : World where
  disk
  grammar := fun _ => guarded.tree
  now := ⟨2025, 8, 13, 19, 54, 32, 0, some 0⟩
  buildTool := fun _ _ => {}
  git := fun _ => .absent
  builds

theorem mutateFile_guarded {disk negated : Disk} (builds : List Disk)
    (readable : disk.read guarded.path = .ok guarded.source)
    (replaced : disk.replaceContent false guarded.path doubleNegated.render = .ok (true, negated)) :
    (project disk builds).mutateFile .doubleNegateIf {} {} guarded.path =
      (.ok doubleNegation, project negated builds) := by
  have supported : ({} : Settings).supports guarded.path = true := by decide +kernel
  have accepted : SourceFile.parse (project disk builds).grammar guarded.path guarded.source =
      .ok guarded := rfl
  have parsed : (project disk builds).parseFile guarded.path = .ok guarded := by
    rw [parseFile, show (project disk builds).disk.read guarded.path = _ from readable]
    simp only [accepted]
  have changed : doubleNegation.changed = true := rfl
  have replacedHere : (project disk builds).disk.replaceContent (project disk builds).replaceFails
      guarded.path doubleNegated.render = .ok (true, negated) :=
    replaced
  simp only [mutateFile, supported, parsed, apply_guarded, changed, replacedHere, if_true]
  rfl

end World

end Mutant
