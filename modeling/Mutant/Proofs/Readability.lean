import Mutant.Proofs.Acceptance
import Mutant.Proofs.Conditionals
import Mutant.Proofs.Growth
import Mutant.Proofs.NameReplacement

/-!
Mutated sources can be read again. A draft whose edits begin and end between characters, and put in
encoded text, renders to valid bytes. Every operator queues such edits only, as long as the nodes of
the tree begin and end between characters.
-/

namespace Mutant

namespace Utf8

theorem Valid.append {first second : Bytes} (left : Valid first) (right : Valid second) :
    Valid (first ++ second) := by
  obtain ⟨text, rfl⟩ := left
  obtain ⟨more, rfl⟩ := right
  exact ⟨text ++ more, (encode_append text more).symm⟩

theorem valid_nil : Valid [] :=
  ⟨[], rfl⟩

theorem valid_ofString (text : String) : Valid (ofString text) :=
  ⟨text.toList, rfl⟩

theorem Valid.enclosed {text : Bytes} (valid : Valid text) (opening closing : String) :
    Valid (ofString opening ++ text ++ ofString closing) :=
  ((valid_ofString opening).append valid).append (valid_ofString closing)

theorem Valid.of_append {text : List Char} {rest : Bytes} (valid : Valid (encode text ++ rest)) :
    Valid rest := by
  obtain ⟨more, behind, rfl, stuck⟩ := exists_encode_append_stuck rest
  by_cases ended : behind = []
  · exact ⟨more, by rw [ended, List.append_nil]⟩
  · rw [← List.append_assoc, ← encode_append] at valid
    exact absurd valid (stuck.not_valid ended)

def Boundary (bytes : Bytes) (offset : Nat) : Prop :=
  ∃ before after, bytes = encode before ++ encode after ∧ offset = (encode before).length

theorem boundary_zero {bytes : Bytes} (valid : Valid bytes) : Boundary bytes 0 := by
  obtain ⟨text, rfl⟩ := valid
  exact ⟨[], text, rfl, rfl⟩

theorem boundary_iff {bytes : Bytes} {offset : Nat} :
    Boundary bytes offset ↔
      offset ≤ bytes.length ∧ Valid (bytes.take offset) ∧ Valid (bytes.drop offset) := by
  constructor
  · rintro ⟨before, after, rfl, rfl⟩
    refine ⟨by simp, ⟨before, List.take_left⟩, ⟨after, List.drop_left⟩⟩
  · rintro ⟨within, ⟨before, taken⟩, ⟨after, dropped⟩⟩
    refine ⟨before, after, ?_, ?_⟩
    · rw [← taken, ← dropped, List.take_append_drop]
    · rw [← taken, List.length_take_of_le within]

/-- A slice between two boundaries is valid, also where they are given the wrong way round. -/
theorem Boundary.valid_slice {bytes : Bytes} {start stop : Nat} (opens : Boundary bytes start)
    (closes : Boundary bytes stop) : Valid (bytes.slice start stop) := by
  by_cases forward : start ≤ stop
  · obtain ⟨upToStop, behind, rfl, rfl⟩ := closes
    obtain ⟨before, after, same, rfl⟩ := opens
    rw [Bytes.slice, List.take_left]
    have starts : (encode upToStop).take (encode before).length = encode before := by
      have whole := congrArg (List.take (encode before).length) same
      rwa [List.take_append_of_le_length forward, List.take_left] at whole
    have divided := List.take_append_drop (encode before).length (encode upToStop)
    rw [starts] at divided
    exact @Valid.of_append before _ ⟨upToStop, divided⟩
  · have empty : bytes.slice start stop = [] := by
      rw [Bytes.slice, List.drop_eq_nil_iff, List.length_take]
      omega
    rw [empty]
    exact valid_nil

instance (bytes : Bytes) : Decidable (Valid bytes) :=
  match read : decode bytes with
  | .ok text => isTrue (valid_iff.mpr ⟨text, read⟩)
  | .error _ => isFalse (by rw [valid_iff, read]; simp)

instance (bytes : Bytes) (offset : Nat) : Decidable (Boundary bytes offset) :=
  decidable_of_iff _ boundary_iff.symm

end Utf8

open Utf8 Cursor

structure Edit.Textual (source : Bytes) (edit : Edit) : Prop where
  opens : Boundary source edit.start
  closes : Boundary source edit.stop
  valid : Valid edit.replacement

namespace Draft

theorem valid_renderFrom {source : Bytes} {cursor : Nat} {edits : List Edit}
    (between : Boundary source cursor) (textual : ∀ edit ∈ edits, edit.Textual source) :
    Valid (renderFrom source cursor edits) := by
  induction edits generalizing cursor with
  | nil => exact (boundary_iff.mp between).2.2
  | cons edit rest ih =>
    have own := textual edit List.mem_cons_self
    have later := ih own.closes fun other member => textual other (List.mem_cons_of_mem edit member)
    exact ((between.valid_slice own.opens).append own.valid).append later

/-- Rendering keeps a text a text, whatever the order of the edits. -/
theorem valid_render {draft : Draft} (valid : Valid draft.source)
    (textual : ∀ edit ∈ draft.edits, edit.Textual draft.source) : Valid draft.render := by
  apply valid_renderFrom (boundary_zero valid)
  intro edit member
  exact textual edit (Edit.mem_sort.mp member)

end Draft

namespace SourceFile

def BetweenCharacters (file : SourceFile) : Prop :=
  ∀ cursor ∈ file.root.walk,
    Boundary file.source cursor.start ∧ Boundary file.source cursor.stop

instance (file : SourceFile) : Decidable file.BetweenCharacters :=
  inferInstanceAs (Decidable (∀ cursor ∈ file.root.walk, _))

variable {file : SourceFile} (between : file.BetweenCharacters)

include between

theorem BetweenCharacters.valid_text {cursor : Cursor} (placed : Reaches file.root cursor) :
    Valid (file.text cursor) := by
  obtain ⟨opens, closes⟩ := between cursor (mem_walk.mpr placed)
  exact opens.valid_slice closes

theorem BetweenCharacters.textual_replace {cursor : Cursor} (placed : Reaches file.root cursor)
    {text : Bytes} (valid : Valid text) : (Edit.replace cursor.span text).Textual file.source := by
  obtain ⟨opens, closes⟩ := between cursor (mem_walk.mpr placed)
  exact ⟨opens, closes, valid⟩

end SourceFile

namespace Rename

theorem textual_plan {file : SourceFile} (between : file.BetweenCharacters) {resolution : Bool}
    {family : Family} {scope name : Cursor} (renames : Candidate.Renames file family scope name)
    {newName : Bytes} (valid : Valid newName) :
    ∀ edit ∈ (plan file resolution scope name newName).edits, edit.Textual file.source := by
  intro edit member
  have replacing : (plan file resolution scope name newName).edits =
      (replaced file resolution scope name).map fun cursor => Edit.replace cursor.span newName :=
    rfl
  rw [replacing] at member
  obtain ⟨cursor, cursorIn, rfl⟩ := List.mem_map.mp member
  exact between.textual_replace (placed_of_mem_replaced renames cursorIn) valid

end Rename

namespace Conditional

variable {file : SourceFile} (between : file.BetweenCharacters)

include between

theorem valid_braced {statement : Cursor} (placed : Reaches file.root statement) :
    Valid (braced file statement) := by
  unfold braced
  split
  · exact between.valid_text placed
  · exact (between.valid_text placed).enclosed "\x7b " " \x7d"

theorem textual_doubleNegate {statement : Cursor} (placed : Reaches file.root statement)
    {edits : List Edit} (found : doubleNegate file statement = some edits) :
    ∀ edit ∈ edits, edit.Textual file.source := by
  obtain ⟨expression, held, rfl⟩ := Option.map_eq_some_iff.mp found
  have expressionPlaced := placed.trans (reaches_condition held)
  intro edit member
  rw [List.mem_singleton.mp member]
  exact between.textual_replace expressionPlaced
    (((between.valid_text expressionPlaced).enclosed "!(" ")").enclosed "!(" ")")

theorem textual_swapBranches {consequence : Cursor} (placed : Reaches file.root consequence)
    {alternative : Option Cursor}
    (otherPlaced : ∀ other ∈ alternative, Reaches file.root other) :
    ∀ edit ∈ swapBranches file consequence alternative, edit.Textual file.source := by
  have valid := between.valid_text placed
  intro edit member
  cases alternative with
  | none =>
    rw [List.mem_singleton.mp member]
    exact between.textual_replace placed ((valid_ofString _).append valid)
  | some other =>
    have inTree := otherPlaced other rfl
    rcases List.mem_cons.mp member with rfl | last
    · exact between.textual_replace placed (valid_braced between inTree)
    · rw [List.mem_singleton.mp last]
      exact between.textual_replace inTree valid

theorem textual_flip {statement : Cursor} (placed : Reaches file.root statement)
    {edits : List Edit} (found : flip file statement = some edits) :
    ∀ edit ∈ edits, edit.Textual file.source := by
  unfold flip at found
  split at found
  next expression consequence held branch =>
    obtain rfl := Option.some.inj found
    have expressionPlaced := placed.trans (reaches_condition held)
    have otherPlaced : ∀ other ∈ statement.childAt .alternative, Reaches file.root other :=
      fun other present => placed.trans (Scope.reaches_of_childAt present)
    have branches := textual_swapBranches between
      (placed.trans (Scope.reaches_of_childAt branch)) otherPlaced
    intro edit member
    rcases List.mem_cons.mp member with rfl | later
    · exact between.textual_replace expressionPlaced
        ((between.valid_text expressionPlaced).enclosed "!(" ")")
    · exact branches edit later
  next => exact absurd found (by simp)

end Conditional

namespace Operator

variable {operator : Operator} {settings : Settings} {policy : Policy} {now : Timestamp}
  {file : SourceFile} {draft : Draft} {mutation : Mutation}

theorem valid_of_queued {edits : List Edit} {record : Mutation} (valid : Valid file.source)
    (textual : ∀ edit ∈ edits, edit.Textual file.source)
    (accepted : queued file edits record = .ok (draft, mutation)) : Valid draft.render := by
  obtain ⟨rfl, -⟩ := queued_eq_ok accepted
  exact Draft.valid_render valid textual

theorem valid_of_untouched (valid : Valid file.source)
    (same : operator.untouched file = .ok (draft, mutation)) : Valid draft.render := by
  simp only [untouched, Except.ok.injEq, Prod.mk.injEq] at same
  obtain ⟨rfl, -⟩ := same
  rw [SourceFile.render_draft]
  exact valid

theorem valid_of_applyComment (valid : Valid file.source)
    (applied : operator.applyComment settings now file = .ok (draft, mutation)) :
    Valid draft.render := by
  unfold applyComment at applied
  split at applied
  · exact absurd applied (by simp)
  next comment _ =>
    refine valid_of_queued valid (fun edit member => ?_) applied
    rw [List.mem_singleton.mp member]
    exact ⟨boundary_zero valid, boundary_zero valid, valid_ofString _⟩

theorem valid_of_applyConditional {newName : String}
    {editsOf : SourceFile → Cursor → Option (List Edit)} (valid : Valid file.source)
    (textual : ∀ statement edits, Reaches file.root statement →
      editsOf file statement = some edits → ∀ edit ∈ edits, edit.Textual file.source)
    (applied : operator.applyConditional newName editsOf policy file = .ok (draft, mutation)) :
    Valid draft.render := by
  unfold applyConditional at applied
  split at applied
  next => exact valid_of_untouched valid applied
  next candidate picked =>
    split at applied
    · exact absurd applied (by simp)
    next edits found =>
      have placed := mem_walk.mp (Candidate.mem_conditionals (Policy.mem_of_pick picked)).1
      exact valid_of_queued valid (textual _ _ placed found) applied

variable (between : file.BetweenCharacters)

include between

theorem valid_of_applyRename {family : Family} (valid : Valid file.source)
    (marker : Valid settings.marker)
    (applied : operator.applyRename family settings policy file = .ok (draft, mutation)) :
    Valid draft.render := by
  unfold applyRename at applied
  split at applied
  next scope _ name picked =>
    have renames := Candidate.renames_of_mem_select (Policy.mem_of_pick picked) rfl
    have newName := (between.valid_text renames.name_placed).append marker
    exact valid_of_queued valid (Rename.textual_plan between renames newName) applied
  next => exact valid_of_untouched valid applied

theorem valid_of_apply (valid : Valid file.source) (marker : Valid settings.marker)
    (applied : operator.apply settings policy now file = .ok (draft, mutation)) :
    Valid draft.render := by
  cases operator with
  | renameLocal => exact valid_of_applyRename between valid marker applied
  | renameParameter => exact valid_of_applyRename between valid marker applied
  | insertComment => exact valid_of_applyComment valid applied
  | doubleNegateIf =>
    refine valid_of_applyConditional valid (fun statement edits placed found => ?_) applied
    exact Conditional.textual_doubleNegate between placed found
  | flipIf =>
    refine valid_of_applyConditional valid (fun statement edits placed found => ?_) applied
    exact Conditional.textual_flip between placed found

omit between

/-- In an accepted file whose nodes lie between characters, the text of every node can be read, and
without loss. Whatever an operator makes of such a file can be read again, so that it is never
refused for its encoding. -/
theorem apply_readable {grammar : Grammar} {path : Path} {source : Bytes}
    (accepted : SourceFile.parse grammar path source = .ok file)
    (between : file.BetweenCharacters) (marker : Valid settings.marker) (operator : Operator)
    (policy : Policy) (now : Timestamp) :
    (∀ cursor ∈ file.root.walk, ∃ text, Utf8.decode (file.text cursor) = .ok text ∧
      Utf8.toText (file.text cursor) = String.ofList text) ∧
    ∀ draft mutation, operator.apply settings policy now file = .ok (draft, mutation) →
      (∃ text, Utf8.decode draft.render = .ok text) ∧
      ∀ grammar path offset,
        SourceFile.parse grammar path draft.render ≠ .error ⟨path, .encoding offset⟩ := by
  have valid : Valid file.source := by
    obtain ⟨⟨valid, -⟩, rfl⟩ := SourceFile.parse_eq_ok_iff.mp accepted
    exact valid
  constructor
  · intro cursor member
    obtain ⟨text, read⟩ := valid_iff.mp (between.valid_text (mem_walk.mp member))
    exact ⟨text, read, toText_of_decode read⟩
  · intro draft mutation applied
    have readable := valid_of_apply between valid marker applied
    refine ⟨valid_iff.mp readable, fun grammar path offset refused => ?_⟩
    cases found : SourceFile.errors (grammar draft.render) with
    | nil => simp [SourceFile.parse_of_errors_eq_nil readable found] at refused
    | cons first rest => simp [SourceFile.parse_of_errors_eq_cons readable found] at refused

def accented : SourceFile where
  path := ⟨"", ["A.java"]⟩
  source := Utf8.ofString "\x7bint é=1;é++;\x7d"
  tree := .mk (.other "program") none ⟨0, 16⟩ true false [
    .mk .block none ⟨0, 16⟩ true false [
      .mk .localVariableDeclaration none ⟨1, 10⟩ true false [
        .mk (.other "integral_type") (some .typ) ⟨1, 4⟩ true false [],
        .mk .variableDeclarator (some .declarator) ⟨5, 9⟩ true false [
          .mk .identifier (some .name) ⟨5, 7⟩ true false [],
          .mk (.other "decimal_integer_literal") (some (.other "value")) ⟨8, 9⟩ true false []]],
      .mk (.other "expression_statement") none ⟨10, 15⟩ true false [
        .mk (.other "update_expression") none ⟨10, 14⟩ true false [
          .mk .identifier none ⟨10, 12⟩ true false []]]]]

theorem accented_readable :
    SourceFile.parse (fun _ => accented.tree) accented.path accented.source = .ok accented ∧
      accented.BetweenCharacters ∧
      ∃ draft mutation, renameLocal.apply {} {} ⟨2025, 8, 13, 19, 54, 32, 0, none⟩ accented =
          .ok (draft, mutation) ∧
        mutation.newName = some "é_mt" ∧
        draft.render = Utf8.ofString "\x7bint é_mt=1;é_mt++;\x7d" ∧
        ∃ text, Utf8.decode draft.render = .ok text := by
  have accepted : SourceFile.parse (fun _ => accented.tree) accented.path accented.source =
      .ok accented := rfl
  have between : accented.BetweenCharacters := by decide
  have marker : Valid ({} : Settings).marker := valid_ofString "_mt"
  have planned : renameLocal.apply {} {} ⟨2025, 8, 13, 19, 54, 32, 0, none⟩ accented =
      queued accented [⟨5, 7, Utf8.ofString "é_mt"⟩, ⟨10, 12, Utf8.ofString "é_mt"⟩]
        { file := "A.java", oldName := some "é", newName := some "é_mt", changed := true,
          operation := some "rename-local", strategy := some "identity", renamedUsages := 1 } :=
    rfl
  obtain ⟨taken, rendered⟩ := @Draft.queue_of_leftToRight accented.source
    [⟨5, 7, Utf8.ofString "é_mt"⟩, ⟨10, 12, Utf8.ofString "é_mt"⟩] (by decide)
    (by unfold Edit.LeftToRight; decide)
  change accented.draft.queue _ = _ at taken
  simp only [queued, taken] at planned
  obtain ⟨-, readable⟩ := apply_readable accepted between marker renameLocal {}
    ⟨2025, 8, 13, 19, 54, 32, 0, none⟩
  refine ⟨accepted, between, _, _, planned, rfl, ?_, (readable _ _ planned).1⟩
  rw [rendered]
  decide

end Operator

end Mutant
