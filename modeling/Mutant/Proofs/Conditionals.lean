import Mutant.Proofs.DoubleFlip
import Mutant.Proofs.Undoing
import Mutant.Proofs.Visibility

/-!
Rewriting an if-statement changes its parts and nothing else. The condition and the branches are
different children of the statement, so they lie apart in whatever order they come, and the edits
never overlap. Of a flipped statement, the branch in front of the `else` is in braces.
-/

namespace Mutant

open Cursor

namespace Edit

/-- The text is the source with the ranges of the edits replaced, and is the same everywhere else. -/
def Rewrites (source text : Bytes) (edits : List Edit) : Prop :=
  ∃ backs, Exchange 0 0 source text (sort edits) backs

end Edit

theorem Draft.queue_of_apart {source : Bytes} {edits : List Edit}
    (apart : edits.Pairwise Edit.Apart) (fits : ∀ edit ∈ edits, edit.Fits source) :
    queue ⟨source, []⟩ edits = .ok ⟨source, edits⟩ ∧
      Edit.Rewrites source (render ⟨source, edits⟩) edits := by
  have forward : ∀ edit ∈ edits, edit.start ≤ edit.stop := fun edit member => (fits edit member).1
  have ordered := Edit.leftToRight_sort forward apart
  refine ⟨(queue_eq_ok_iff forward).mpr ⟨ordered, rfl⟩, ?_⟩
  exact ⟨_, @exchange_undo ⟨source, edits⟩ ordered fits⟩

namespace Policy

theorem mem_of_pick {α : Type} {policy : Policy} {candidates : List α} {picked : α}
    (taken : policy.pick candidates = some picked) : picked ∈ candidates := by
  obtain ⟨position, -, found⟩ := Option.bind_eq_some_iff.mp taken
  exact List.mem_of_getElem? found

theorem exists_pick_of_mem {α : Type} {candidates : List α} {candidate : α}
    (member : candidate ∈ candidates) :
    ∃ policy : Policy, policy.pick candidates = some candidate := by
  obtain ⟨position, found⟩ := List.mem_iff_getElem?.mp member
  obtain ⟨within, -⟩ := List.getElem?_eq_some_iff.mp found
  have chosen : Policy.position { index := some position } candidates.length = some position := by
    rw [Policy.position, if_neg (by omega)]
    change some (min position (candidates.length - 1)) = some position
    rw [Nat.min_eq_left (by omega)]
  refine ⟨{ index := some position }, ?_⟩
  rw [pick, chosen, Option.bind_some, found]

end Policy

theorem Candidate.mem_conditionals {file : SourceFile} {candidate : Candidate}
    (chosen : candidate ∈ conditionals file) :
    candidate.element ∈ file.root.walk ∧ candidate.element.kind = .ifStatement := by
  obtain ⟨cursor, member, rfl⟩ := List.mem_map.mp chosen
  obtain ⟨walked, kind⟩ := List.mem_filter.mp member
  exact ⟨walked, by simpa using kind⟩

namespace Conditional

/-- The expression is the first between the parentheses that is no comment, or else all there is. -/
def Encloses (holder expression : Cursor) : Prop :=
  (holder.kind = .parenthesizedExpression ∧
    ∃ before after, holder.namedChildren = before ++ expression :: after ∧
      (∀ child ∈ before, isComment child = true) ∧ isComment expression = false) ∨
  (holder.kind = .parenthesizedExpression → ∀ child ∈ holder.namedChildren, isComment child = true) ∧
    expression = holder

theorem encloses_inParentheses (holder : Cursor) : Encloses holder (inParentheses holder) := by
  by_cases parenthesized : holder.kind = .parenthesizedExpression
  · rw [inParentheses, if_pos (by simp [parenthesized])]
    cases found : holder.namedChildren.find? fun child => !isComment child with
    | none =>
      refine Or.inr ⟨fun _ child member => ?_, rfl⟩
      simpa using List.find?_eq_none.mp found child member
    | some expression =>
      obtain ⟨taken, before, after, divided, skipped⟩ := List.find?_eq_some_iff_append.mp found
      refine Or.inl ⟨parenthesized, before, after, divided, ?_, by simpa using taken⟩
      intro child member
      simpa using skipped child member
  · rw [inParentheses, if_neg (by simpa using parenthesized)]
    exact Or.inr ⟨fun same => absurd same parenthesized, rfl⟩

theorem Encloses.reaches {holder expression : Cursor} (encloses : Encloses holder expression) :
    Reaches holder expression := by
  rcases encloses with ⟨-, before, after, divided, -⟩ | ⟨-, rfl⟩
  · apply Scope.reaches_of_mem_namedChildren
    rw [divided]
    exact List.mem_append_right before List.mem_cons_self
  · exact .here

theorem condition_eq_some {statement expression : Cursor}
    (found : condition statement = some expression) :
    ∃ holder, statement.childAt .condition = some holder ∧ Encloses holder expression := by
  obtain ⟨holder, held, rfl⟩ := Option.map_eq_some_iff.mp found
  exact ⟨holder, held, encloses_inParentheses holder⟩

theorem reaches_condition {statement expression : Cursor}
    (found : condition statement = some expression) : Reaches statement expression := by
  obtain ⟨holder, held, encloses⟩ := condition_eq_some found
  exact (Scope.reaches_of_childAt held).trans encloses.reaches

end Conditional

namespace SourceFile

/-- Every if-statement has a condition and a consequence. -/
def IfsComplete (file : SourceFile) : Prop :=
  ∀ cursor ∈ file.root.walk, cursor.kind = .ifStatement →
    (cursor.childAt .condition).isSome = true ∧ (cursor.childAt .consequence).isSome = true

def BlocksBraced (file : SourceFile) : Prop :=
  ∀ cursor ∈ file.root.walk, cursor.kind = .block →
    ∃ inside, file.text cursor = Utf8.ofString "\x7b" ++ inside ++ Utf8.ofString "\x7d"

theorem IfsComplete.exists_parts {file : SourceFile} (complete : file.IfsComplete)
    {candidate : Candidate} (chosen : candidate ∈ Candidate.conditionals file) :
    ∃ expression branch, Conditional.condition candidate.element = some expression ∧
      candidate.element.childAt .consequence = some branch := by
  obtain ⟨walked, kind⟩ := Candidate.mem_conditionals chosen
  obtain ⟨condition, consequence⟩ := complete candidate.element walked kind
  obtain ⟨holder, held⟩ := Option.isSome_iff_exists.mp condition
  obtain ⟨branch, found⟩ := Option.isSome_iff_exists.mp consequence
  refine ⟨Conditional.inParentheses holder, branch, ?_, found⟩
  rw [Conditional.condition, held, Option.map_some]

namespace SpansNested

variable {file : SourceFile} (spans : file.SpansNested)

include spans

theorem queue_replacements {replacements : List (Cursor × Bytes)}
    (placed : ∀ replacement ∈ replacements, Reaches file.root replacement.1)
    (apart : replacements.Pairwise fun first second =>
      first.1.stop ≤ second.1.start ∨ second.1.stop ≤ first.1.start) :
    let edits := replacements.map fun replacement => Edit.replace replacement.1.span replacement.2
    ∃ draft, file.draft.queue edits = .ok draft ∧
      Edit.Rewrites file.source draft.render edits := by
  intro edits
  have fits : ∀ edit ∈ edits, edit.Fits file.source := by
    intro edit member
    obtain ⟨replacement, replacementIn, rfl⟩ := List.mem_map.mp member
    have cursorPlaced := placed replacement replacementIn
    exact ⟨spans.start_le_stop cursorPlaced, spans.stop_le_length cursorPlaced⟩
  exact ⟨_, Draft.queue_of_apart (List.pairwise_map.mpr apart) fits⟩

theorem apart_of_childAt {statement first second : Cursor} {field other : Field}
    (placed : Reaches file.root statement) (firstFound : statement.childAt field = some first)
    (secondFound : statement.childAt other = some second) (different : field ≠ other) :
    first.stop ≤ second.start ∨ second.stop ≤ first.start := by
  obtain ⟨child, childIn, childField, rfl⟩ := childAt_eq_some firstFound
  obtain ⟨twin, twinIn, twinField, rfl⟩ := childAt_eq_some secondFound
  apply spans.siblings_apart placed childIn twinIn
  rintro rfl
  rw [childField] at twinField
  exact different (Option.some.inj twinField)

theorem apart_condition {statement expression branch : Cursor} {field : Field}
    (placed : Reaches file.root statement)
    (condition : Conditional.condition statement = some expression)
    (found : statement.childAt field = some branch) (different : Field.condition ≠ field) :
    expression.stop ≤ branch.start ∨ branch.stop ≤ expression.start := by
  obtain ⟨holder, held, encloses⟩ := Conditional.condition_eq_some condition
  have apart := spans.apart_of_childAt placed held found different
  have within := spans.contains_of_reaches (placed.trans (Scope.reaches_of_childAt held))
    encloses.reaches
  omega

end SpansNested

end SourceFile

namespace Conditional

theorem negated_negated (expression : Bytes) :
    negated (negated expression) = Utf8.ofString "!(!(" ++ expression ++ Utf8.ofString "))" := by
  have opening : Utf8.ofString "!(!(" = Utf8.ofString "!(" ++ Utf8.ofString "!(" := by decide
  have closing : Utf8.ofString "))" = Utf8.ofString ")" ++ Utf8.ofString ")" := by decide
  simp only [negated, opening, closing, List.append_assoc]

/-- What stands in front of the `else` of a flipped statement: its old alternative, put in braces
unless it is a block, or an empty block for none. -/
def leading (file : SourceFile) : Option Cursor → Bytes
  | none => Utf8.ofString "\x7b \x7d"
  | some other =>
      if other.kind = .block then file.text other
      else Utf8.ofString "\x7b " ++ file.text other ++ Utf8.ofString " \x7d"

theorem braced_eq_leading (file : SourceFile) (other : Cursor) :
    braced file other = leading file (some other) := by
  by_cases block : other.kind = .block
  · rw [braced, if_pos (by simp [block]), leading, if_pos block]
  · rw [braced, if_neg (by simpa using block), leading, if_neg block, inBraces]

theorem swapBranches_eq (file : SourceFile) (branch : Cursor) (alternative : Option Cursor) :
    swapBranches file branch alternative =
      match alternative with
      | none => [Edit.replace branch.span
          (leading file none ++ Utf8.ofString " else " ++ file.text branch)]
      | some other => [Edit.replace branch.span (leading file (some other)),
          Edit.replace other.span (file.text branch)] := by
  cases alternative with
  | none =>
    have joined : Utf8.ofString "\x7b \x7d else " =
        Utf8.ofString "\x7b \x7d" ++ Utf8.ofString " else " := by decide
    rw [swapBranches, joined]
    rfl
  | some other => rw [swapBranches, braced_eq_leading]

theorem leading_inBraces {file : SourceFile} (blocks : file.BlocksBraced)
    {alternative : Option Cursor} (placed : ∀ other ∈ alternative, Reaches file.root other) :
    ∃ inside, leading file alternative =
      Utf8.ofString "\x7b" ++ inside ++ Utf8.ofString "\x7d" := by
  cases alternative with
  | none => exact ⟨Utf8.ofString " ", rfl⟩
  | some other =>
    by_cases block : other.kind = .block
    · rw [leading, if_pos block]
      exact blocks other (mem_walk.mpr (placed other rfl)) block
    · have opening : Utf8.ofString "\x7b " = Utf8.ofString "\x7b" ++ Utf8.ofString " " := by decide
      have closing : Utf8.ofString " \x7d" = Utf8.ofString " " ++ Utf8.ofString "\x7d" := by decide
      refine ⟨Utf8.ofString " " ++ file.text other ++ Utf8.ofString " ", ?_⟩
      rw [leading, if_neg block, opening, closing]
      simp only [List.append_assoc]

section Rewriting

variable {file : SourceFile} {statement expression branch : Cursor} (spans : file.SpansNested)
  (placed : Reaches file.root statement) (condition : condition statement = some expression)

include spans placed condition

theorem queue_doubleNegate :
    ∃ edits draft, doubleNegate file statement = some edits ∧
      file.draft.queue edits = .ok draft ∧ Edit.Rewrites file.source draft.render edits ∧
      edits = [Edit.replace expression.span
        (Utf8.ofString "!(!(" ++ file.text expression ++ Utf8.ofString "))")] := by
  have expressionPlaced := placed.trans (reaches_condition condition)
  obtain ⟨draft, queued, rewrites⟩ := @SourceFile.SpansNested.queue_replacements file spans
    [(expression, negated (negated (file.text expression)))] (by simpa using expressionPlaced)
    (List.pairwise_singleton _ _)
  refine ⟨_, draft, ?_, queued, rewrites, ?_⟩
  · rw [doubleNegate, condition]
    rfl
  · rw [List.map_singleton, negated_negated]

theorem queue_flip (consequence : statement.childAt .consequence = some branch) :
    ∃ edits draft, flip file statement = some edits ∧
      file.draft.queue edits = .ok draft ∧ Edit.Rewrites file.source draft.render edits ∧
      edits = Edit.replace expression.span (negated (file.text expression)) ::
        swapBranches file branch (statement.childAt .alternative) := by
  have expressionPlaced := placed.trans (reaches_condition condition)
  have branchPlaced := placed.trans (Scope.reaches_of_childAt consequence)
  have first := spans.apart_condition placed condition consequence (by decide)
  cases found : statement.childAt .alternative with
  | none =>
    obtain ⟨draft, queued, rewrites⟩ := @SourceFile.SpansNested.queue_replacements file spans
      [(expression, negated (file.text expression)),
        (branch, Utf8.ofString "\x7b \x7d else " ++ file.text branch)]
      (by simp [expressionPlaced, branchPlaced]) (by simp [first])
    refine ⟨_, draft, ?_, queued, rewrites, rfl⟩
    rw [flip, condition, consequence, found]
    rfl
  | some other =>
    have otherPlaced := placed.trans (Scope.reaches_of_childAt found)
    have second := spans.apart_condition placed condition found (by decide)
    have third := spans.apart_of_childAt placed consequence found (by decide)
    obtain ⟨draft, queued, rewrites⟩ := @SourceFile.SpansNested.queue_replacements file spans
      [(expression, negated (file.text expression)), (branch, braced file other),
        (other, file.text branch)]
      (by simp [expressionPlaced, branchPlaced, otherPlaced]) (by simp [first, second, third])
    refine ⟨_, draft, ?_, queued, rewrites, rfl⟩
    rw [flip, condition, consequence, found]
    rfl

theorem inOrder (consequence : statement.childAt .consequence = some branch)
    (conditionFirst : expression.stop ≤ branch.start)
    (alternativeLast : ∀ other ∈ statement.childAt .alternative, branch.stop ≤ other.start) :
    InOrder file.source expression branch (statement.childAt .alternative) where
  condition := spans.start_le_stop (placed.trans (reaches_condition condition))
  consequence :=
    ⟨conditionFirst, spans.start_le_stop (placed.trans (Scope.reaches_of_childAt consequence))⟩
  alternative := fun other found =>
    ⟨alternativeLast other found,
      spans.start_le_stop (placed.trans (Scope.reaches_of_childAt found))⟩
  inBounds :=
    ⟨spans.stop_le_length (placed.trans (Scope.reaches_of_childAt consequence)),
      fun _ found => spans.stop_le_length (placed.trans (Scope.reaches_of_childAt found))⟩

end Rewriting

end Conditional

namespace Operator

open Conditional

/-- Any if-statement can be rewritten, however it is nested. A double negation replaces the condition
and nothing else. A flip replaces the condition by its negation, the alternative by the consequence,
and the consequence by the alternative in braces; where there is no alternative, an empty block and an
`else` come in front of the consequence. What stands before the `else` is in braces then. -/
theorem conditionals_rewritten {file : SourceFile} (spans : file.SpansNested)
    (complete : file.IfsComplete) {candidate : Candidate}
    (chosen : candidate ∈ Candidate.conditionals file) (settings : Settings) (now : Timestamp) :
    (∃ policy : Policy, policy.pick (Candidate.conditionals file) = some candidate) ∧
    ∃ expression branch,
      Conditional.condition candidate.element = some expression ∧
      (∃ holder, candidate.element.childAt .condition = some holder ∧
        Encloses holder expression) ∧
      candidate.element.childAt .consequence = some branch ∧
      ∀ policy : Policy, policy.pick (Candidate.conditionals file) = some candidate →
        (∃ draft mutation,
          doubleNegateIf.apply settings policy now file = .ok (draft, mutation) ∧
          Edit.Rewrites file.source draft.render
            [Edit.replace expression.span
              (Utf8.ofString "!(!(" ++ file.text expression ++ Utf8.ofString "))")]) ∧
        ∃ draft mutation,
          flipIf.apply settings policy now file = .ok (draft, mutation) ∧
          Edit.Rewrites file.source draft.render
            (Edit.replace expression.span
              (Utf8.ofString "!(" ++ file.text expression ++ Utf8.ofString ")") ::
              match candidate.element.childAt .alternative with
              | none => [Edit.replace branch.span
                  (leading file none ++ Utf8.ofString " else " ++ file.text branch)]
              | some other => [Edit.replace branch.span (leading file (some other)),
                  Edit.replace other.span (file.text branch)]) ∧
          (file.BlocksBraced → ∃ inside, leading file (candidate.element.childAt .alternative) =
            Utf8.ofString "\x7b" ++ inside ++ Utf8.ofString "\x7d") ∧
          (expression.stop ≤ branch.start →
            (∀ other ∈ candidate.element.childAt .alternative, branch.stop ≤ other.start) →
            draft.render = (Layout.ofParts file.source expression branch
              (candidate.element.childAt .alternative)).flipped.text) := by
  obtain ⟨expression, branch, condition, consequence⟩ := complete.exists_parts chosen
  have placed := mem_walk.mp (Candidate.mem_conditionals chosen).1
  refine ⟨Policy.exists_pick_of_mem chosen, expression, branch, condition,
    condition_eq_some condition, consequence, ?_⟩
  intro policy picked
  constructor
  · obtain ⟨edits, draft, found, queued, rewrites, rfl⟩ :=
      queue_doubleNegate spans placed condition
    obtain ⟨mutation, applied⟩ := applyConditional_eq_ok picked found queued
    exact ⟨draft, mutation, applied, rewrites⟩
  · obtain ⟨edits, draft, found, queued, rewrites, rfl⟩ :=
      queue_flip spans placed condition consequence
    obtain ⟨mutation, applied⟩ := applyConditional_eq_ok picked found queued
    refine ⟨draft, mutation, applied, ?_, ?_, ?_⟩
    · rw [swapBranches_eq] at rewrites
      exact rewrites
    · intro blocks
      exact leading_inBraces blocks fun other found =>
        placed.trans (Scope.reaches_of_childAt found)
    · intro conditionFirst alternativeLast
      have ordered := inOrder spans placed condition consequence conditionFirst alternativeLast
      obtain ⟨flipped, _, same, rendered⟩ :=
        apply_flipIf picked (shows_ofParts condition consequence ordered) settings now
      have drafts : (draft, mutation) = (flipped, _) := Except.ok.inj (applied.symm.trans same)
      rw [(Prod.mk.inj drafts).1, rendered]

def chained : SourceFile where
  path := ⟨"", ["A.java"]⟩
  source := Utf8.ofString "if(/*x*/a)b();else if(c)d();"
  tree := .mk (.other "program") none ⟨0, 28⟩ true false [
    .mk .ifStatement none ⟨0, 28⟩ true false [
      .mk .parenthesizedExpression (some .condition) ⟨2, 10⟩ true false [
        .mk .blockComment none ⟨3, 8⟩ true false [],
        .mk .identifier none ⟨8, 9⟩ true false []],
      .mk (.other "expression_statement") (some .consequence) ⟨10, 14⟩ true false [],
      .mk .ifStatement (some .alternative) ⟨19, 28⟩ true false [
        .mk .parenthesizedExpression (some .condition) ⟨21, 24⟩ true false [
          .mk .identifier none ⟨22, 23⟩ true false []],
        .mk (.other "expression_statement") (some .consequence) ⟨24, 28⟩ true false []]]]

theorem chained_conditionals_rewritten :
    chained.SpansNested ∧ chained.IfsComplete ∧
      (Candidate.conditionals chained).length = 2 ∧
      ∃ candidate ∈ Candidate.conditionals chained,
        Policy.pick {} (Candidate.conditionals chained) = some candidate ∧
        ∃ draft mutation, flipIf.apply {} {} ⟨2025, 8, 13, 19, 54, 32, 0, none⟩ chained =
            .ok (draft, mutation) ∧
          draft.render = Utf8.ofString "if(/*x*/!(a))\x7b if(c)d(); \x7delse b();" := by
  have spans : chained.SpansNested := ⟨by decide, by decide, by decide, by decide⟩
  have complete : chained.IfsComplete := by
    unfold SourceFile.IfsComplete
    decide
  have picked : Policy.pick {} (Candidate.conditionals chained) = some _ := rfl
  have chosen := Policy.mem_of_pick picked
  obtain ⟨-, expression, branch, condition, -, consequence, rewritten⟩ :=
    conditionals_rewritten spans complete chosen {} ⟨2025, 8, 13, 19, 54, 32, 0, none⟩
  obtain rfl := Option.some.inj condition
  obtain rfl := Option.some.inj consequence
  obtain ⟨-, draft, mutation, applied, -, -, rendered⟩ := rewritten {} picked
  refine ⟨spans, complete, by decide, _, chosen, picked, draft, mutation, applied, ?_⟩
  rw [rendered (by decide) (by decide)]
  decide

end Operator

end Mutant
