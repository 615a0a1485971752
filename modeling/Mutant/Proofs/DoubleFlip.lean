import Mutant.Mutation
import Mutant.Proofs.Exchange

/-!
Flipping an if-statement twice. A source is cut at the parts of the statement that are replaced, so
that a flip is a change of these parts, and a second flip is another change of what the first one
left. The branches come back to their places in braces, and the condition is negated twice.
-/

namespace Mutant

theorem Bytes.take_append_slice (source : Bytes) {start stop : Nat} (forward : start ≤ stop) :
    source.take start ++ source.slice start stop = source.take stop := by
  have shorter : source.take start = (source.take stop).take start := by
    rw [List.take_take, Nat.min_eq_left forward]
  rw [Bytes.slice, shorter, List.take_append_drop]

namespace Conditional

open Edit

structure Branch where
  kind : Kind
  text : Bytes
deriving DecidableEq, Repr

/-- A block stays as it is, any other statement is put into one. -/
def Branch.braced (branch : Branch) : Branch :=
  ⟨.block, if branch.kind == .block then branch.text else inBraces branch.text⟩

/-- A source cut at the parts of an if-statement. -/
structure Layout where
  before : Bytes
  condition : Bytes
  between : Bytes
  consequence : Branch
  alternative : Option (Bytes × Branch)
  behind : Bytes
deriving DecidableEq, Repr

namespace Layout

def emptyBlock : Branch := ⟨.block, Utf8.ofString "\x7b \x7d"⟩

def elseWord : Bytes := Utf8.ofString " else "

def upToCondition (layout : Layout) : Bytes :=
  layout.before ++ layout.condition

def upToConsequence (layout : Layout) : Bytes :=
  layout.upToCondition ++ layout.between ++ layout.consequence.text

def afterConsequence (layout : Layout) : Bytes :=
  match layout.alternative with
  | none => layout.behind
  | some (link, other) => link ++ other.text ++ layout.behind

def text (layout : Layout) : Bytes :=
  layout.upToConsequence ++ layout.afterConsequence

def conditionSpan (layout : Layout) : Span :=
  ⟨layout.before.length, layout.upToCondition.length⟩

def consequenceSpan (layout : Layout) : Span :=
  ⟨(layout.upToCondition ++ layout.between).length, layout.upToConsequence.length⟩

def alternativeSpan (layout : Layout) (link : Bytes) (other : Branch) : Span :=
  ⟨(layout.upToConsequence ++ link).length, (layout.upToConsequence ++ link ++ other.text).length⟩

def flipped (layout : Layout) : Layout :=
  { layout with
    condition := negated layout.condition
    consequence := (layout.alternative.map fun found => found.2.braced).getD emptyBlock
    alternative := some ((layout.alternative.map (·.1)).getD elseWord, layout.consequence) }

def doubleNegated (layout : Layout) : Layout :=
  { layout with condition := negated (negated layout.condition) }

/-- The condition negated twice, and both branches in their old places, in braces. A branch that was
not there is an empty one. -/
def restored (layout : Layout) : Layout :=
  { layout.doubleNegated with
    consequence := layout.consequence.braced
    alternative := some (match layout.alternative with
      | none => (elseWord, emptyBlock)
      | some (link, other) => (link, other.braced)) }

theorem flipped_flipped (layout : Layout) : layout.flipped.flipped = layout.restored := by
  obtain ⟨before, condition, between, consequence, alternative, behind⟩ := layout
  cases alternative with
  | none => rfl
  | some found => rfl

theorem restored_of_blocks {layout : Layout} {link : Bytes} {other : Branch}
    (consequence : layout.consequence.kind = .block)
    (alternative : layout.alternative = some (link, other)) (block : other.kind = .block) :
    layout.restored = layout.doubleNegated := by
  have kept : ∀ branch : Branch, branch.kind = .block → branch.braced = branch := by
    rintro ⟨kind, text⟩ rfl
    rfl
  simp only [restored, doubleNegated, alternative, kept _ consequence, kept _ block]

end Layout

/-- The tree of the file shows an if-statement with the parts of the layout in their places. -/
structure Shows (file : SourceFile) (statement : Cursor) (layout : Layout) : Prop where
  source : file.source = layout.text
  condition : ∃ expression, condition statement = some expression ∧
    expression.span = layout.conditionSpan
  consequence : ∃ branch, statement.childAt .consequence = some branch ∧
    branch.kind = layout.consequence.kind ∧ branch.span = layout.consequenceSpan
  alternative : match layout.alternative with
    | none => statement.childAt .alternative = none
    | some (link, other) => ∃ branch, statement.childAt .alternative = some branch ∧
        branch.kind = other.kind ∧ branch.span = layout.alternativeSpan link other

structure InOrder (source : Bytes) (expression branch : Cursor) (other : Option Cursor) : Prop where
  condition : expression.start ≤ expression.stop
  consequence : expression.stop ≤ branch.start ∧ branch.start ≤ branch.stop
  alternative : ∀ found ∈ other, branch.stop ≤ found.start ∧ found.start ≤ found.stop
  inBounds : branch.stop ≤ source.length ∧ ∀ found ∈ other, found.stop ≤ source.length

def Layout.ofParts (source : Bytes) (expression branch : Cursor) (other : Option Cursor) :
    Layout where
  before := source.take expression.start
  condition := expression.span.text source
  between := source.slice expression.stop branch.start
  consequence := ⟨branch.kind, branch.span.text source⟩
  alternative := other.map fun found =>
    (source.slice branch.stop found.start, ⟨found.kind, found.span.text source⟩)
  behind := source.drop ((other.map (·.stop)).getD branch.stop)

namespace InOrder

variable {source : Bytes} {expression branch : Cursor} {other : Option Cursor}
  (ordered : InOrder source expression branch other)

include ordered

theorem upToCondition_ofParts :
    (Layout.ofParts source expression branch other).upToCondition = source.take expression.stop :=
  Bytes.take_append_slice source ordered.condition

theorem upToConsequence_ofParts :
    (Layout.ofParts source expression branch other).upToConsequence = source.take branch.stop := by
  rw [Layout.upToConsequence, ordered.upToCondition_ofParts]
  change source.take expression.stop ++ source.slice expression.stop branch.start ++
    source.slice branch.start branch.stop = _
  rw [Bytes.take_append_slice source ordered.consequence.1,
    Bytes.take_append_slice source ordered.consequence.2]

theorem text_ofParts : (Layout.ofParts source expression branch other).text = source := by
  rw [Layout.text, ordered.upToConsequence_ofParts]
  cases other with
  | none => exact List.take_append_drop branch.stop source
  | some found =>
    have forward := ordered.alternative found rfl
    change source.take branch.stop ++ (source.slice branch.stop found.start ++
      source.slice found.start found.stop ++ source.drop found.stop) = source
    rw [← List.append_assoc, ← List.append_assoc, Bytes.take_append_slice source forward.1,
      Bytes.take_append_slice source forward.2, List.take_append_drop]

theorem conditionSpan_ofParts :
    (Layout.ofParts source expression branch other).conditionSpan = expression.span := by
  have bounds := ordered.inBounds.1
  have first := ordered.condition
  have second := ordered.consequence
  have start : (source.take expression.start).length = expression.start := by
    rw [List.length_take]
    omega
  have stop : (source.take expression.stop).length = expression.stop := by
    rw [List.length_take]
    omega
  rw [Layout.conditionSpan, ordered.upToCondition_ofParts, stop]
  exact congrArg (Span.mk · expression.stop) start

theorem consequenceSpan_ofParts :
    (Layout.ofParts source expression branch other).consequenceSpan = branch.span := by
  have bounds := ordered.inBounds.1
  have forward := ordered.consequence
  have start : (source.take expression.stop ++
      source.slice expression.stop branch.start).length = branch.start := by
    rw [Bytes.take_append_slice source forward.1, List.length_take]
    omega
  have stop : (source.take branch.stop).length = branch.stop := by
    rw [List.length_take]
    omega
  rw [Layout.consequenceSpan, ordered.upToConsequence_ofParts, ordered.upToCondition_ofParts, stop]
  exact congrArg (Span.mk · branch.stop) start

theorem alternativeSpan_ofParts {found : Cursor} (present : other = some found) :
    (Layout.ofParts source expression branch other).alternativeSpan
      (source.slice branch.stop found.start) ⟨found.kind, found.span.text source⟩ = found.span := by
  have bounds := ordered.inBounds.2 found present
  have forward := ordered.alternative found present
  have start : (source.take branch.stop ++
      source.slice branch.stop found.start).length = found.start := by
    rw [Bytes.take_append_slice source forward.1, List.length_take]
    omega
  have stop : (source.take branch.stop ++ source.slice branch.stop found.start ++
      source.slice found.start found.stop).length = found.stop := by
    rw [Bytes.take_append_slice source forward.1, Bytes.take_append_slice source forward.2,
      List.length_take]
    omega
  rw [Layout.alternativeSpan, ordered.upToConsequence_ofParts, start]
  exact congrArg (Span.mk found.start ·) stop

end InOrder

/-- Every if-statement with its parts in order shows the layout that they cut the source into. -/
theorem shows_ofParts {file : SourceFile} {statement expression branch : Cursor}
    (condition : condition statement = some expression)
    (consequence : statement.childAt .consequence = some branch)
    (ordered : InOrder file.source expression branch (statement.childAt .alternative)) :
    Shows file statement
      (Layout.ofParts file.source expression branch (statement.childAt .alternative)) where
  source := ordered.text_ofParts.symm
  condition := ⟨expression, condition, ordered.conditionSpan_ofParts.symm⟩
  consequence := ⟨branch, consequence, rfl, ordered.consequenceSpan_ofParts.symm⟩
  alternative := by
    cases found : statement.childAt .alternative with
    | none => rfl
    | some other =>
      rw [found] at ordered
      exact ⟨other, rfl, rfl, (ordered.alternativeSpan_ofParts rfl).symm⟩

namespace Layout

theorem text_eq (layout : Layout) :
    layout.text = layout.before ++ layout.condition ++
      (layout.between ++ layout.consequence.text ++ layout.afterConsequence) := by
  simp only [text, upToConsequence, upToCondition, List.append_assoc]

theorem text_eq_of_alternative {layout : Layout} {link : Bytes} {other : Branch}
    (found : layout.alternative = some (link, other)) :
    layout.text = layout.upToConsequence ++ link ++ other.text ++ layout.behind := by
  simp only [text, afterConsequence, found, List.append_assoc]

theorem conditionSpan_text (layout : Layout) :
    layout.conditionSpan.text layout.text = layout.condition := by
  rw [text_eq]
  exact Bytes.slice_append_append layout.before layout.condition _

theorem consequenceSpan_text (layout : Layout) :
    layout.consequenceSpan.text layout.text = layout.consequence.text :=
  Bytes.slice_append_append (layout.upToCondition ++ layout.between) layout.consequence.text _

theorem alternativeSpan_text {layout : Layout} {link : Bytes} {other : Branch}
    (found : layout.alternative = some (link, other)) :
    (layout.alternativeSpan link other).text layout.text = other.text := by
  rw [text_eq_of_alternative found]
  exact Bytes.slice_append_append (layout.upToConsequence ++ link) other.text _

theorem renderFrom_condition (layout : Layout) (new : Bytes) (rest : List Edit) :
    Draft.renderFrom layout.text 0 (Edit.replace layout.conditionSpan new :: rest) =
      layout.before ++ new ++
        Draft.renderFrom layout.text layout.upToCondition.length rest := by
  rw [text_eq]
  exact Draft.renderFrom_piece [] layout.before layout.condition _ new rest

theorem renderFrom_consequence (layout : Layout) (new : Bytes) (rest : List Edit) :
    Draft.renderFrom layout.text layout.upToCondition.length
        (Edit.replace layout.consequenceSpan new :: rest) =
      layout.between ++ new ++
        Draft.renderFrom layout.text layout.upToConsequence.length rest :=
  Draft.renderFrom_piece layout.upToCondition layout.between layout.consequence.text _ new rest

theorem renderFrom_alternative {layout : Layout} {link : Bytes} {other : Branch}
    (found : layout.alternative = some (link, other)) (new : Bytes) :
    Draft.renderFrom layout.text layout.upToConsequence.length
        [Edit.replace (layout.alternativeSpan link other) new] =
      link ++ new ++ layout.behind := by
  rw [text_eq_of_alternative found]
  refine (Draft.renderFrom_piece layout.upToConsequence link other.text _ new []).trans ?_
  rw [Draft.renderFrom_end]

theorem renderFrom_after_condition (layout : Layout) :
    Draft.renderFrom layout.text layout.upToCondition.length [] =
      layout.between ++ layout.consequence.text ++ layout.afterConsequence := by
  rw [text_eq]
  exact Draft.renderFrom_end layout.upToCondition _

theorem renderFrom_after_consequence (layout : Layout) :
    Draft.renderFrom layout.text layout.upToConsequence.length [] = layout.afterConsequence :=
  Draft.renderFrom_end layout.upToConsequence layout.afterConsequence

theorem conditionSpan_forward (layout : Layout) :
    layout.conditionSpan.start ≤ layout.conditionSpan.stop := by
  simp only [conditionSpan, upToCondition, List.length_append]
  omega

theorem consequenceSpan_forward (layout : Layout) :
    layout.conditionSpan.stop ≤ layout.consequenceSpan.start ∧
      layout.consequenceSpan.start ≤ layout.consequenceSpan.stop := by
  simp only [conditionSpan, consequenceSpan, upToConsequence, List.length_append]
  omega

theorem alternativeSpan_forward (layout : Layout) (link : Bytes) (other : Branch) :
    layout.consequenceSpan.stop ≤ (layout.alternativeSpan link other).start ∧
      (layout.alternativeSpan link other).start ≤ (layout.alternativeSpan link other).stop := by
  simp only [consequenceSpan, alternativeSpan, List.length_append]
  omega

def negationEdits (layout : Layout) : List Edit :=
  [Edit.replace layout.conditionSpan (negated (negated layout.condition))]

def flipEdits (layout : Layout) : List Edit :=
  Edit.replace layout.conditionSpan (negated layout.condition) ::
    match layout.alternative with
    | none =>
        [Edit.replace layout.consequenceSpan
          (Utf8.ofString "\x7b \x7d else " ++ layout.consequence.text)]
    | some (link, other) =>
        [Edit.replace layout.consequenceSpan other.braced.text,
          Edit.replace (layout.alternativeSpan link other) layout.consequence.text]

theorem queue_negationEdits (layout : Layout) :
    ∃ draft, Draft.queue ⟨layout.text, []⟩ layout.negationEdits = .ok draft ∧
      draft.render = layout.doubleNegated.text := by
  have forward : ∀ edit ∈ layout.negationEdits, edit.start ≤ edit.stop := by
    intro edit member
    obtain rfl := List.mem_singleton.mp member
    exact layout.conditionSpan_forward
  obtain ⟨queued, rendered⟩ := Draft.queue_of_leftToRight forward (List.pairwise_singleton _ _)
  refine ⟨_, queued, rendered.trans ?_⟩
  rw [negationEdits, renderFrom_condition, renderFrom_after_condition, text_eq]
  rfl

theorem leftToRight_flipEdits (layout : Layout) :
    (∀ edit ∈ layout.flipEdits, edit.start ≤ edit.stop) ∧ LeftToRight layout.flipEdits := by
  have first := layout.conditionSpan_forward
  have second := layout.consequenceSpan_forward
  unfold flipEdits
  split
  next =>
    simp only [Edit.replace, LeftToRight, List.mem_cons, List.not_mem_nil, forall_eq_or_imp,
      List.pairwise_cons]
    simp
    omega
  next link other _ =>
    have third := layout.alternativeSpan_forward link other
    simp only [Edit.replace, LeftToRight, List.mem_cons, List.not_mem_nil, forall_eq_or_imp,
      List.pairwise_cons]
    simp
    omega

theorem queue_flipEdits (layout : Layout) :
    ∃ draft, Draft.queue ⟨layout.text, []⟩ layout.flipEdits = .ok draft ∧
      draft.render = layout.flipped.text := by
  obtain ⟨forward, ordered⟩ := layout.leftToRight_flipEdits
  obtain ⟨queued, rendered⟩ := Draft.queue_of_leftToRight forward ordered
  refine ⟨_, queued, rendered.trans ?_⟩
  rw [layout.flipped.text_eq, flipEdits, renderFrom_condition]
  cases found : layout.alternative with
  | none =>
    have rest : layout.afterConsequence = layout.behind := by
      rw [afterConsequence, found]
    rw [renderFrom_consequence, renderFrom_after_consequence, rest]
    simp [flipped, afterConsequence, found, emptyBlock, elseWord, Utf8.ofString, Utf8.encode]
  | some pair =>
    obtain ⟨link, other⟩ := pair
    rw [renderFrom_consequence, renderFrom_alternative found]
    simp [flipped, afterConsequence, found]

end Layout

namespace Shows

variable {file : SourceFile} {statement : Cursor} {layout : Layout}
  (shows : Shows file statement layout)

include shows

theorem draft_eq : file.draft = ⟨layout.text, []⟩ := by
  rw [SourceFile.draft, shows.source]

theorem text_of_span {cursor : Cursor} {span : Span} (same : cursor.span = span) :
    file.text cursor = span.text layout.text := by
  rw [SourceFile.text, same, shows.source]

theorem doubleNegate_eq : doubleNegate file statement = some layout.negationEdits := by
  obtain ⟨expression, found, span⟩ := shows.condition
  have text := (shows.text_of_span span).trans layout.conditionSpan_text
  rw [doubleNegate, found, Option.map_some, span, text, Layout.negationEdits]

theorem flip_eq : flip file statement = some layout.flipEdits := by
  obtain ⟨expression, foundCondition, conditionSpan⟩ := shows.condition
  obtain ⟨branch, foundBranch, branchKind, branchSpan⟩ := shows.consequence
  have condition := (shows.text_of_span conditionSpan).trans layout.conditionSpan_text
  have consequence := (shows.text_of_span branchSpan).trans layout.consequenceSpan_text
  have rest := shows.alternative
  rw [flip, foundCondition, foundBranch, Layout.flipEdits]
  cases found : layout.alternative with
  | none =>
    simp only [found] at rest
    simp only [rest, swapBranches, conditionSpan, condition, branchSpan, consequence]
  | some pair =>
    obtain ⟨link, other⟩ := pair
    simp only [found] at rest
    obtain ⟨otherBranch, foundOther, otherKind, otherSpan⟩ := rest
    have alternative :=
      (shows.text_of_span otherSpan).trans (Layout.alternativeSpan_text found)
    have braces : braced file otherBranch = other.braced.text := by
      rw [braced, otherKind, alternative, Branch.braced]
    simp only [foundOther, swapBranches, conditionSpan, condition, branchSpan, consequence,
      otherSpan, braces]

end Shows

end Conditional

namespace Operator

open Conditional

/-- A conditional operator queues the edits of the statement that the policy picks. -/
theorem applyConditional_eq_ok {operator : Operator} {newName : String}
    {editsOf : SourceFile → Cursor → Option (List Edit)} {policy : Policy} {file : SourceFile}
    {candidate : Candidate} {edits : List Edit} {draft : Draft}
    (picked : policy.pick (Candidate.conditionals file) = some candidate)
    (found : editsOf file candidate.element = some edits)
    (accepted : file.draft.queue edits = .ok draft) :
    ∃ mutation, operator.applyConditional newName editsOf policy file = .ok (draft, mutation) := by
  simp only [applyConditional, picked, found, queued, accepted]
  exact ⟨_, rfl⟩

theorem apply_flipIf {file : SourceFile} {policy : Policy} {candidate : Candidate}
    {layout : Layout} (picked : policy.pick (Candidate.conditionals file) = some candidate)
    (shows : Shows file candidate.element layout) (settings : Settings) (now : Timestamp) :
    ∃ draft mutation, flipIf.apply settings policy now file = .ok (draft, mutation) ∧
      draft.render = layout.flipped.text := by
  obtain ⟨draft, accepted, rendered⟩ := layout.queue_flipEdits
  rw [← shows.draft_eq] at accepted
  obtain ⟨mutation, applied⟩ := applyConditional_eq_ok picked shows.flip_eq accepted
  exact ⟨draft, mutation, applied, rendered⟩

theorem apply_doubleNegateIf {file : SourceFile} {policy : Policy} {candidate : Candidate}
    {layout : Layout} (picked : policy.pick (Candidate.conditionals file) = some candidate)
    (shows : Shows file candidate.element layout) (settings : Settings) (now : Timestamp) :
    ∃ draft mutation, doubleNegateIf.apply settings policy now file = .ok (draft, mutation) ∧
      draft.render = layout.doubleNegated.text := by
  obtain ⟨draft, accepted, rendered⟩ := layout.queue_negationEdits
  rw [← shows.draft_eq] at accepted
  obtain ⟨mutation, applied⟩ := applyConditional_eq_ok picked shows.doubleNegate_eq accepted
  exact ⟨draft, mutation, applied, rendered⟩

/-- Flipping twice. Whatever parser shows the flipped statement again, flipping it once more gives the
source with its condition negated twice and its branches in their old places, in braces; for two
blocks this is what a double negation of the condition gives. -/
theorem flipIf_twice {file : SourceFile} {policy : Policy} {candidate : Candidate}
    {expression branch : Cursor}
    (picked : policy.pick (Candidate.conditionals file) = some candidate)
    (condition : Conditional.condition candidate.element = some expression)
    (consequence : candidate.element.childAt .consequence = some branch)
    (ordered : InOrder file.source expression branch (candidate.element.childAt .alternative))
    (settings : Settings) (now : Timestamp) :
    let layout :=
      Layout.ofParts file.source expression branch (candidate.element.childAt .alternative)
    ∃ draft mutation, flipIf.apply settings policy now file = .ok (draft, mutation) ∧
      draft.render = layout.flipped.text ∧
      ∀ (second : SourceFile) (next : Policy) (again : Candidate) (later : Timestamp),
        second.source = draft.render →
        next.pick (Candidate.conditionals second) = some again →
        Shows second again.element layout.flipped →
        ∃ final record, flipIf.apply settings next later second = .ok (final, record) ∧
          final.render = layout.restored.text ∧
          (branch.kind = .block →
            (∃ other, candidate.element.childAt .alternative = some other ∧ other.kind = .block) →
            ∃ negation negated, doubleNegateIf.apply settings policy now file =
              .ok (negation, negated) ∧ final.render = negation.render) := by
  intro layout
  have shows : Shows file candidate.element layout := shows_ofParts condition consequence ordered
  obtain ⟨draft, mutation, applied, rendered⟩ := apply_flipIf picked shows settings now
  refine ⟨draft, mutation, applied, rendered, ?_⟩
  intro second next again later _ pickedAgain showsAgain
  obtain ⟨final, record, appliedAgain, renderedAgain⟩ :=
    apply_flipIf pickedAgain showsAgain settings later
  rw [layout.flipped_flipped] at renderedAgain
  refine ⟨final, record, appliedAgain, renderedAgain, ?_⟩
  rintro block ⟨other, found, otherBlock⟩
  obtain ⟨negation, negated, appliedNegation, renderedNegation⟩ :=
    apply_doubleNegateIf picked shows settings now
  have alternative : layout.alternative = some
      (file.source.slice branch.stop other.start, ⟨other.kind, other.span.text file.source⟩) := by
    simp only [layout, Layout.ofParts, found, Option.map_some]
  refine ⟨negation, negated, appliedNegation, ?_⟩
  rw [renderedAgain, renderedNegation, Layout.restored_of_blocks block alternative otherBlock]

def branching : SourceFile where
  path := ⟨"", ["A.java"]⟩
  source := Utf8.ofString "if(a)b();else c();"
  tree := .mk (.other "program") none ⟨0, 18⟩ true false [
    .mk .ifStatement none ⟨0, 18⟩ true false [
      .mk .parenthesizedExpression (some .condition) ⟨2, 5⟩ true false [
        .mk .identifier none ⟨3, 4⟩ true false []],
      .mk (.other "expression_statement") (some .consequence) ⟨5, 9⟩ true false [],
      .mk (.other "expression_statement") (some .alternative) ⟨14, 18⟩ true false []]]

def branchingFlipped : SourceFile where
  path := ⟨"", ["A.java"]⟩
  source := Utf8.ofString "if(!(a))\x7b c(); \x7delse b();"
  tree := .mk (.other "program") none ⟨0, 25⟩ true false [
    .mk .ifStatement none ⟨0, 25⟩ true false [
      .mk .parenthesizedExpression (some .condition) ⟨2, 8⟩ true false [
        .mk (.other "unary_expression") none ⟨3, 7⟩ true false []],
      .mk .block (some .consequence) ⟨8, 16⟩ true false [],
      .mk (.other "expression_statement") (some .alternative) ⟨21, 25⟩ true false []]]

theorem branching_flipIf_twice :
    ∃ draft mutation, flipIf.apply {} {} ⟨2025, 8, 13, 19, 54, 32, 0, none⟩ branching =
        .ok (draft, mutation) ∧
      draft.render = branchingFlipped.source ∧
      ∃ final record, flipIf.apply {} {} ⟨2025, 8, 13, 19, 54, 33, 0, none⟩ branchingFlipped =
          .ok (final, record) ∧
        final.render = Utf8.ofString "if(!(!(a)))\x7b b(); \x7delse \x7b c(); \x7d" := by
  have picked : Policy.pick {} (Candidate.conditionals branching) = some _ := rfl
  obtain ⟨draft, mutation, applied, rendered, second⟩ :=
    flipIf_twice picked rfl rfl ⟨by decide, by decide, by decide, by decide⟩ {}
      ⟨2025, 8, 13, 19, 54, 32, 0, none⟩
  have source : branchingFlipped.source = draft.render := by
    rw [rendered]
    decide
  obtain ⟨final, record, appliedAgain, renderedAgain, _⟩ :=
    second branchingFlipped {} _ ⟨2025, 8, 13, 19, 54, 33, 0, none⟩ source rfl
      ⟨by decide, ⟨_, rfl, by decide⟩, ⟨_, rfl, by decide, by decide⟩,
        ⟨_, rfl, by decide, by decide⟩⟩
  refine ⟨draft, mutation, applied, source.symm, final, record, appliedAgain, ?_⟩
  rw [renderedAgain]
  decide

end Operator

end Mutant
