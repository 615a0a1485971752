import Mutant.Proofs.Counterparts
import Mutant.Proofs.Scoping
import Mutant.Proofs.Usages

/-!
What the resolution of a reference depends on: the constructs around the reference, the children that
these have, and the parts of the declarations among the children. A block, loop, lambda or class that
stands beside the reference may hold anything. Whatever is declared there, the reference resolves to
the same name.
-/

namespace Mutant

namespace Node

def isNaming (node : Node) : Bool :=
  node.kind == .identifier || node.field == some .name

/-- From outside, the second node looks in the other file like the first one does in the file, at the
place to which the first one has been moved. -/
structure ShowsAs (file other : SourceFile) (move : Nat → Nat) (first second : Node) : Prop where
  kind : second.kind = first.kind
  field : second.field = first.field
  named : second.named = first.named
  span : second.span = ⟨move first.start, move first.stop⟩
  text : first.isNaming = true → second.span.text other.source = first.span.text file.source

instance (file other : SourceFile) (move : Nat → Nat) (first second : Node) :
    Decidable (ShowsAs file other move first second) :=
  decidable_of_iff
    (second.kind = first.kind ∧ second.field = first.field ∧ second.named = first.named ∧
      second.span = ⟨move first.start, move first.stop⟩ ∧
      (first.isNaming = true → second.span.text other.source = first.span.text file.source))
    ⟨fun ⟨kind, field, named, span, text⟩ => ⟨kind, field, named, span, text⟩,
      fun ⟨kind, field, named, span, text⟩ => ⟨kind, field, named, span, text⟩⟩

mutual

/-- The nodes show alike, and so do the nodes below them as far down as a search for names goes. -/
def alike (file other : SourceFile) (move : Nat → Nat) : Node → Node → Bool
  | mk kind field span named missing children, second =>
      let first := mk kind field span named missing children
      decide (ShowsAs file other move first second) &&
        (!first.holdsNames || alikeAll file other move children second.children)

def alikeAll (file other : SourceFile) (move : Nat → Nat) : List Node → List Node → Bool
  | [], [] => true
  | first :: rest, second :: others =>
      alike file other move first second && alikeAll file other move rest others
  | _, _ => false

end

def Frames (file other : SourceFile) (move : Nat → Nat) (scope facing : Node) : Prop :=
  facing.kind = scope.kind ∧ alikeAll file other move scope.children facing.children = true

instance (file other : SourceFile) (move : Nat → Nat) (scope facing : Node) :
    Decidable (Frames file other move scope facing) :=
  inferInstanceAs (Decidable (_ ∧ _))

variable {file other : SourceFile} {move : Nat → Nat}

theorem alikeAll_iff {nodes twins : List Node} :
    alikeAll file other move nodes twins = true ↔
      List.Forall₂ (fun first second => alike file other move first second = true) nodes twins := by
  induction nodes generalizing twins with
  | nil => cases twins <;> simp [alikeAll]
  | cons first rest ih => cases twins <;> simp [alikeAll, ih]

theorem alike_iff {first second : Node} :
    alike file other move first second = true ↔ ShowsAs file other move first second ∧
      (first.holdsNames = true → alikeAll file other move first.children second.children = true) := by
  cases first with
  | mk kind field span named missing children =>
    rw [alike, Bool.and_eq_true, decide_eq_true_iff, Bool.or_eq_true, Bool.not_eq_true',
      ← Bool.not_eq_true, ← imp_iff_not_or]
    rfl

end Node

namespace Scope

open Cursor Rename

/-- The two references have the same text and are enclosed by constructs that are alike. The move keeps
what lies before or behind the reference on its side. Nothing is asked of what the scopes beside the
reference hold, not even of its length. -/
structure AlikeAround (file other : SourceFile) (move : Nat → Nat) (reference twin : Cursor) :
    Prop where
  span : twin.span = ⟨move reference.start, move reference.stop⟩
  text : other.text twin = file.text reference
  around : List.Forall₂ (Node.Frames file other move) reference.above twin.above
  start_lt : ∀ offset, move offset < move reference.start ↔ offset < reference.start
  le_start : ∀ offset, move offset ≤ move reference.start ↔ offset ≤ reference.start
  stop_le : ∀ offset, move reference.stop ≤ move offset ↔ reference.stop ≤ offset

section Alike

variable (file other : SourceFile) (move : Nat → Nat)

def Likens (first second : Cursor) : Prop :=
  Node.alike file other move first.node second.node = true

variable {file other move}

theorem Likens.showsAs {first second : Cursor} (likens : Likens file other move first second) :
    Node.ShowsAs file other move first.node second.node :=
  (Node.alike_iff.mp likens).1

theorem faces_of_frames {first second : Cursor}
    (frames : Node.Frames file other move first.node second.node) :
    Faces (Likens file other move) first second := by
  refine ⟨frames.1, ?_⟩
  rw [Cursor.children, Cursor.children, List.forall₂_map_left_iff, List.forall₂_map_right_iff]
  exact Node.alikeAll_iff.mp frames.2

theorem mirrors_likens : Mirrors (Likens file other move) where
  kind _ _ likens := likens.showsAs.kind
  field _ _ likens := likens.showsAs.field
  named _ _ likens := likens.showsAs.named
  below _ _ likens holds :=
    (faces_of_frames ⟨likens.showsAs.kind, (Node.alike_iff.mp likens).2 holds⟩).children

theorem Likens.text {first second : Cursor} (likens : Likens file other move first second)
    (isName : first.isName = true) : other.text second = file.text first := by
  refine likens.showsAs.text ?_
  obtain ⟨node, above⟩ := first
  rcases Bool.or_eq_true_iff.mp isName with identifier | declares
  · exact Bool.or_eq_true_iff.mpr (Or.inl identifier)
  · cases above with
    | nil => exact absurd declares (by simp)
    | cons parent _ => exact Bool.or_eq_true_iff.mpr (Or.inr (Bool.and_eq_true_iff.mp declares).1)

theorem forall₂_ancestors {above twinAbove : List Node}
    (around : List.Forall₂ (Node.Frames file other move) above twinAbove) :
    List.Forall₂ (Faces (Likens file other move)) (ancestorsFrom above)
      (ancestorsFrom twinAbove) := by
  induction around with
  | nil => exact .nil
  | cons frames _ ih => exact .cons (faces_of_frames frames) ih

end Alike

namespace AlikeAround

variable {file other : SourceFile} {move : Nat → Nat} {reference twin : Cursor}
  (alike : AlikeAround file other move reference twin)

include alike

theorem aligned : Aligned (Likens file other move) reference twin where
  toMirrors := mirrors_likens
  start_lt first second likens := by
    have start : second.start = move first.start := congrArg Span.start likens.showsAs.span
    have twinStart : twin.start = move reference.start := congrArg Span.start alike.span
    rw [start, twinStart]
    exact alike.start_lt first.start
  stop_le first second likens := by
    have stop : second.stop = move first.stop := congrArg Span.stop likens.showsAs.span
    have twinStart : twin.start = move reference.start := congrArg Span.start alike.span
    rw [stop, twinStart]
    exact alike.le_start first.stop
  contains first second likens := by
    have span : second.span = ⟨move first.start, move first.stop⟩ := likens.showsAs.span
    rw [Bool.eq_iff_iff, Span.contains_iff, Span.contains_iff, span, alike.span]
    exact and_congr (alike.le_start first.start) (alike.stop_le first.stop)

theorem rel_binder : Option.Rel (Likens file other move) (binder file reference)
    (binder other twin) :=
  alike.aligned.binder (fun _ _ => Likens.text) alike.text (forall₂_ancestors alike.around)

theorem rel_resolve : Option.Rel
    (fun found moved => moved.name = found.name ∧
      moved.span = ⟨move found.span.start, move found.span.stop⟩)
    (resolve file reference) (resolve other twin) := by
  have names := alike.rel_binder
  unfold resolve
  generalize bound : binder file reference = name, twinBound : binder other twin = twinName at names ⊢
  cases names with
  | none => exact .none
  | some likens =>
    refine .some ⟨?_, ?_⟩
    · rw [ofName_name, ofName_name, text_of_binder bound, text_of_binder twinBound, alike.text]
    · rw [ofName_span, ofName_span]
      exact likens.showsAs.span

end AlikeAround

/-- Resolution is innermost visible scoping, and what is declared in the scopes beside a reference does
not bear upon it. -/
theorem resolve_innermost_visible {file : SourceFile} (wellFormed : file.WellFormed)
    {reference : Cursor} (refers : reference ∈ file.root.references) :
    (∀ declaration, resolve file reference = some declaration ↔
      ∃ scope name, Binds file reference scope name ∧ Declaration.ofName file name = declaration) ∧
    (resolve file reference = none ↔ ∀ scope ∈ reference.ancestors,
      ∀ name, Visible scope reference name → file.text name ≠ file.text reference) ∧
    (∀ declaration, resolve file reference = some declaration →
      declaration.name = file.text reference) ∧
    ∀ other move twin, AlikeAround file other move reference twin → Option.Rel
      (fun found moved => moved.name = found.name ∧
        moved.span = ⟨move found.span.start, move found.span.stop⟩)
      (resolve file reference) (resolve other twin) := by
  have placed := (mem_references.mp refers).1
  refine ⟨fun declaration => ?_, ?_, fun declaration resolved => ?_,
    fun _ _ _ alike => alike.rel_resolve⟩
  · rw [resolve, Option.map_eq_some_iff]
    constructor
    · rintro ⟨name, bound, same⟩
      obtain ⟨scope, binds⟩ := (binder_eq_some_iff_binds wellFormed placed).mp bound
      exact ⟨scope, name, binds, same⟩
    · rintro ⟨scope, name, binds, same⟩
      exact ⟨name, (binder_eq_some_iff_binds wellFormed placed).mpr ⟨scope, binds⟩, same⟩
  · rw [resolve, Option.map_eq_none_iff]
    exact binder_eq_none_iff wellFormed placed
  · obtain ⟨name, bound, rfl⟩ := Option.map_eq_some_iff.mp resolved
    rw [ofName_name, text_of_binder bound]

def behindBlock (text : String) (statements : List Node) : SourceFile where
  path := ⟨"", ["A.java"]⟩
  source := Utf8.ofString ("class A\x7bint x;void f()\x7b\x7b" ++ text ++ "\x7dx++;\x7d\x7d")
  tree :=
    let stop := 25 + text.length
    .mk (.other "program") none ⟨0, stop + 6⟩ true false [
      .mk .classDeclaration none ⟨0, stop + 6⟩ true false [
        .mk .identifier (some .name) ⟨6, 7⟩ true false [],
        .mk .classBody (some .body) ⟨7, stop + 6⟩ true false [
          .mk .fieldDeclaration none ⟨8, 14⟩ true false [
            .mk (.other "integral_type") (some .typ) ⟨8, 11⟩ true false [],
            .mk .variableDeclarator (some .declarator) ⟨12, 13⟩ true false [
              .mk .identifier (some .name) ⟨12, 13⟩ true false []]],
          .mk .methodDeclaration none ⟨14, stop + 5⟩ true false [
            .mk (.other "void_type") (some .typ) ⟨14, 18⟩ true false [],
            .mk .identifier (some .name) ⟨19, 20⟩ true false [],
            .mk .formalParameters (some .parameters) ⟨20, 22⟩ true false [],
            .mk .block (some .body) ⟨22, stop + 5⟩ true false [
              .mk .block none ⟨23, stop⟩ true false statements,
              .mk (.other "expression_statement") none ⟨stop, stop + 4⟩ true false [
                .mk (.other "update_expression") none ⟨stop, stop + 3⟩ true false [
                  .mk .identifier none ⟨stop, stop + 1⟩ true false []]]]]]]]

def behindDeclaration : SourceFile :=
  behindBlock "int x;" [
    .mk .localVariableDeclaration none ⟨24, 30⟩ true false [
      .mk (.other "integral_type") (some .typ) ⟨24, 27⟩ true false [],
      .mk .variableDeclarator (some .declarator) ⟨28, 29⟩ true false [
        .mk .identifier (some .name) ⟨28, 29⟩ true false []]]]

theorem behindDeclaration_wellFormed : behindDeclaration.WellFormed where
  inBounds := by decide
  forward := by decide
  nested := by decide
  ordered := by decide
  leaf := by decide

def emptying (offset : Nat) : Nat :=
  if offset ≤ 24 then offset else offset - 6

theorem behindDeclaration_alike :
    ∃ reference ∈ behindDeclaration.root.references, ∃ twin ∈ (behindBlock "" []).root.references,
      AlikeAround behindDeclaration (behindBlock "" []) emptying reference twin ∧
      (resolve behindDeclaration reference).map Declaration.span = some ⟨12, 13⟩ := by
  have found : ∃ reference ∈ behindDeclaration.root.references,
      ∃ twin ∈ (behindBlock "" []).root.references,
        reference.span = ⟨31, 32⟩ ∧ twin.span = ⟨25, 26⟩ ∧
        (behindBlock "" []).text twin = behindDeclaration.text reference ∧
        List.Forall₂ (Node.Frames behindDeclaration (behindBlock "" []) emptying) reference.above
          twin.above ∧
        (resolve behindDeclaration reference).map Declaration.span = some ⟨12, 13⟩ := by
    decide +kernel
  obtain ⟨reference, refers, twin, twinRefers, span, twinSpan, text, around, resolved⟩ := found
  have start : reference.start = 31 := congrArg Span.start span
  have stop : reference.stop = 32 := congrArg Span.stop span
  refine ⟨reference, refers, twin, twinRefers, ⟨?_, text, around, ?_, ?_, ?_⟩, resolved⟩
  · rw [twinSpan, start, stop]
    rfl
  all_goals
    intro offset
    simp only [start, stop, emptying]
    grind

theorem behindDeclaration_resolves :
    ∃ reference ∈ behindDeclaration.root.references, ∃ twin ∈ (behindBlock "" []).root.references,
      AlikeAround behindDeclaration (behindBlock "" []) emptying reference twin ∧
      (∃ scope name, Binds behindDeclaration reference scope name ∧ name.span = ⟨12, 13⟩) ∧
      (resolve (behindBlock "" []) twin).map Declaration.span = some ⟨12, 13⟩ := by
  obtain ⟨reference, refers, twin, twinRefers, alike, resolved⟩ := behindDeclaration_alike
  obtain ⟨declaration, bound, place⟩ := Option.map_eq_some_iff.mp resolved
  obtain ⟨innermost, _, _, beside⟩ :=
    resolve_innermost_visible behindDeclaration_wellFormed refers
  obtain ⟨scope, name, binds, rfl⟩ := (innermost declaration).mp bound
  have moved := beside (behindBlock "" []) emptying twin alike
  rw [bound] at moved
  refine ⟨reference, refers, twin, twinRefers, alike, ⟨scope, name, binds, ?_⟩, ?_⟩
  · rw [← place, ofName_span]
  · generalize resolve (behindBlock "" []) twin = found at moved ⊢
    cases moved with
    | some same =>
      rw [Option.map_some, same.2, place]
      rfl

end Scope

end Mutant
