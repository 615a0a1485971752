import Mutant.Proofs.Usages

/-!
Names that declare and names that refer. Which identifiers refer to a value is told by a list of
positions in which they do not; which nodes declare one is told by the constructs that declare. In a
tree that follows the grammar no node is both, and whatever declares or refers stands alone: no
other node that does begins where it begins.
-/

namespace Mutant.Scope

open Cursor Candidate

/-- The node declares a variable: a renaming may start from it, or a construct in the tree gives it
as what some text denotes at some reference. -/
inductive Declares (file : SourceFile) : Cursor → Prop where
  | chosen {marker : Bytes} {family : Family} {candidate : Candidate} {name : Cursor} :
      candidate ∈ select file marker family → candidate.name = some name → Declares file name
  | found {scope reference name : Cursor} {text : Bytes} : Reaches file.root scope →
      lookup file scope reference text = some name → Declares file name

def Mentions (file : SourceFile) (cursor : Cursor) : Prop :=
  Declares file cursor ∨ cursor ∈ file.root.references

namespace Declares

variable {file : SourceFile} {name : Cursor} (declares : Declares file name)

include declares

theorem placed : Reaches file.root name := by
  cases declares with
  | chosen chosen named => exact (renames_of_mem_select chosen named).name_placed
  | found placed looked => exact (visible_of_mem (lookup_eq_some looked).1).placed rfl placed

theorem isName : name.isName = true := by
  cases declares with
  | chosen chosen named => exact (renames_of_mem_select chosen named).isName
  | found _ looked => exact (visible_of_mem (lookup_eq_some looked).1).isName

theorem not_isReference (grammar : file.FollowsGrammar) : name.isReference = false := by
  cases declares with
  | chosen chosen named => exact (renames_of_mem_select chosen named).not_isReference grammar
  | found placed looked =>
    exact (visible_of_mem (lookup_eq_some looked).1).not_isReference grammar placed

end Declares

theorem Mentions.placed {file : SourceFile} {cursor : Cursor} (mentions : Mentions file cursor) :
    Reaches file.root cursor :=
  mentions.elim Declares.placed fun refers => (mem_references.mp refers).1

theorem Mentions.isName {file : SourceFile} {cursor : Cursor} (mentions : Mentions file cursor) :
    cursor.isName = true :=
  mentions.elim Declares.isName fun refers => isName_of_isReference (mem_references.mp refers).2

/-- What declares a variable does not refer to one, and of two nodes that declare or refer one ends
before the other begins. -/
theorem declares_apart_from_references {file : SourceFile} (wellFormed : file.WellFormed)
    (grammar : file.FollowsGrammar) :
    (∀ name, Declares file name → name.isReference = false) ∧
    ∀ first second, Mentions file first → Mentions file second → first ≠ second →
      first.start ≠ second.start ∧ (first.stop ≤ second.start ∨ second.stop ≤ first.start) := by
  refine ⟨fun name declares => declares.not_isReference grammar, ?_⟩
  intro first second one other different
  refine ⟨fun same => different ?_, ?_⟩
  · exact wellFormed.eq_of_start_eq one.isName other.isName one.placed other.placed same
  · exact (wellFormed.names_apart one.isName other.isName one.placed other.placed).resolve_left
      different

def lending : SourceFile where
  path := ⟨"", ["A.java"]⟩
  source := Utf8.ofString "class A\x7bvoid f(R r)\x7btry(R q=r)\x7bg(x->x);\x7d\x7d\x7d"
  tree := .mk (.other "program") none ⟨0, 42⟩ true false [
    .mk .classDeclaration none ⟨0, 42⟩ true false [
      .mk .identifier (some .name) ⟨6, 7⟩ true false [],
      .mk .classBody (some .body) ⟨7, 42⟩ true false [
        .mk .methodDeclaration none ⟨8, 41⟩ true false [
          .mk (.other "void_type") (some .typ) ⟨8, 12⟩ true false [],
          .mk .identifier (some .name) ⟨13, 14⟩ true false [],
          .mk .formalParameters (some .parameters) ⟨14, 19⟩ true false [
            .mk .formalParameter none ⟨15, 18⟩ true false [
              .mk (.other "type_identifier") (some .typ) ⟨15, 16⟩ true false [],
              .mk .identifier (some .name) ⟨17, 18⟩ true false []]],
          .mk .block (some .body) ⟨19, 41⟩ true false [
            .mk .tryWithResourcesStatement none ⟨20, 40⟩ true false [
              .mk (.other "resource_specification") (some .resources) ⟨23, 30⟩ true false [
                .mk .resource none ⟨24, 29⟩ true false [
                  .mk (.other "type_identifier") (some .typ) ⟨24, 25⟩ true false [],
                  .mk .identifier (some .name) ⟨26, 27⟩ true false [],
                  .mk .identifier (some (.other "value")) ⟨28, 29⟩ true false []]],
              .mk .block (some .body) ⟨30, 40⟩ true false [
                .mk (.other "expression_statement") none ⟨31, 39⟩ true false [
                  .mk .methodInvocation none ⟨31, 38⟩ true false [
                    .mk .identifier (some .name) ⟨31, 32⟩ true false [],
                    .mk (.other "argument_list") (some (.other "arguments")) ⟨32, 38⟩ true false [
                      .mk .lambdaExpression none ⟨33, 37⟩ true false [
                        .mk .identifier (some .parameters) ⟨33, 34⟩ true false [],
                        .mk .identifier (some .body) ⟨36, 37⟩ true false []]]]]]]]]]]]

theorem lending_wellFormed : lending.WellFormed where
  inBounds := by decide
  forward := by decide
  nested := by decide
  ordered := by decide
  leaf := by decide

theorem lending_followsGrammar : lending.FollowsGrammar where
  declarators := by decide
  parameters := by decide

theorem lending_apart :
    ∃ reference ∈ lending.root.references, ∃ name, Declares lending name ∧
      lending.text name = lending.text reference ∧ name.kind = .identifier ∧
      name.isReference = false ∧
      (name.stop ≤ reference.start ∨ reference.stop ≤ name.start) := by
  have found : ∃ reference ∈ lending.root.references, ∃ scope ∈ lending.root.walk,
      scope.kind = .lambdaExpression ∧
      ∃ name ∈ lookup lending scope reference (lending.text reference),
        name.kind = .identifier ∧ name.start ≠ reference.start := by
    decide +kernel
  obtain ⟨reference, refers, scope, walked, _, name, looked, kind, different⟩ := found
  have declares : Declares lending name := .found (mem_walk.mp walked) looked
  obtain ⟨noReference, apart⟩ :=
    declares_apart_from_references lending_wellFormed lending_followsGrammar
  refine ⟨reference, refers, name, declares, (lookup_eq_some looked).2, kind,
    noReference name declares, ?_⟩
  refine (apart name reference (Or.inl declares) (Or.inr refers) ?_).2
  rintro rfl
  exact different rfl

end Mutant.Scope
