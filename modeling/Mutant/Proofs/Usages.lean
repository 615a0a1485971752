import Mutant.Rename
import Mutant.Proofs.Candidates

/-!
The usages that a renaming takes. Each is a reference with the old name. The first tier takes those
that denote the declaration and misses none that resolves to it; only where nothing in the scope
denotes the declaration does the second tier take the references of the scope by their name.
-/

namespace Mutant

namespace Cursor

theorem mem_references {top reference : Cursor} :
    reference ∈ top.references ↔ Reaches top reference ∧ reference.isReference = true := by
  rw [references, List.mem_filter, mem_walk]

theorem isName_of_isReference {reference : Cursor} (refers : reference.isReference = true) :
    reference.isName = true := by
  unfold isReference at refers
  rw [Bool.and_eq_true] at refers
  rw [isName, refers.1, Bool.true_or]

end Cursor

namespace Rename

open Cursor Scope Candidate

theorem mem_of_mem_distinctStarts {seen : List Nat} {cursors : List Cursor} {cursor : Cursor}
    (member : cursor ∈ distinctStarts seen cursors) :
    cursor ∈ cursors ∧ cursor.start ∉ seen := by
  induction cursors generalizing seen with
  | nil => exact absurd member List.not_mem_nil
  | cons first rest ih =>
    rw [distinctStarts] at member
    split at member
    next => exact ⟨List.mem_cons_of_mem _ (ih member).1, (ih member).2⟩
    next fresh =>
      rcases List.mem_cons.mp member with rfl | later
      · exact ⟨List.mem_cons_self, by simpa using fresh⟩
      · obtain ⟨inRest, unseen⟩ := ih later
        exact ⟨List.mem_cons_of_mem _ inRest, fun old => unseen (List.mem_cons_of_mem _ old)⟩

theorem mem_distinctStarts {seen : List Nat} {cursors : List Cursor} {cursor : Cursor}
    (alone : ∀ other ∈ cursors, other.start = cursor.start → other = cursor)
    (member : cursor ∈ cursors) (unseen : cursor.start ∉ seen) :
    cursor ∈ distinctStarts seen cursors := by
  induction cursors generalizing seen with
  | nil => exact absurd member List.not_mem_nil
  | cons first rest ih =>
    have restAlone : ∀ other ∈ rest, other.start = cursor.start → other = cursor :=
      fun other inRest => alone other (List.mem_cons_of_mem _ inRest)
    rw [distinctStarts]
    by_cases same : first.start = cursor.start
    · have isFirst := alone first List.mem_cons_self same
      subst isFirst
      simp [unseen]
    · have inRest : cursor ∈ rest := by
        rcases List.mem_cons.mp member with rfl | inRest
        · exact absurd rfl same
        · exact inRest
      split
      next => exact ih restAlone inRest unseen
      next =>
        refine List.mem_cons_of_mem _ (ih restAlone inRest ?_)
        rw [List.mem_cons, not_or]
        exact ⟨fun equal => same equal.symm, unseen⟩

theorem distinctStarts_pairwise (seen : List Nat) (cursors : List Cursor) :
    (distinctStarts seen cursors).Pairwise fun first second => first.start ≠ second.start := by
  induction cursors generalizing seen with
  | nil => exact .nil
  | cons first rest ih =>
    rw [distinctStarts]
    split
    · exact ih seen
    · refine .cons (fun other member equal => ?_) (ih (first.start :: seen))
      exact (mem_of_mem_distinctStarts member).2 (equal ▸ List.mem_cons_self)

theorem distinctStarts_nil_eq_nil_iff {cursors : List Cursor} :
    distinctStarts [] cursors = [] ↔ cursors = [] := by
  cases cursors with
  | nil => simp [distinctStarts]
  | cons first rest => simp [distinctStarts]

/-- The resolution binds the reference to the declaration itself, or, where that is a parameter, to a
parameter with the name and the type of it. -/
def Denotes (file : SourceFile) (target : Declaration) (reference : Cursor) : Prop :=
  ∃ found, resolve file reference = some found ∧
    (found = target ∨ target.role = .parameter ∧ found.role = .parameter ∧
      found.name = target.name ∧ found.descriptor = target.descriptor)

theorem denotes_iff {file : SourceFile} {target : Declaration} {reference : Cursor} :
    denotes file target reference = true ↔ Denotes file target reference := by
  unfold denotes Denotes sameSymbol
  cases resolve file reference with
  | none => simp
  | some found => simp [and_assoc]

theorem ofName_name (file : SourceFile) (name : Cursor) :
    (Declaration.ofName file name).name = file.text name := by
  unfold Declaration.ofName
  split <;> rfl

theorem ofName_span (file : SourceFile) (name : Cursor) :
    (Declaration.ofName file name).span = name.span := by
  unfold Declaration.ofName
  split <;> rfl

theorem text_of_binder {file : SourceFile} {reference name : Cursor}
    (bound : binder file reference = some name) : file.text name = file.text reference := by
  obtain ⟨_, _, _, _, found, _⟩ := binder_eq_some_iff.mp bound
  exact (lookup_eq_some found).2

theorem text_of_denotes {file : SourceFile} {target : Declaration} {reference : Cursor}
    (denoted : Denotes file target reference) : file.text reference = target.name := by
  obtain ⟨found, resolved, same⟩ := denoted
  obtain ⟨name, bound, rfl⟩ := Option.map_eq_some_iff.mp resolved
  have text : file.text reference = (Declaration.ofName file name).name := by
    rw [ofName_name, text_of_binder bound]
  rcases same with rfl | ⟨_, _, alike, _⟩
  · exact text
  · exact text.trans alike

def denoting (file : SourceFile) (scope : Cursor) (target : Declaration) : List Cursor :=
  (file.root.references.filter (isNamed file target.name)).filter fun reference =>
    scope.span.contains reference.span && denotes file target reference

theorem identityUsages_eq (file : SourceFile) (scope : Cursor) (target : Declaration) :
    identityUsages file scope target = distinctStarts [] (denoting file scope target) :=
  rfl

theorem mem_denoting {file : SourceFile} {scope reference : Cursor} {target : Declaration} :
    reference ∈ denoting file scope target ↔
      reference ∈ file.root.references ∧ scope.span.contains reference.span = true ∧
        Denotes file target reference := by
  rw [denoting, List.mem_filter, List.mem_filter, Bool.and_eq_true, denotes_iff]
  constructor
  · rintro ⟨⟨refers, _⟩, inside⟩
    exact ⟨refers, inside⟩
  · rintro ⟨refers, inside, denoted⟩
    exact ⟨⟨refers, by simp [isNamed, text_of_denotes denoted]⟩, inside, denoted⟩

theorem mem_identityUsages {file : SourceFile} (wellFormed : file.WellFormed)
    {scope reference : Cursor} {target : Declaration} :
    reference ∈ identityUsages file scope target ↔ reference ∈ denoting file scope target := by
  rw [identityUsages_eq]
  constructor
  · exact fun used => (mem_of_mem_distinctStarts used).1
  · intro denoted
    refine mem_distinctStarts (fun other member => ?_) denoted List.not_mem_nil
    obtain ⟨placed, refers⟩ := mem_references.mp (mem_denoting.mp denoted).1
    obtain ⟨otherPlaced, otherRefers⟩ := mem_references.mp (mem_denoting.mp member).1
    exact wellFormed.eq_of_start_eq (isName_of_isReference otherRefers)
      (isName_of_isReference refers) otherPlaced placed

theorem mem_of_mem_lexicalUsages {file : SourceFile} {scope reference : Cursor} {name : Bytes}
    (used : reference ∈ lexicalUsages file scope name) :
    reference ∈ scope.references ∧ file.text reference = name := by
  obtain ⟨refers, named⟩ := List.mem_filter.mp (mem_of_mem_distinctStarts used).1
  exact ⟨refers, by simpa [isNamed] using named⟩

/-- The two tiers with the resolution switched on. -/
theorem usages_cases (file : SourceFile) (scope : Cursor) (target : Declaration) :
    (denoting file scope target ≠ [] ∧
      usages file true scope target = (identityUsages file scope target, .identity)) ∨
    (denoting file scope target = [] ∧
      usages file true scope target = (lexicalUsages file scope target.name, .lexical)) := by
  by_cases none : denoting file scope target = []
  · exact Or.inr ⟨none, by simp [usages, identityUsages_eq, none, distinctStarts]⟩
  · have found : identityUsages file scope target ≠ [] := by
      rwa [identityUsages_eq, ne_eq, distinctStarts_nil_eq_nil_iff]
    exact Or.inl ⟨none, by simp [usages, found]⟩

theorem mem_plan_edits_tail {file : SourceFile} {resolution : Bool} {scope name : Cursor}
    {newName : Bytes} {edit : Edit} :
    edit ∈ (plan file resolution scope name newName).edits.tail ↔
      ∃ usage ∈ (usages file resolution scope (Declaration.ofName file name)).1,
        Edit.replace usage.span newName = edit :=
  List.mem_map

theorem role_of_localVariable {file : SourceFile} {scope name : Cursor}
    (renames : Renames file .localVariable scope name) :
    (Declaration.ofName file name).role = .localVariable := by
  cases renames with
  | localVariable _ declaration declarator =>
    simp [Declaration.ofName, Declaration.ofParent, Declaration.ofHolder, declaration, declarator]

theorem binder_placed {file : SourceFile} {reference name : Cursor}
    (placed : Reaches file.root reference) (bound : binder file reference = some name) :
    Reaches file.root name ∧ name.isName = true := by
  obtain ⟨_, _, _, _, _, homePlaced, _, visible⟩ := binder_home placed bound
  exact ⟨visible.placed rfl homePlaced, visible.isName⟩

theorem resolve_eq_some_iff {file : SourceFile} (wellFormed : file.WellFormed)
    {reference name : Cursor} (placed : Reaches file.root reference)
    (namePlaced : Reaches file.root name) (isName : name.isName = true) :
    resolve file reference = some (Declaration.ofName file name) ↔
      binder file reference = some name := by
  constructor
  · intro resolved
    obtain ⟨found, bound, same⟩ := Option.map_eq_some_iff.mp resolved
    obtain ⟨foundPlaced, foundIsName⟩ := binder_placed placed bound
    have spans : found.span = name.span := by
      rw [← ofName_span file found, same, ofName_span]
    rw [bound, wellFormed.eq_of_start_eq foundIsName isName foundPlaced namePlaced
      (congrArg Span.start spans)]
  · intro bound
    rw [resolve, bound, Option.map_some]

/-- What the resolution binds to the name of a candidate is taken by the first tier. -/
theorem mem_denoting_of_binder {file : SourceFile} (wellFormed : file.WellFormed) {family : Family}
    {scope name reference : Cursor} (renames : Renames file family scope name)
    (refers : reference ∈ file.root.references) (bound : binder file reference = some name) :
    reference ∈ denoting file scope (Declaration.ofName file name) := by
  refine mem_denoting.mpr ⟨refers, ?_, Declaration.ofName file name, ?_, Or.inl rfl⟩
  · exact renames.contains_of_binder wellFormed (mem_references.mp refers).1 bound
  · rw [resolve, bound, Option.map_some]

theorem usages_eq_tier (file : SourceFile) (resolution : Bool) (scope : Cursor)
    (target : Declaration) :
    (usages file resolution scope target).1 = identityUsages file scope target ∨
      (usages file resolution scope target).1 = lexicalUsages file scope target.name := by
  cases resolution with
  | false => exact Or.inr rfl
  | true =>
    rcases usages_cases file scope target with ⟨_, identity⟩ | ⟨_, lexical⟩
    · exact Or.inl (congrArg Prod.fst identity)
    · exact Or.inr (congrArg Prod.fst lexical)

theorem text_of_mem_usages {file : SourceFile} {resolution : Bool} {scope usage : Cursor}
    {target : Declaration} (used : usage ∈ (usages file resolution scope target).1) :
    file.text usage = target.name := by
  rcases usages_eq_tier file resolution scope target with identity | lexical
  · rw [identity] at used
    have named := (List.mem_filter.mp (mem_of_mem_distinctStarts used).1).1
    simpa [isNamed] using (List.mem_filter.mp named).2
  · rw [lexical] at used
    exact (mem_of_mem_lexicalUsages used).2

theorem mem_references_of_mem_usages {file : SourceFile} {resolution : Bool} {family : Family}
    {scope name usage : Cursor} (renames : Renames file family scope name)
    (used : usage ∈ (usages file resolution scope (Declaration.ofName file name)).1) :
    usage ∈ file.root.references := by
  rcases usages_eq_tier file resolution scope (Declaration.ofName file name) with
    identity | lexical
  · rw [identity, identityUsages_eq] at used
    exact (mem_denoting.mp (mem_of_mem_distinctStarts used).1).1
  · rw [lexical] at used
    obtain ⟨below, refers⟩ := mem_references.mp (mem_of_mem_lexicalUsages used).1
    exact mem_references.mpr ⟨renames.scope_placed.trans below, refers⟩

theorem contains_of_mem_usages {file : SourceFile} (wellFormed : file.WellFormed)
    {resolution : Bool} {family : Family} {scope name usage : Cursor}
    (renames : Renames file family scope name)
    (used : usage ∈ (usages file resolution scope (Declaration.ofName file name)).1) :
    scope.span.contains usage.span = true := by
  rcases usages_eq_tier file resolution scope (Declaration.ofName file name) with
    identity | lexical
  · rw [identity, identityUsages_eq] at used
    exact (mem_denoting.mp (mem_of_mem_distinctStarts used).1).2.1
  · rw [lexical] at used
    have below := (mem_references.mp (mem_of_mem_lexicalUsages used).1).1
    exact Span.contains_iff.mpr (wellFormed.contains_of_reaches renames.scope_placed below)

theorem usages_pairwise (file : SourceFile) (resolution : Bool) (scope : Cursor)
    (target : Declaration) :
    (usages file resolution scope target).1.Pairwise fun first second =>
      first.start ≠ second.start := by
  rcases usages_eq_tier file resolution scope target with identity | lexical
  · rw [identity]
    exact distinctStarts_pairwise [] _
  · rw [lexical]
    exact distinctStarts_pairwise [] _

/-- No usage is missed: what resolves to the declaration of a candidate lies in the scope of the
candidate and is edited. -/
theorem edits_of_resolve {file : SourceFile} (wellFormed : file.WellFormed) {marker : Bytes}
    {family : Family} {candidate : Candidate} {name : Cursor}
    (chosen : candidate ∈ select file marker family) (named : candidate.name = some name)
    (newName : Bytes) {reference : Cursor} (refers : reference ∈ file.root.references)
    (resolved : resolve file reference = some (Declaration.ofName file name)) :
    candidate.scope.span.contains reference.span = true ∧
      Edit.replace reference.span newName ∈
        (plan file true candidate.scope name newName).edits.tail := by
  have renames := renames_of_mem_select chosen named
  have placed := (mem_references.mp refers).1
  have bound : binder file reference = some name :=
    (resolve_eq_some_iff wellFormed placed renames.name_placed renames.isName).mp resolved
  have denoted := mem_denoting_of_binder wellFormed renames refers bound
  refine ⟨(mem_denoting.mp denoted).2.1, mem_plan_edits_tail.mpr ⟨reference, ?_, rfl⟩⟩
  rcases usages_cases file candidate.scope (Declaration.ofName file name) with
    ⟨_, identity⟩ | ⟨none, _⟩
  · rw [identity]
    exact (mem_identityUsages wellFormed).mpr denoted
  · rw [none] at denoted
    exact absurd denoted List.not_mem_nil

def parameterAt (start : Nat) : Node :=
  .mk .formalParameters (some .parameters) ⟨start, start + 7⟩ true false [
    .mk .formalParameter none ⟨start + 1, start + 6⟩ true false [
      .mk (.other "integral_type") (some .typ) ⟨start + 1, start + 4⟩ true false [],
      .mk .identifier (some .name) ⟨start + 5, start + 6⟩ true false []]]

def shadowing : SourceFile where
  path := ⟨"", ["A.java"]⟩
  source := Utf8.ofString
    "class A{int x;B f(int x){return new B(){int g(int x){return x;}};}void h(){g(x);int x=1;}}"
  tree := .mk (.other "program") none ⟨0, 90⟩ true false [
    .mk .classDeclaration none ⟨0, 90⟩ true false [
      .mk .identifier (some .name) ⟨6, 7⟩ true false [],
      .mk .classBody (some .body) ⟨7, 90⟩ true false [
        .mk .fieldDeclaration none ⟨8, 14⟩ true false [
          .mk (.other "integral_type") (some .typ) ⟨8, 11⟩ true false [],
          .mk .variableDeclarator (some .declarator) ⟨12, 13⟩ true false [
            .mk .identifier (some .name) ⟨12, 13⟩ true false []]],
        .mk .methodDeclaration none ⟨14, 66⟩ true false [
          .mk (.other "type_identifier") (some .typ) ⟨14, 15⟩ true false [],
          .mk .identifier (some .name) ⟨16, 17⟩ true false [],
          parameterAt 17,
          .mk .block (some .body) ⟨24, 66⟩ true false [
            .mk (.other "return_statement") none ⟨25, 65⟩ true false [
              .mk (.other "object_creation_expression") none ⟨32, 64⟩ true false [
                .mk (.other "type_identifier") (some .typ) ⟨36, 37⟩ true false [],
                .mk (.other "argument_list") (some (.other "arguments")) ⟨37, 39⟩ true false [],
                .mk .classBody none ⟨39, 64⟩ true false [
                  .mk .methodDeclaration none ⟨40, 63⟩ true false [
                    .mk (.other "integral_type") (some .typ) ⟨40, 43⟩ true false [],
                    .mk .identifier (some .name) ⟨44, 45⟩ true false [],
                    parameterAt 45,
                    .mk .block (some .body) ⟨52, 63⟩ true false [
                      .mk (.other "return_statement") none ⟨53, 62⟩ true false [
                        .mk .identifier none ⟨60, 61⟩ true false []]]]]]]]],
        .mk .methodDeclaration none ⟨66, 89⟩ true false [
          .mk (.other "void_type") (some .typ) ⟨66, 70⟩ true false [],
          .mk .identifier (some .name) ⟨71, 72⟩ true false [],
          .mk .formalParameters (some .parameters) ⟨72, 74⟩ true false [],
          .mk .block (some .body) ⟨74, 89⟩ true false [
            .mk (.other "expression_statement") none ⟨75, 80⟩ true false [
              .mk .methodInvocation none ⟨75, 79⟩ true false [
                .mk .identifier (some .name) ⟨75, 76⟩ true false [],
                .mk (.other "argument_list") (some (.other "arguments")) ⟨76, 79⟩ true false [
                  .mk .identifier none ⟨77, 78⟩ true false []]]],
            .mk .localVariableDeclaration none ⟨80, 88⟩ true false [
              .mk (.other "integral_type") (some .typ) ⟨80, 83⟩ true false [],
              .mk .variableDeclarator (some .declarator) ⟨84, 87⟩ true false [
                .mk .identifier (some .name) ⟨84, 85⟩ true false [],
                .mk (.other "decimal_integer_literal") (some (.other "value")) ⟨86, 87⟩
                  true false []]]]]]]]

theorem shadowing_wellFormed : shadowing.WellFormed where
  inBounds := by decide
  forward := by decide
  nested := by decide
  ordered := by decide
  leaf := by decide

theorem shadowing_edits :
    ∃ candidate ∈ select shadowing [] .parameter, ∃ name ∈ candidate.name,
      ∃ reference ∈ shadowing.root.references,
        resolve shadowing reference = some (Declaration.ofName shadowing name) ∧
        candidate.scope.span.contains reference.span = true ∧
        Edit.replace reference.span [121] ∈
          (plan shadowing true candidate.scope name [121]).edits.tail := by
  have bound : ∃ candidate ∈ select shadowing [] .parameter, ∃ name ∈ candidate.name,
      ∃ reference ∈ shadowing.root.references,
        resolve shadowing reference = some (Declaration.ofName shadowing name) := by
    decide +kernel
  obtain ⟨candidate, chosen, name, named, reference, refers, resolved⟩ := bound
  exact ⟨candidate, chosen, name, named, reference, refers, resolved,
    edits_of_resolve shadowing_wellFormed chosen named [121] refers resolved⟩

/-- Which usages a renaming edits, by the tier that finds them. -/
theorem usages_by_strategy {file : SourceFile} {marker : Bytes} {family : Family}
    {candidate : Candidate} {name : Cursor} (chosen : candidate ∈ select file marker family)
    (named : candidate.name = some name) (newName : Bytes) :
    let target := Declaration.ofName file name
    let plan := plan file true candidate.scope name newName
    (plan.strategy = .identity ↔
      ∃ reference ∈ file.root.references, candidate.scope.span.contains reference.span = true ∧
        Denotes file target reference) ∧
    ∀ edit ∈ plan.edits.tail, ∃ reference ∈ file.root.references,
      edit = Edit.replace reference.span newName ∧ file.text reference = file.text name ∧
      (plan.strategy = .identity → candidate.scope.span.contains reference.span = true ∧
        Denotes file target reference ∧
        (family = .localVariable → resolve file reference = some target)) ∧
      (plan.strategy = .lexical → reference ∈ candidate.scope.references) := by
  intro target plan
  have renames := renames_of_mem_select chosen named
  have strategy : plan.strategy = (usages file true candidate.scope target).2 := rfl
  rcases usages_cases file candidate.scope target with ⟨nonempty, identity⟩ | ⟨none, lexical⟩
  · rw [strategy, identity]
    obtain ⟨first, firstIn⟩ := List.exists_mem_of_ne_nil _ nonempty
    refine ⟨iff_of_true rfl ⟨first, mem_denoting.mp firstIn⟩, fun edit edited => ?_⟩
    obtain ⟨reference, used, rfl⟩ := mem_plan_edits_tail.mp edited
    rw [identity, identityUsages_eq] at used
    obtain ⟨refers, inside, denoted⟩ := mem_denoting.mp (mem_of_mem_distinctStarts used).1
    refine ⟨reference, refers, rfl, ?_, fun _ => ⟨inside, denoted, ?_⟩,
      Strategy.noConfusion⟩
    · rw [text_of_denotes denoted, ofName_name]
    · rintro rfl
      obtain ⟨found, resolved, rfl | ⟨role, _⟩⟩ := denoted
      · exact resolved
      · rw [role_of_localVariable renames] at role
        exact absurd role (by decide)
  · rw [strategy, lexical]
    refine ⟨iff_of_false Strategy.noConfusion ?_, fun edit edited => ?_⟩
    · rintro ⟨reference, denoted⟩
      have member := mem_denoting.mpr denoted
      rw [none] at member
      exact absurd member List.not_mem_nil
    · obtain ⟨reference, used, rfl⟩ := mem_plan_edits_tail.mp edited
      have refers := mem_references_of_mem_usages renames used
      rw [lexical] at used
      obtain ⟨below, text⟩ := mem_of_mem_lexicalUsages used
      exact ⟨reference, refers, rfl, text.trans (ofName_name file name), Strategy.noConfusion,
        fun _ => below⟩

theorem shadowing_usages_by_strategy :
    ∃ candidate ∈ select shadowing [] .localVariable, ∃ name ∈ candidate.name,
      (plan shadowing true candidate.scope name [121]).strategy = .lexical ∧
      ∀ edit ∈ (plan shadowing true candidate.scope name [121]).edits.tail,
        ∃ reference ∈ candidate.scope.references, edit = Edit.replace reference.span [121] := by
  have lexical : ∃ candidate ∈ select shadowing [] .localVariable, ∃ name ∈ candidate.name,
      (plan shadowing true candidate.scope name [121]).strategy = .lexical := by
    decide +kernel
  obtain ⟨candidate, chosen, name, named, strategy⟩ := lexical
  refine ⟨candidate, chosen, name, named, strategy, fun edit edited => ?_⟩
  obtain ⟨reference, _, same, _, _, below⟩ :=
    (usages_by_strategy chosen named [121]).2 edit edited
  exact ⟨reference, below strategy, same⟩

/-- Some renaming of the family edits a reference that does not resolve to the renamed declaration. -/
def EditsForeign (file : SourceFile) (family : Family) : Prop :=
  ∃ candidate ∈ select file [] family, ∃ name ∈ candidate.name,
    ∃ reference ∈ file.root.references,
      resolve file reference ≠ some (Declaration.ofName file name) ∧
      Edit.replace reference.span [121] ∈ (plan file true candidate.scope name [121]).edits.tail

theorem shadowing_editsForeign :
    EditsForeign shadowing .localVariable ∧ EditsForeign shadowing .parameter := by
  unfold EditsForeign
  decide +kernel

end Rename

end Mutant
