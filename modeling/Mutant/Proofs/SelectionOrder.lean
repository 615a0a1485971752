import Mutant.Proofs.DeclaringNames
import Mutant.Proofs.DocumentOrder
import Mutant.Proofs.Places

/-!
What is selected, and in which order. Each family of candidates takes every node of one description,
once, and names that carry the marker are passed over. Declarators and statements come in the order
of the document. The names of parameters are collected owner by owner, so that theirs is the order
of the document where whatever owns parameters inside of an owner stands behind the parameters of
it.
-/

namespace Mutant

open Cursor Scope Candidate

def Cursor.TakesParameters (cursor : Cursor) : Prop :=
  cursor.kind.isCallable = true ∨ cursor.kind = .lambdaExpression

instance (cursor : Cursor) : Decidable cursor.TakesParameters :=
  inferInstanceAs (Decidable (_ ∨ _))

/-- Bodies follow the lists of parameters, and callables and lambdas inside of others are in the
bodies of these. -/
structure SourceFile.BodiesLast (file : SourceFile) : Prop where
  follows : ∀ owner ∈ file.root.walk, owner.TakesParameters →
    ∀ list ∈ owner.childAt .parameters, ∀ body ∈ owner.childAt .body, list.stop ≤ body.start
  nested : ∀ inner ∈ file.root.walk, inner.TakesParameters →
    ∀ owner ∈ inner.ancestors, owner.TakesParameters →
      ∀ body ∈ owner.childAt .body, body.span.contains inner.span = true

theorem Scope.reaches_of_mem_parameterNames {list name : Cursor}
    (declared : name ∈ list.parameterNames) : Reaches list name := by
  unfold parameterNames at declared
  split at declared
  · rw [List.mem_singleton.mp declared]
    exact .here
  · exact reaches_of_mem_namedChildren (List.mem_filter.mp declared).1
  · obtain ⟨parameter, member, named⟩ := List.mem_filterMap.mp declared
    exact (reaches_of_mem_namedChildren member).trans (reaches_of_parameterName named)

theorem Scope.exists_list_of_mem_declaredParameters {owner name : Cursor}
    (declared : name ∈ owner.declaredParameters) :
    ∃ list, owner.childAt .parameters = some list ∧ Reaches list name := by
  unfold declaredParameters at declared
  cases found : owner.childAt .parameters with
  | none => simp [found] at declared
  | some list =>
    rw [found, Option.map_some, Option.getD_some] at declared
    exact ⟨list, rfl, reaches_of_mem_parameterNames declared⟩

namespace Candidate

def Unmarked (file : SourceFile) (marker : Bytes) (name : Cursor) : Prop :=
  ¬effectiveMarker marker <:+ file.text name

/-- A declarator of local variables that stands in a block. -/
structure LocalDeclarator (file : SourceFile) (marker : Bytes) (cursor : Cursor) : Prop where
  kind : cursor.kind = .variableDeclarator
  declaration : ∃ statement, cursor.parent = some statement ∧
    statement.kind = .localVariableDeclaration
  inBlock : ∃ block ∈ cursor.ancestors, block.kind.isBlock = true
  unmarked : ∃ name, cursor.childAt .name = some name ∧ Unmarked file marker name

structure BodiedParameter (file : SourceFile) (marker : Bytes) (name : Cursor) : Prop where
  owned : ∃ owner ∈ file.root.walk, owner.TakesParameters ∧
    (∃ body, owner.childAt .body = some body) ∧ name ∈ owner.declaredParameters
  unmarked : Unmarked file marker name

variable {file : SourceFile} {marker : Bytes}

theorem isMarked_eq_false_iff {name : Cursor} :
    isMarked file marker name = false ↔ Unmarked file marker name := by
  rw [Unmarked, ← List.isSuffixOf_iff_suffix, isMarked, Bool.not_eq_true]

theorem exists_enclosing_iff {cursor : Cursor} :
    (∃ block, cursor.enclosing Kind.blocks = some block) ↔
      ∃ block ∈ cursor.ancestors, block.kind.isBlock = true := by
  rw [← Option.isSome_iff_exists, enclosing, List.find?_isSome]
  rfl

theorem element_of_localVariable? {cursor : Cursor} {candidate : Candidate}
    (found : localVariable? file marker cursor = some candidate) : candidate.element = cursor := by
  unfold localVariable? at found
  split at found
  next =>
    split at found
    next =>
      split at found
      next => exact absurd found (by simp)
      next => rw [← Option.some_inj.mp found]
    next => exact absurd found (by simp)
  next => exact absurd found (by simp)

theorem isSome_localVariable?_iff {cursor : Cursor} :
    (localVariable? file marker cursor).isSome = true ↔ LocalDeclarator file marker cursor := by
  constructor
  · intro found
    unfold localVariable? at found
    split at found
    next declares =>
      simp only [Bool.and_eq_true, beq_iff_eq] at declares
      split at found
      next block name enclosing nameFound =>
        split at found
        next => exact absurd found (by simp)
        next unmarked =>
          refine ⟨declares.1, ?_, exists_enclosing_iff.mp ⟨block, enclosing⟩, name, nameFound, ?_⟩
          · cases parent : cursor.parent with
            | none => simp [parent] at declares
            | some statement => exact ⟨statement, rfl, by simpa [parent] using declares.2⟩
          · exact isMarked_eq_false_iff.mp (by simpa using unmarked)
      next => exact absurd found (by simp)
    next => exact absurd found (by simp)
  · rintro ⟨kind, ⟨statement, parent, declaration⟩, inBlock, name, nameFound, unmarked⟩
    obtain ⟨block, enclosing⟩ := exists_enclosing_iff.mpr inBlock
    simp [localVariable?, kind, parent, declaration, enclosing, nameFound,
      isMarked_eq_false_iff.mpr unmarked]

theorem map_element_localVariables :
    (localVariables file marker).map element =
      file.root.walk.filter fun cursor => (localVariable? file marker cursor).isSome := by
  have kept : (fun cursor => (localVariable? file marker cursor).map element) =
      Option.guard fun cursor => (localVariable? file marker cursor).isSome := by
    funext cursor
    cases found : localVariable? file marker cursor with
    | none => simp [Option.guard, found]
    | some candidate => simp [Option.guard, found, element_of_localVariable? found]
  rw [localVariables, List.map_filterMap, kept, List.filterMap_eq_filter]

theorem localVariables_inOrder :
    ListsInOrder file.root (LocalDeclarator file marker)
      ((select file marker .localVariable).map element) := by
  rw [select, map_element_localVariables]
  exact .of_filter fun cursor _ => isSome_localVariable?_iff

theorem conditionals_inOrder :
    ListsInOrder file.root (fun cursor => cursor.kind = .ifStatement)
      ((select file marker .conditional).map element) := by
  have same : (conditionals file).map element =
      file.root.walk.filter fun cursor => cursor.kind == .ifStatement := by
    rw [conditionals, List.map_map]
    exact List.map_id _
  rw [select, same]
  exact .of_filter fun cursor _ => beq_iff_eq

def namesOf (file : SourceFile) (marker : Bytes) (owner : Cursor) : List Cursor :=
  (parametersOf file marker owner).filterMap name

theorem namesOf_of_body {owner body : Cursor} (takes : owner.TakesParameters)
    (found : owner.childAt .body = some body) :
    namesOf file marker owner =
      owner.declaredParameters.filter fun name => !isMarked file marker name := by
  have kind : (owner.kind.isCallable || owner.kind == .lambdaExpression) = true := by
    simpa [TakesParameters] using takes
  simp only [namesOf, parametersOf, kind, found, if_true, List.filterMap_map]
  exact List.filterMap_some

theorem mem_namesOf {owner name : Cursor} :
    name ∈ namesOf file marker owner ↔ (owner.TakesParameters ∧
      (∃ body, owner.childAt .body = some body) ∧ name ∈ owner.declaredParameters) ∧
      Unmarked file marker name := by
  constructor
  · intro member
    obtain ⟨candidate, found, -⟩ := List.mem_filterMap.mp member
    have takes : owner.TakesParameters := (mem_parametersOf found).1
    cases bodyFound : owner.childAt .body with
    | none => simp [parametersOf, bodyFound] at found
    | some body =>
      rw [namesOf_of_body takes bodyFound, List.mem_filter, Bool.not_eq_true',
        isMarked_eq_false_iff] at member
      exact ⟨⟨takes, ⟨body, rfl⟩, member.1⟩, member.2⟩
  · rintro ⟨⟨takes, ⟨body, bodyFound⟩, declared⟩, unmarked⟩
    rw [namesOf_of_body takes bodyFound, List.mem_filter, Bool.not_eq_true', isMarked_eq_false_iff]
    exact ⟨declared, unmarked⟩

theorem namesOf_sublist (owner : Cursor) :
    (namesOf file marker owner).Sublist owner.declaredParameters := by
  by_cases bodied : owner.TakesParameters ∧ ∃ body, owner.childAt .body = some body
  · obtain ⟨takes, body, found⟩ := bodied
    rw [namesOf_of_body takes found]
    exact List.filter_sublist
  · have none : namesOf file marker owner = [] := by
      refine List.eq_nil_iff_forall_not_mem.mpr fun name member => bodied ?_
      exact ⟨(mem_namesOf.mp member).1.1, (mem_namesOf.mp member).1.2.1⟩
    rw [none]
    exact List.nil_sublist _

def parameterNames (file : SourceFile) (marker : Bytes) : List Cursor :=
  file.root.walk.flatMap (namesOf file marker)

theorem parameterNames_eq :
    parameterNames file marker = (select file marker .parameter).filterMap name := by
  rw [select, parameters, List.filterMap_flatMap]
  rfl

theorem map_name_eq {candidates : List Candidate}
    (named : ∀ candidate ∈ candidates, ∃ name, candidate.name = some name) :
    candidates.map name = (candidates.filterMap name).map some := by
  induction candidates with
  | nil => rfl
  | cons candidate rest ih =>
    obtain ⟨name, is⟩ := named candidate List.mem_cons_self
    rw [List.map_cons, List.filterMap_cons_some is, List.map_cons, is,
      ih fun other member => named other (List.mem_cons_of_mem _ member)]

theorem map_name_parameters :
    (select file marker .parameter).map name = (parameterNames file marker).map some := by
  rw [parameterNames_eq]
  exact map_name_eq fun _ chosen => exists_name_of_mem_select (by decide) chosen

theorem mem_parameterNames {name : Cursor} :
    name ∈ parameterNames file marker ↔ BodiedParameter file marker name := by
  rw [parameterNames, List.mem_flatMap]
  constructor
  · rintro ⟨owner, walked, member⟩
    obtain ⟨owned, unmarked⟩ := mem_namesOf.mp member
    exact ⟨⟨owner, walked, owned⟩, unmarked⟩
  · rintro ⟨⟨owner, walked, owned⟩, unmarked⟩
    exact ⟨owner, walked, mem_namesOf.mpr ⟨owned, unmarked⟩⟩

namespace BodiedParameter

variable {name : Cursor} (parameter : BodiedParameter file marker name)

include parameter

theorem isName : name.isName = true := by
  obtain ⟨_, _, _, _, declared⟩ := parameter.owned
  exact (parameter_of_mem declared).isName

theorem placed : Reaches file.root name := by
  obtain ⟨_, walked, _, _, declared⟩ := parameter.owned
  exact (mem_walk.mp walked).trans (parameter_of_mem declared).reaches

end BodiedParameter

theorem nodup_of_names {names : List Cursor}
    (nonempty : ∀ name ∈ names, name.start < name.stop)
    (ordered : names.Pairwise fun first second => first.stop ≤ second.start) : names.Nodup := by
  refine ordered.imp_of_mem ?_
  rintro first second firstIn _ before rfl
  exact absurd (nonempty first firstIn) (Nat.not_lt.mpr before)

section WellFormed

variable (wellFormed : file.WellFormed)

include wellFormed

theorem parameterNames_nodup (marker : Bytes) : (parameterNames file marker).Nodup := by
  rw [parameterNames_eq, List.Nodup, List.pairwise_filterMap]
  refine (select_pairwise wellFormed marker .parameter).imp ?_
  rintro first second apart name named other found rfl
  exact apart name named found

theorem names_of_walk_pairwise {test : Cursor → Bool}
    (named : ∀ cursor, test cursor = true → cursor.isName = true) :
    (file.root.walk.filter test).Pairwise fun first second => first.stop ≤ second.start := by
  refine ((wellFormed.walk_pairwise .here).filter test).imp_of_mem ?_
  intro first second firstIn secondIn before
  obtain ⟨firstWalked, passes⟩ := List.mem_filter.mp firstIn
  have secondPlaced := mem_walk.mp (List.mem_filter.mp secondIn).1
  refine before.resolve_right fun above => ?_
  have below := (reaches_of_mem_ancestors secondPlaced rfl above).2
  rw [wellFormed.reaches_name (named first passes) (mem_walk.mp firstWalked) below] at above
  exact absurd (length_above_lt above) (Nat.lt_irrefl _)

open Classical in
theorem parameterNames_perm (marker : Bytes) :
    (parameterNames file marker).Perm
      (file.root.walk.filter fun cursor => decide (BodiedParameter file marker cursor)) := by
  refine (List.perm_ext_iff_of_nodup (parameterNames_nodup wellFormed marker) ?_).mpr fun name => ?_
  · refine nodup_of_names (fun name member => ?_)
      (names_of_walk_pairwise wellFormed fun cursor parameter => ?_)
    · have parameter := of_decide_eq_true (List.mem_filter.mp member).2
      exact wellFormed.name_nonempty parameter.isName parameter.placed
    · exact (of_decide_eq_true parameter).isName
  · rw [mem_parameterNames, List.mem_filter, decide_eq_true_eq]
    exact ⟨fun parameter => ⟨mem_walk.mpr parameter.placed, parameter⟩, And.right⟩

theorem parameterNames_once (marker : Bytes) :
    ListsOnce file.root (BodiedParameter file marker) (parameterNames file marker) := by
  classical
  exact ⟨_, parameterNames_perm wellFormed marker, .of_filter fun cursor _ => decide_eq_true_iff⟩

theorem parameterNames_pairwise (bodiesLast : file.BodiesLast) (marker : Bytes) :
    (parameterNames file marker).Pairwise fun first second => first.stop ≤ second.start := by
  rw [parameterNames, List.pairwise_flatMap]
  refine ⟨fun owner walked => ?_, ?_⟩
  · have apart := wellFormed.declaredParameters_pairwise (mem_walk.mp walked)
    exact apart.sublist (namesOf_sublist owner)
  · refine (wellFormed.walk_pairwise .here).imp_of_mem ?_
    intro first second firstIn secondIn before name member other otherMember
    obtain ⟨takes, ⟨body, bodyFound⟩, declared⟩ := (mem_namesOf.mp member).1
    obtain ⟨takesToo, -, otherDeclared⟩ := (mem_namesOf.mp otherMember).1
    have below := (parameter_of_mem otherDeclared).reaches
    have beyond := wellFormed.contains_of_reaches (mem_walk.mp secondIn) below
    rcases before with apart | above
    · have within := wellFormed.contains_of_reaches (mem_walk.mp firstIn)
        (parameter_of_mem declared).reaches
      omega
    · obtain ⟨list, listFound, inList⟩ := exists_list_of_mem_declaredParameters declared
      have listPlaced := (mem_walk.mp firstIn).trans (reaches_of_childAt listFound)
      have within := wellFormed.contains_of_reaches listPlaced inList
      have inside := Span.contains_iff.mp
        (bodiesLast.nested second secondIn takesToo first above takes body bodyFound)
      calc name.stop
        _ ≤ list.stop := within.2
        _ ≤ body.start := bodiesLast.follows first firstIn takes list listFound body bodyFound
        _ ≤ second.start := inside.1
        _ ≤ other.start := beyond.1

theorem parameterNames_inOrder (bodiesLast : file.BodiesLast) (marker : Bytes) :
    ListsInOrder file.root (BodiedParameter file marker) (parameterNames file marker) := by
  classical
  have same : parameterNames file marker =
      file.root.walk.filter fun cursor => decide (BodiedParameter file marker cursor) := by
    refine List.Perm.eq_of_pairwise (fun first second firstIn secondIn before behind => ?_)
      (parameterNames_pairwise wellFormed bodiesLast marker)
      (names_of_walk_pairwise wellFormed fun cursor parameter =>
        (of_decide_eq_true parameter).isName)
      (parameterNames_perm wellFormed marker)
    have parameter := mem_parameterNames.mp firstIn
    have nonempty := wellFormed.name_nonempty parameter.isName parameter.placed
    have forward := wellFormed.start_le_stop (mem_walk.mp (List.mem_filter.mp secondIn).1)
    omega
  rw [same]
  exact .of_filter fun cursor _ => decide_eq_true_iff

end WellFormed

/-- A walk visits the first of the pending cursors until none is left, which is once it has visited
every node, and lists the nodes of the tree in preorder, each node once. In a well-formed file no
node begins before one that is listed earlier. The selections are the declarators of local variables
in blocks, the statements and the parameters that are not marked, each of them once: declarators and
statements in the order of the document, and the names of parameters as well where bodies come last.
-/
theorem walk_and_select_inOrder (file : SourceFile) (marker : Bytes) :
    (∀ top : Cursor,
      (∀ count, (advance^[count] [top]).head? = top.walk[count]?) ∧
      (∀ count, advance^[count] [top] = [] ↔ top.node.size ≤ count) ∧
      (∀ fuel, top.node.size ≤ fuel → visit fuel [top] = top.walk) ∧
      top.walk.map node = top.node.preorder ∧ ListsInOrder top (fun _ => True) top.walk) ∧
    (file.WellFormed →
      (∀ top property found, Reaches file.root top → ListsInOrder top property found →
        found.Pairwise fun first second => first.start ≤ second.start) ∧
      ListsInOrder file.root (LocalDeclarator file marker)
        ((select file marker .localVariable).map element) ∧
      ListsInOrder file.root (fun cursor => cursor.kind = .ifStatement)
        ((select file marker .conditional).map element) ∧
      ∃ names, (select file marker .parameter).map name = names.map some ∧
        ListsOnce file.root (BodiedParameter file marker) names ∧
        (file.BodiesLast → ListsInOrder file.root (BodiedParameter file marker) names)) := by
  refine ⟨fun top => ⟨fun _ => head?_iterate_advance, fun _ => iterate_advance_eq_nil_iff,
    fun _ => visit_singleton, walk_map_node top, .of_walk top⟩, fun wellFormed => ?_⟩
  refine ⟨fun _ _ _ placed lists => wellFormed.starts_pairwise placed lists,
    localVariables_inOrder, conditionals_inOrder, parameterNames file marker, map_name_parameters,
    parameterNames_once wellFormed marker, fun bodiesLast => ?_⟩
  exact parameterNames_inOrder wellFormed bodiesLast marker

theorem lending_bodiesLast : lending.BodiesLast where
  follows := by decide +kernel
  nested := by decide +kernel

theorem lending_inOrder :
    ∃ names, (select lending [] .parameter).map name = names.map some ∧
      ListsInOrder lending.root (BodiedParameter lending []) names ∧
      names.map start = [17, 33] := by
  obtain ⟨-, selected⟩ := walk_and_select_inOrder lending []
  obtain ⟨-, -, -, names, same, -, inOrder⟩ := selected lending_wellFormed
  refine ⟨names, same, inOrder lending_bodiesLast, ?_⟩
  have computed : ((select lending [] .parameter).map name).map (Option.map start) =
      [17, 33].map some := by
    decide +kernel
  rw [same, List.map_map] at computed
  have starts : (names.map start).map some = [17, 33].map some := by
    rw [List.map_map, ← computed]
    rfl
  exact List.map_injective_iff.mpr (fun _ _ => Option.some.inj) starts

end Candidate

end Mutant
