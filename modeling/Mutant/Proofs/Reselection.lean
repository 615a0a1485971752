import Mutant.Proofs.DocumentOrder
import Mutant.Proofs.NameReplacement

/-!
Selecting once more in a file whose names were replaced. The file is again well-formed. What the tree
alone decides about the candidates moves along with it, and the text decides only which of them are
marked; so the candidates are those from before, less the ones whose names have got the marker.
-/

namespace Mutant

open Cursor Scope

section Moved

mutual

theorem Node.moved_id : (node : Node) → node.moved id = node
  | mk _ _ _ _ _ children => by rw [moved, movedAll_id children]; rfl

theorem Node.movedAll_id : (nodes : List Node) → movedAll id nodes = nodes
  | [] => rfl
  | node :: rest => by rw [movedAll, moved_id node, movedAll_id rest]

end

variable {file later : SourceFile} {move : Nat → Nat}

theorem Cursor.isName_moved (cursor : Cursor) : (cursor.moved move).isName = cursor.isName := by
  obtain ⟨node, above⟩ := cursor
  cases above <;> simp [isName, Cursor.moved, Cursor.kind, Node.declaresAs]

theorem Cursor.enclosing_moved (cursor : Cursor) (kinds : List Kind) :
    (cursor.moved move).enclosing kinds = (cursor.enclosing kinds).map (Cursor.moved move) := by
  rw [enclosing, enclosing, ancestors_moved, find?_kind_moved move _ kinds.contains]

theorem Cursor.mem_children_moved {cursor : Cursor} {child : Node} :
    child ∈ (cursor.moved move).node.children ↔
      ∃ inner ∈ cursor.node.children, inner.moved move = child := by
  rw [Cursor.moved, Node.moved_children, List.mem_map]

variable (relocated : later.tree = file.tree.moved move)

include relocated

theorem SourceFile.walk_relocated :
    later.root.walk = file.root.walk.map (Cursor.moved move) := by
  have root : later.root = file.root.moved move := by
    rw [SourceFile.root, relocated]
    rfl
  rw [root, walk_moved]

theorem SourceFile.FollowsGrammar.moved (grammar : file.FollowsGrammar) : later.FollowsGrammar := by
  constructor
  · rw [SourceFile.walk_relocated relocated, List.forall_mem_map]
    intro cursor member child childIn field
    obtain ⟨inner, innerIn, rfl⟩ := mem_children_moved.mp childIn
    rw [Node.moved_field] at field
    rw [Node.moved_kind]
    exact grammar.declarators cursor member inner innerIn field
  · rw [SourceFile.walk_relocated relocated, List.forall_mem_map]
    intro cursor member typed child childIn field
    obtain ⟨inner, innerIn, rfl⟩ := mem_children_moved.mp childIn
    rw [moved_kind] at typed
    rw [Node.moved_field] at field
    rw [Node.moved_kind]
    exact grammar.parameters cursor member typed inner innerIn field

theorem SourceFile.WellFormed.moved (wellFormed : file.WellFormed)
    (increasing : StrictMonoOn move {offset | file.root.Boundary offset})
    (inBounds : later.tree.stop ≤ later.source.length) : later.WellFormed where
  inBounds := inBounds
  forward := by
    rw [SourceFile.walk_relocated relocated, List.forall_mem_map]
    intro cursor member
    have placed := mem_walk.mp member
    rw [moved_start, moved_stop]
    exact (increasing.le_iff_le placed.start_boundary placed.stop_boundary).mpr
      (wellFormed.forward cursor member)
  nested := by
    rw [SourceFile.walk_relocated relocated, List.forall_mem_map]
    intro cursor member child childIn
    have placed := mem_walk.mp member
    obtain ⟨inner, innerIn, rfl⟩ := mem_children_moved.mp childIn
    have within := Span.contains_iff.mp (wellFormed.nested cursor member inner innerIn)
    have below := placed.down innerIn
    rw [moved_span, Node.moved_span, Span.contains_iff]
    exact ⟨(increasing.le_iff_le placed.start_boundary below.start_boundary).mpr within.1,
      (increasing.le_iff_le below.stop_boundary placed.stop_boundary).mpr within.2⟩
  ordered := by
    rw [SourceFile.walk_relocated relocated, List.forall_mem_map]
    intro cursor member
    have placed := mem_walk.mp member
    rw [Cursor.moved, Node.moved_children, List.pairwise_map]
    refine (wellFormed.ordered cursor member).imp_of_mem ?_
    intro first second firstIn secondIn before
    rw [Node.stop, Node.start, Node.moved_span, Node.moved_span]
    exact (increasing.le_iff_le (placed.down firstIn).stop_boundary
      (placed.down secondIn).start_boundary).mpr before
  leaf := by
    rw [SourceFile.walk_relocated relocated, List.forall_mem_map]
    intro cursor member named
    have placed := mem_walk.mp member
    rw [isName_moved] at named
    obtain ⟨nonempty, childless⟩ := wellFormed.leaf cursor member named
    rw [moved_start, moved_stop, Cursor.moved, Node.moved_children, childless]
    exact ⟨(increasing.lt_iff_lt placed.start_boundary placed.stop_boundary).mpr nonempty, rfl⟩

end Moved

theorem Draft.Replaces.landing_le_length {draft : Draft} (replaces : draft.Replaces) {offset : Nat}
    (within : offset ≤ draft.source.length) (clear : draft.Clear offset) :
    draft.landing offset ≤ draft.render.length := by
  have fits : ∀ edit ∈ Edit.sort draft.edits, edit.Fits draft.source :=
    fun edit member => replaces.fits edit (Edit.mem_sort.mp member)
  have sorted : Edit.Clear (Edit.sort draft.edits) offset :=
    fun edit member => clear edit (Edit.mem_sort.mp member)
  rw [landing, ← Edit.landing_perm (Edit.sort_perm draft.edits),
    ← Edit.length_renderFrom_before replaces.ordered fits within, render,
    Edit.renderFrom_eq_before_append replaces.ordered fits sorted, List.length_append]
  omega

namespace SourceFile

theorem edited_draft (file : SourceFile) : file.edited file.draft = file := by
  have still : file.draft.landing = id := rfl
  have whole : file.draft.render = file.source := by
    simp [draft, Draft.render, Edit.sort, Draft.renderFrom]
  rw [edited, still, whole, Node.moved_id]

/-- The file with its tree and no text. -/
def textless (file : SourceFile) : SourceFile :=
  { file with source := [] }

namespace Replaceable

variable {file : SourceFile} {names : List Cursor} {newName : Bytes}
  (replaceable : file.Replaceable names newName)

include replaceable

theorem wellFormed_edited : (file.edited (file.replacing names newName)).WellFormed := by
  apply WellFormed.moved rfl replaceable.wellFormed replaceable.increasing
  have placed : Reaches file.root file.root := .here
  rw [Node.stop, edited, Node.moved_span]
  exact replaceable.replaces.landing_le_length replaceable.wellFormed.inBounds
    (replaceable.clear placed.stop_boundary)

end Replaceable

end SourceFile

namespace Candidate

def moved (move : Nat → Nat) (candidate : Candidate) : Candidate where
  element := candidate.element.moved move
  scope := candidate.scope.moved move
  owner := candidate.owner
  name := candidate.name.map (Cursor.moved move)

section Moved

variable {file later : SourceFile} {marker : Bytes} {move : Nat → Nat}

theorem parameterElement_moved (name : Cursor) :
    parameterElement (name.moved move) = (parameterElement name).moved move := by
  unfold parameterElement
  rw [parent_moved]
  cases name.parent with
  | none => rfl
  | some parent =>
    simp only [Option.map_some, moved_kind]
    split <;> rfl

variable (marks : ∀ name, isMarked later marker (name.moved move) = isMarked file marker name)

include marks

theorem localVariable?_moved (cursor : Cursor) :
    localVariable? later marker (cursor.moved move) =
      (localVariable? file marker cursor).map (Candidate.moved move) := by
  unfold localVariable?
  rw [moved_kind, parent_moved, enclosing_moved, childAt_moved, Option.map_map]
  simp only [Function.comp_def, moved_kind]
  split
  next =>
    cases cursor.enclosing Kind.blocks with
    | none => rfl
    | some block =>
      cases cursor.childAt .name with
      | none => rfl
      | some name =>
        simp only [Option.map_some, marks]
        split <;> rfl
  next => rfl

theorem parametersOf_moved (owner : Cursor) :
    parametersOf later marker (owner.moved move) =
      (parametersOf file marker owner).map (Candidate.moved move) := by
  unfold parametersOf
  rw [moved_kind, childAt_moved, declaredParameters_moved]
  split
  next =>
    cases owner.childAt .body with
    | none => rfl
    | some body =>
      simp only [Option.map_some, List.filter_map, List.map_map, Function.comp_def, marks,
        parameterElement_moved]
      rfl
  next => rfl

/-- Where the marks stay, selecting commutes with a move. -/
theorem select_moved (relocated : later.tree = file.tree.moved move) (family : Family) :
    select later marker family = (select file marker family).map (Candidate.moved move) := by
  have walk := SourceFile.walk_relocated relocated
  cases family with
  | localVariable =>
    rw [select, localVariables, walk, List.filterMap_map, select, localVariables, List.map_filterMap]
    apply congrArg (List.filterMap · file.root.walk)
    funext cursor
    exact localVariable?_moved marks cursor
  | parameter =>
    rw [select, parameters, walk, List.flatMap_map, select, parameters, List.map_flatMap]
    apply congrArg (List.flatMap · file.root.walk)
    funext owner
    exact parametersOf_moved marks owner
  | conditional =>
    rw [select, conditionals, walk, filter_kind_moved move _ (· == .ifStatement), List.map_map,
      select, conditionals, List.map_map]
    rfl

end Moved

section Marks

variable {file : SourceFile} {marker : Bytes}

def isUnmarked (file : SourceFile) (marker : Bytes) (candidate : Candidate) : Bool :=
  candidate.name.all fun name => !isMarked file marker name

theorem effectiveMarker_ne_nil (marker : Bytes) : effectiveMarker marker ≠ [] := by
  unfold effectiveMarker
  split
  next => decide
  next given => simpa using given

theorem isMarked_textless (name : Cursor) : isMarked file.textless marker name = false := by
  have empty : file.textless.text name = [] := by
    simp [SourceFile.text, SourceFile.textless, Span.text, Bytes.slice]
  rw [isMarked, empty, Bool.eq_false_iff, ne_eq, List.isSuffixOf_iff_suffix, List.suffix_nil]
  exact effectiveMarker_ne_nil marker

theorem localVariable?_eq_filter (cursor : Cursor) :
    localVariable? file marker cursor =
      (localVariable? file.textless marker cursor).filter (isUnmarked file marker) := by
  unfold localVariable?
  split
  next =>
    split
    next block name _ _ =>
      rw [isMarked_textless]
      by_cases marked : isMarked file marker name = true
      · simp [Option.filter_some, isUnmarked, marked]
      · simp [Option.filter_some, isUnmarked, marked]
    next => rfl
  next => rfl

theorem parametersOf_eq_filter (owner : Cursor) :
    parametersOf file marker owner =
      (parametersOf file.textless marker owner).filter (isUnmarked file marker) := by
  unfold parametersOf
  split
  next =>
    split
    next => rfl
    next body _ =>
      have all : owner.declaredParameters.filter (fun name => !isMarked file.textless marker name) =
          owner.declaredParameters :=
        List.filter_eq_self.mpr fun name _ => by rw [isMarked_textless, Bool.not_false]
      rw [all, List.filter_map]
      rfl
  next => rfl

/-- The tree decides what the candidates are, and the text which of them are marked. -/
theorem select_eq_filter (family : Family) :
    select file marker family =
      (select file.textless marker family).filter (isUnmarked file marker) := by
  cases family with
  | localVariable =>
    rw [select, localVariables, select, localVariables, List.filter_filterMap]
    apply congrArg (List.filterMap · file.root.walk)
    funext cursor
    exact localVariable?_eq_filter cursor
  | parameter =>
    rw [select, parameters, select, parameters, List.filter_flatMap]
    apply congrArg (List.flatMap · file.root.walk)
    funext owner
    exact parametersOf_eq_filter owner
  | conditional =>
    rw [select, select, List.filter_eq_self.mpr]
    · rfl
    · intro candidate member
      obtain ⟨_, _, rfl⟩ := List.mem_map.mp member
      rfl

end Marks

theorem renames_of_textless {file : SourceFile} {family : Family} {scope name : Cursor}
    (renames : Renames file.textless family scope name) : Renames file family scope name := by
  cases renames with
  | localVariable placed declaration declarator enclosing nameIn field =>
    exact .localVariable placed declaration declarator enclosing nameIn field
  | parameter placed callable body declared => exact .parameter placed callable body declared

theorem Renames.family_eq {file : SourceFile} {family other : Family} {scope otherScope name : Cursor}
    (renames : Renames file family scope name) (otherwise : Renames file other otherScope name) :
    family = other := by
  have apart : ∀ {scope otherScope : Cursor}, Renames file .localVariable scope name →
      ¬Renames file .parameter otherScope name := by
    intro scope otherScope locally parameter
    cases locally with
    | localVariable _ declaration declarator =>
      cases parameter with
      | parameter _ callable _ declared =>
        refine not_parameter declaration declarator ?_ (parameter_of_mem declared)
        rintro kind
        rw [kind] at callable
        exact absurd callable (by decide)
  cases family with
  | localVariable =>
    cases other with
    | localVariable => rfl
    | parameter => exact absurd otherwise (apart renames)
    | conditional => exact nomatch otherwise
  | parameter =>
    cases other with
    | localVariable => exact absurd renames (apart otherwise)
    | parameter => rfl
    | conditional => exact nomatch otherwise
  | conditional => exact nomatch renames

def isOther (name : Cursor) (candidate : Candidate) : Bool :=
  candidate.name.all fun found => found.start != name.start

section Renamed

open Rename

variable {file : SourceFile} (wellFormed : file.WellFormed) {family : Family}
  {scope name : Cursor} (renames : Renames file family scope name)

include wellFormed renames

theorem isOther_iff {other : Family} {candidate : Candidate}
    (offered : ∀ found ∈ candidate.name, Renames file other candidate.scope found) :
    isOther name candidate = true ↔ name ∉ candidate.name := by
  unfold isOther
  cases named : candidate.name with
  | none => simp
  | some found =>
    have placed := offered found named
    rw [Option.all_some, bne_iff_ne, Option.mem_some_iff]
    apply not_congr
    constructor
    · exact wellFormed.eq_of_start_eq placed.isName renames.isName placed.name_placed
        renames.name_placed
    · intro same
      rw [same]

variable (grammar : file.FollowsGrammar)

include grammar

theorem isUnmarked_moved {marker newName : Bytes} (marks : effectiveMarker marker <:+ newName)
    (resolution : Bool) {other : Family} {candidate : Candidate}
    (offered : ∀ found ∈ candidate.name, Renames file other candidate.scope found) :
    let draft := file.replacing (replaced file resolution scope name) newName
    isUnmarked (file.edited draft) marker (candidate.moved draft.landing) =
      (isOther name candidate && isUnmarked file marker candidate) := by
  intro draft
  have nonempty : newName ≠ [] := by
    rintro rfl
    exact effectiveMarker_ne_nil marker (List.suffix_nil.mp marks)
  have replaceable : file.Replaceable (replaced file resolution scope name) newName :=
    replaceable_replaced renames wellFormed nonempty
  cases named : candidate.name with
  | none => simp only [isUnmarked, isOther, Candidate.moved, named, Option.map_none, Option.all_none,
      Bool.and_self]
  | some found =>
    have placed := offered found named
    -- The renamed candidate ends in the marker now; the text of any other name is kept.
    by_cases same : found = name
    · have text := replaceable.text_moved_of_mem List.mem_cons_self
      have marked : isMarked (file.edited draft) marker (name.moved draft.landing) = true := by
        rw [isMarked, text]
        exact List.isSuffixOf_iff_suffix.mpr marks
      simp only [isUnmarked, isOther, Candidate.moved, named, same, Option.map_some, Option.all_some,
        marked, bne_self_eq_false, Bool.not_true, Bool.false_and]
    · have absent : found ∉ replaced file resolution scope name := by
        intro member
        rcases List.mem_cons.mp member with equal | used
        · exact same equal
        · have refers := (mem_references.mp (mem_references_of_mem_usages renames used)).2
          rw [placed.not_isReference grammar] at refers
          exact absurd refers (by decide)
      have text := replaceable.text_moved_of_not_mem placed.isName placed.name_placed absent
      have kept : isMarked (file.edited draft) marker (found.moved draft.landing) =
          isMarked file marker found := by
        rw [isMarked, text]
        rfl
      have other : isOther name candidate = true := by
        rw [isOther_iff wellFormed renames offered, named, Option.mem_some_iff]
        exact same
      rw [other, Bool.true_and]
      simp only [isUnmarked, Candidate.moved, named, Option.map_some, Option.all_some, kept]

/-- Selecting again after a renaming gives the candidates from before, less the one that was
renamed. -/
theorem select_edited {marker newName : Bytes} (marks : effectiveMarker marker <:+ newName)
    (resolution : Bool) (other : Family) :
    let draft := file.replacing (replaced file resolution scope name) newName
    select (file.edited draft) marker other =
      ((select file marker other).filter (isOther name)).map (Candidate.moved draft.landing) := by
  intro draft
  have offered : ∀ candidate ∈ select file.textless marker other, ∀ found ∈ candidate.name,
      Renames file other candidate.scope found :=
    fun candidate chosen found named => renames_of_textless (renames_of_mem_select chosen named)
  have tree : select (file.edited draft).textless marker other =
      (select file.textless marker other).map (Candidate.moved draft.landing) := by
    apply select_moved _ rfl
    intro name
    rw [isMarked_textless, isMarked_textless]
  calc select (file.edited draft) marker other
      = ((select file.textless marker other).map (Candidate.moved draft.landing)).filter
          (isUnmarked (file.edited draft) marker) := by rw [select_eq_filter, tree]
    _ = ((select file.textless marker other).filter fun candidate =>
          isOther name candidate && isUnmarked file marker candidate).map
            (Candidate.moved draft.landing) := by
        rw [List.filter_map]
        apply congrArg (List.map (Candidate.moved draft.landing))
        apply List.filter_congr
        intro candidate chosen
        exact isUnmarked_moved wellFormed renames grammar marks resolution (offered candidate chosen)
    _ = ((select file marker other).filter (isOther name)).map (Candidate.moved draft.landing) := by
        rw [← List.filter_filter, ← select_eq_filter]

omit grammar

theorem filter_isOther {marker : Bytes} {before after : List Candidate} {candidate : Candidate}
    (divided : select file marker family = before ++ candidate :: after)
    (named : candidate.name = some name) :
    (select file marker family).filter (isOther name) = before ++ after := by
  have offered : ∀ found ∈ select file marker family, ∀ other ∈ found.name,
      Renames file family found.scope other :=
    fun found chosen other => renames_of_mem_select chosen
  have distinct := select_pairwise wellFormed marker family
  rw [divided] at offered distinct
  obtain ⟨_, following, across⟩ := List.pairwise_append.mp distinct
  obtain ⟨behind, _⟩ := List.pairwise_cons.mp following
  have first : before.filter (isOther name) = before := by
    rw [List.filter_eq_self]
    intro found member
    rw [isOther_iff wellFormed renames (offered found (List.mem_append_left _ member))]
    intro same
    exact across found member candidate List.mem_cons_self name same named
  have own : isOther name candidate = false := by
    rw [isOther, named, Option.all_some, bne_self_eq_false]
  have last : after.filter (isOther name) = after := by
    rw [List.filter_eq_self]
    intro found member
    rw [isOther_iff wellFormed renames
      (offered found (List.mem_append_right _ (List.mem_cons_of_mem _ member)))]
    exact behind found member name named
  rw [divided, List.filter_append, List.filter_cons_of_neg (by simp [own]), first, last]

theorem filter_isOther_of_ne {marker : Bytes} {other : Family} (different : other ≠ family) :
    (select file marker other).filter (isOther name) = select file marker other := by
  rw [List.filter_eq_self]
  intro candidate chosen
  have offered : ∀ found ∈ candidate.name, Renames file other candidate.scope found :=
    fun found => renames_of_mem_select chosen
  rw [isOther_iff wellFormed renames offered]
  intro named
  exact different ((offered name named).family_eq renames)

end Renamed

end Candidate

end Mutant
