import Mutant.Proofs.DocumentOrder

/-!
Resolution as innermost visible scoping. What a lookup finds is said without the lookup: which names
can be seen from a reference, in which order a construct lists them, and that the construct nearest
to the reference wins. In a well-formed file the early end of the search through a block changes
nothing, as the statements behind the reference declare their names behind it.
-/

namespace Mutant

open Cursor Scope

namespace SourceFile.WellFormed

variable {file : SourceFile} (wellFormed : file.WellFormed)

include wellFormed

theorem childrenAt_pairwise {cursor : Cursor} (placed : Reaches file.root cursor) (field : Field) :
    (cursor.childrenAt field).Pairwise fun first second => first.stop ≤ second.start := by
  rw [childrenAt, List.pairwise_map]
  exact (wellFormed.ordered cursor (mem_walk.mpr placed)).filter _

theorem flatMap_pairwise {cursors : List Cursor} {parts : Cursor → List Cursor}
    (placed : ∀ cursor ∈ cursors, Reaches file.root cursor)
    (below : ∀ cursor ∈ cursors, ∀ part ∈ parts cursor, Reaches cursor part)
    (inner : ∀ cursor ∈ cursors,
      (parts cursor).Pairwise fun first second => first.stop ≤ second.start)
    (ordered : cursors.Pairwise fun first second => first.stop ≤ second.start) :
    (cursors.flatMap parts).Pairwise fun first second => first.stop ≤ second.start := by
  rw [List.pairwise_flatMap]
  refine ⟨inner, ordered.imp_of_mem ?_⟩
  intro first second firstIn secondIn before upper upperIn lower lowerIn
  have upperWithin := wellFormed.contains_of_reaches (placed first firstIn)
    (below first firstIn upper upperIn)
  have lowerWithin := wellFormed.contains_of_reaches (placed second secondIn)
    (below second secondIn lower lowerIn)
  omega

theorem statements_pairwise {block : Cursor} (placed : Reaches file.root block) :
    block.statements.Pairwise fun first second => first.stop ≤ second.start := by
  have childPlaced : ∀ child ∈ block.namedChildren, Reaches file.root child :=
    fun child member => placed.trans (reaches_of_mem_namedChildren member)
  refine wellFormed.flatMap_pairwise childPlaced ?_ ?_ (wellFormed.namedChildren_pairwise placed)
  · intro child _ part partIn
    split at partIn
    · exact reaches_of_mem_namedChildren partIn
    · rw [List.mem_singleton.mp partIn]
      exact .here
  · intro child member
    split
    · exact wellFormed.namedChildren_pairwise (childPlaced child member)
    · exact List.pairwise_singleton _ _

theorem declaratorNames_pairwise {declaration : Cursor} (placed : Reaches file.root declaration) :
    declaration.declaratorNames.Pairwise fun first second => first.stop ≤ second.start := by
  refine wellFormed.filterMap_pairwise (fun declarator member => ?_) (fun _ _ => reaches_of_childAt)
    (wellFormed.childrenAt_pairwise placed .declarator)
  obtain ⟨child, childIn, _, rfl⟩ := mem_childrenAt member
  exact placed.down childIn

theorem flatMap_declaratorNames_pairwise {declarations : List Cursor}
    (placed : ∀ declaration ∈ declarations, Reaches file.root declaration)
    (ordered : declarations.Pairwise fun first second => first.stop ≤ second.start) :
    (declarations.flatMap (·.declaratorNames)).Pairwise fun first second =>
      first.stop ≤ second.start :=
  wellFormed.flatMap_pairwise placed (fun _ _ _ => reaches_of_mem_declaratorNames)
    (fun declaration member => wellFormed.declaratorNames_pairwise (placed declaration member))
    ordered

theorem declaredBefore_pairwise {reference : Cursor} {statements : List Cursor}
    (placed : ∀ statement ∈ statements, Reaches file.root statement)
    (ordered : statements.Pairwise fun first second => first.stop ≤ second.start) :
    (declaredBefore reference statements).Pairwise fun first second =>
      first.stop ≤ second.start :=
  (wellFormed.flatMap_declaratorNames_pairwise
    (fun statement member => placed statement (List.mem_filter.mp member).1)
    (ordered.filter _)).filter _

theorem resourceNames_pairwise {scope : Cursor} (placed : Reaches file.root scope) :
    (resourceNames scope).Pairwise fun first second => first.stop ≤ second.start := by
  unfold resourceNames
  cases found : scope.childAt .resources with
  | none => exact .nil
  | some list =>
    have listPlaced : Reaches file.root list := placed.trans (reaches_of_childAt found)
    refine wellFormed.filterMap_pairwise (fun resource member => ?_) (fun _ _ => reaches_of_childAt)
      ((wellFormed.namedChildren_pairwise listPlaced).filter _)
    exact listPlaced.trans (reaches_of_mem_namedChildren (List.mem_filter.mp member).1)

end SourceFile.WellFormed

namespace Scope

/-- A search that ends where the list first goes beyond a limit finds all that lies before it. -/
theorem mem_takeWhile_of_ordered {cursors : List Cursor} {cursor : Cursor} {limit : Nat}
    (forward : ∀ other ∈ cursors, other.start ≤ other.stop)
    (ordered : cursors.Pairwise fun first second => first.stop ≤ second.start)
    (member : cursor ∈ cursors) (early : cursor.start < limit) :
    cursor ∈ cursors.takeWhile fun other => other.start < limit := by
  induction cursors with
  | nil => exact absurd member List.not_mem_nil
  | cons first rest ih =>
    obtain ⟨after, restOrdered⟩ := List.pairwise_cons.mp ordered
    rcases List.mem_cons.mp member with rfl | later
    · simp [early]
    · have firstForward := forward first List.mem_cons_self
      have before := after cursor later
      have firstEarly : first.start < limit := by omega
      rw [List.takeWhile_cons_of_pos (by simpa using firstEarly)]
      exact List.mem_cons_of_mem _
        (ih (fun other inRest => forward other (List.mem_cons_of_mem _ inRest)) restOrdered later)

def IsComponent (scope name : Cursor) : Prop :=
  scope.kind.isClassBody = true ∧
    ∃ owner, scope.parent = some owner ∧ owner.kind = .recordDeclaration ∧
      name ∈ owner.declaredParameters

/-- The order in which a construct lists the names that it declares: as they stand in the text, but
the fields of a record before its components. -/
def Before (scope first second : Cursor) : Prop :=
  (¬IsComponent scope first ∧ IsComponent scope second) ∨
    ((IsComponent scope first ↔ IsComponent scope second) ∧ first.stop ≤ second.start)

theorem before_iff {scope : Cursor} (other : scope.kind.isClassBody = false)
    (first second : Cursor) : Before scope first second ↔ first.stop ≤ second.start := by
  simp [Before, IsComponent, other]

theorem Before.asymm {scope first second : Cursor} (firstNonempty : first.start < first.stop)
    (secondNonempty : second.start < second.stop) (before : Before scope first second) :
    ¬Before scope second first := by
  rintro (⟨field, component⟩ | ⟨alike, behind⟩)
  · rcases before with ⟨noComponent, _⟩ | ⟨same, _⟩
    · exact noComponent component
    · exact field (same.mp component)
  · rcases before with ⟨noComponent, component⟩ | ⟨_, ahead⟩
    · exact noComponent (alike.mp component)
    · omega

section Placed

variable {file : SourceFile} (wellFormed : file.WellFormed) {scope : Cursor}
  (placed : Reaches file.root scope)

include wellFormed placed

/-- A construct offers exactly the names that can be seen. -/
theorem mem_offered_iff {reference name : Cursor} :
    name ∈ offered scope reference ↔ Visible scope reference name := by
  refine ⟨visible_of_mem, fun visible => ?_⟩
  cases visible with
  | @block statement _ isBlock member declaration declared early =>
    have statementPlaced : Reaches file.root statement :=
      placed.trans (reaches_of_mem_statements member)
    have below := reaches_of_mem_declaratorNames declared
    have within := wellFormed.contains_of_reaches statementPlaced below
    have nonempty := wellFormed.name_nonempty (isName_of_mem_declaratorNames declared)
      (statementPlaced.trans below)
    -- The search through the block ends early, but not in front of this statement.
    have inTime : statement ∈ scope.statements.takeWhile fun other =>
        other.start < reference.start := by
      refine mem_takeWhile_of_ordered (fun other otherIn => ?_)
        (wellFormed.statements_pairwise placed) member (by omega)
      exact wellFormed.start_le_stop (placed.trans (reaches_of_mem_statements otherIn))
    rw [offered_of_isBlock isBlock]
    exact mem_declaredBefore.mpr ⟨statement, inTime, declaration, declared, early⟩
  | @initial statement _ kind member declaration declared early =>
    simp only [offered, kind]
    exact mem_declaredBefore.mpr ⟨statement, member, declaration, declared, early⟩
  | loop kind found inside => simp [offered, kind, inside, found]
  | caught kind found named inside => simp [offered, kind, inside, caughtName, found, named]
  | resource kind list member isResource named early =>
    simp only [offered, kind]
    refine List.mem_filter.mpr ⟨?_, by simpa using early⟩
    exact mem_resourceNames.mpr ⟨_, _, list, member, isResource, named⟩
  | parameter kind declared inside =>
    rw [offered_of_isOwner kind, if_pos inside]
    exact declared
  | field kind member declaration declared =>
    rw [offered_of_isClassBody kind]
    refine List.mem_append_left _ (List.mem_flatMap.mpr ⟨_, ?_, declared⟩)
    exact List.mem_filter.mpr ⟨member, by simpa using declaration⟩
  | component kind parent record declared =>
    rw [offered_of_isClassBody kind]
    refine List.mem_append_right _ ?_
    simp [parent, record, declared]

theorem offered_ordered (other : scope.kind.isClassBody = false) (reference : Cursor) :
    (offered scope reference).Pairwise fun first second => first.stop ≤ second.start := by
  have statementPlaced : ∀ statement ∈ scope.statements, Reaches file.root statement :=
    fun statement member => placed.trans (reaches_of_mem_statements member)
  unfold offered
  split
  case h_1 | h_2 | h_3 =>
    refine wellFormed.declaredBefore_pairwise (fun statement member => ?_) ?_
    · exact statementPlaced statement (List.takeWhile_subset _ member)
    · exact (wellFormed.statements_pairwise placed).sublist (List.takeWhile_sublist _)
  case h_4 =>
    refine wellFormed.declaredBefore_pairwise (fun statement member => ?_)
      (wellFormed.childrenAt_pairwise placed .initial)
    obtain ⟨child, childIn, _, rfl⟩ := mem_childrenAt member
    exact placed.down childIn
  case h_5 =>
    split
    · cases scope.childAt .name <;> simp
    · exact .nil
  case h_6 =>
    split
    · cases caughtName scope <;> simp
    · exact .nil
  case h_7 => exact (wellFormed.resourceNames_pairwise placed).filter _
  case h_8 | h_9 | h_10 =>
    split
    · exact wellFormed.declaredParameters_pairwise placed
    · exact .nil
  case h_11 kind | h_12 kind | h_13 kind | h_14 kind =>
    rw [kind] at other
    exact absurd other (by decide)
  case h_15 => exact .nil

omit wellFormed placed in
theorem not_isComponent_of_field {member name : Cursor} (inBody : member ∈ scope.namedChildren)
    (declaration : member.kind = .fieldDeclaration ∨ member.kind = .constantDeclaration)
    (declared : name ∈ member.declaratorNames) : ¬IsComponent scope name := by
  rintro ⟨body, owner, _, record, component⟩
  refine Candidate.not_parameter_of_declarator (by rw [record]; rfl) (parameter_of_mem component)
    declared (Or.inr declaration) fun parent above => ?_
  obtain ⟨child, _, rfl⟩ := mem_namedChildren inBody
  rw [← Option.some_inj.mp above]
  exact Candidate.not_owns_of_isClassBody body

theorem memberNames_ordered (body : scope.kind.isClassBody = true) :
    (memberNames scope).Pairwise (Before scope) := by
  have fieldNames : ∀ name ∈ (scope.namedChildren.filter fun member =>
      member.kind == .fieldDeclaration || member.kind == .constantDeclaration).flatMap
        (·.declaratorNames), ¬IsComponent scope name := by
    intro name member
    obtain ⟨declaration, declarationIn, declared⟩ := List.mem_flatMap.mp member
    obtain ⟨below, kind⟩ := List.mem_filter.mp declarationIn
    exact not_isComponent_of_field below (by simpa using kind) declared
  refine List.pairwise_append.mpr ⟨?_, ?_, ?_⟩
  · refine (wellFormed.flatMap_declaratorNames_pairwise (fun member memberIn => ?_)
      ((wellFormed.namedChildren_pairwise placed).filter _)).imp_of_mem ?_
    · exact placed.trans (reaches_of_mem_namedChildren (List.mem_filter.mp memberIn).1)
    · intro first second firstIn secondIn before
      exact Or.inr ⟨iff_of_false (fieldNames first firstIn) (fieldNames second secondIn), before⟩
  · split
    next => exact .nil
    next owner parent =>
      split
      next record =>
        refine (wellFormed.declaredParameters_pairwise
          (reaches_of_parent rfl placed parent)).imp_of_mem ?_
        intro first second firstIn secondIn before
        have isComponent : ∀ name ∈ owner.declaredParameters, IsComponent scope name :=
          fun name member => ⟨body, owner, parent, by simpa using record, member⟩
        exact Or.inr ⟨iff_of_true (isComponent first firstIn) (isComponent second secondIn), before⟩
      next => exact .nil
  · intro first firstIn second secondIn
    refine Or.inl ⟨fieldNames first firstIn, body, ?_⟩
    split at secondIn
    next => exact absurd secondIn List.not_mem_nil
    next owner parent =>
      split at secondIn
      next record => exact ⟨owner, parent, by simpa using record, secondIn⟩
      next => exact absurd secondIn List.not_mem_nil

theorem offered_pairwise (reference : Cursor) :
    (offered scope reference).Pairwise (Before scope) := by
  by_cases body : scope.kind.isClassBody = true
  · rw [offered_of_isClassBody body]
    exact memberNames_ordered wellFormed placed body
  · have other : scope.kind.isClassBody = false := by simpa using body
    exact (offered_ordered wellFormed placed other reference).imp fun before =>
      (before_iff other _ _).mpr before

end Placed

theorem head?_eq_some_iff {names : List Cursor} {order : Cursor → Cursor → Prop}
    (ordered : names.Pairwise order)
    (asymm : ∀ first ∈ names, ∀ second ∈ names, order first second → ¬order second first)
    {name : Cursor} :
    names.head? = some name ↔ name ∈ names ∧ ∀ other ∈ names, other = name ∨ order name other := by
  cases names with
  | nil => simp
  | cons first rest =>
    obtain ⟨after, -⟩ := List.pairwise_cons.mp ordered
    rw [List.head?_cons, Option.some_inj]
    constructor
    · rintro rfl
      refine ⟨List.mem_cons_self, fun other member => ?_⟩
      exact (List.mem_cons.mp member).imp_right (after other)
    · rintro ⟨member, least⟩
      rcases List.mem_cons.mp member with same | later
      · exact same.symm
      · refine (least first List.mem_cons_self).resolve_right fun before => ?_
        exact asymm name member first List.mem_cons_self before (after name later)

theorem choose_eq_some_iff {kind : Kind} {names : List Cursor} {order : Cursor → Cursor → Prop}
    (ordered : names.Pairwise order)
    (asymm : ∀ first ∈ names, ∀ second ∈ names, order first second → ¬order second first)
    {name : Cursor} :
    choose kind names = some name ↔ name ∈ names ∧ ∀ other ∈ names, other = name ∨
      if kind.isBlock then order other name else order name other := by
  unfold choose
  split
  next block =>
    have reversed : names.reverse.Pairwise fun first second => order second first :=
      List.pairwise_reverse.mpr ordered
    rw [← List.head?_reverse, head?_eq_some_iff reversed fun first firstIn second secondIn =>
      asymm second (List.mem_reverse.mp secondIn) first (List.mem_reverse.mp firstIn)]
    simp only [List.mem_reverse]
  next => exact head?_eq_some_iff ordered asymm

/-- The construct is the innermost one around the reference in which a name with the text of the
reference can be seen, and of those the given name is the one that is taken. -/
structure Binds (file : SourceFile) (reference scope name : Cursor) : Prop where
  encloses : scope ∈ reference.ancestors
  visible : Visible scope reference name
  text : file.text name = file.text reference
  taken : ∀ other, Visible scope reference other → file.text other = file.text reference →
    other = name ∨ if scope.kind.isBlock then Before scope other name else Before scope name other
  innermost : ∀ inner ∈ reference.ancestors, scope ∈ inner.ancestors →
    ∀ other, Visible inner reference other → file.text other ≠ file.text reference

section Resolution

variable {file : SourceFile} (wellFormed : file.WellFormed) {reference : Cursor}
  (placed : Reaches file.root reference)

include wellFormed

theorem lookup_eq_none_iff {scope : Cursor} (scopePlaced : Reaches file.root scope) :
    lookup file scope reference (file.text reference) = none ↔
      ∀ other, Visible scope reference other → file.text other ≠ file.text reference := by
  rw [lookup_eq_choose, choose_eq_none_iff, List.filter_eq_nil_iff]
  simp only [mem_offered_iff wellFormed scopePlaced, beq_iff_eq]

theorem lookup_eq_some_iff {scope name : Cursor} (scopePlaced : Reaches file.root scope) :
    lookup file scope reference (file.text reference) = some name ↔
      (Visible scope reference name ∧ file.text name = file.text reference) ∧
      ∀ other, Visible scope reference other → file.text other = file.text reference →
        other = name ∨
          if scope.kind.isBlock then Before scope other name else Before scope name other := by
  have nonempty : ∀ found ∈ offered scope reference, found.start < found.stop := fun found member =>
    wellFormed.name_nonempty (visible_of_mem member).isName
      ((visible_of_mem member).placed rfl scopePlaced)
  rw [lookup_eq_choose, choose_eq_some_iff ((offered_pairwise wellFormed scopePlaced _).filter _)]
  · simp only [List.mem_filter, mem_offered_iff wellFormed scopePlaced, beq_iff_eq, and_imp]
  · intro first firstIn second secondIn
    exact Before.asymm (nonempty first (List.mem_filter.mp firstIn).1)
      (nonempty second (List.mem_filter.mp secondIn).1)

include placed

omit wellFormed in
theorem placed_of_mem_ancestors {scope : Cursor} (member : scope ∈ reference.ancestors) :
    Reaches file.root scope :=
  (reaches_of_mem_ancestors placed rfl member).1

theorem binds_of_lookup {scope name : Cursor} {inner outer : List Cursor}
    (divided : reference.ancestors = inner ++ scope :: outer)
    (found : lookup file scope reference (file.text reference) = some name)
    (innerNone : ∀ other ∈ inner, lookup file other reference (file.text reference) = none) :
    Binds file reference scope name := by
  have member : scope ∈ reference.ancestors := by
    rw [divided]
    exact List.mem_append_right _ List.mem_cons_self
  have scopePlaced := placed_of_mem_ancestors placed member
  obtain ⟨⟨visible, text⟩, taken⟩ := (lookup_eq_some_iff wellFormed scopePlaced).mp found
  refine ⟨member, visible, text, taken, fun closer closerIn above => ?_⟩
  have closerPlaced := placed_of_mem_ancestors placed closerIn
  exact (lookup_eq_none_iff wellFormed closerPlaced).mp
    (innerNone closer (mem_inner_of_mem_ancestors divided closerIn above))

theorem binder_eq_some_iff_binds {name : Cursor} :
    binder file reference = some name ↔ ∃ scope, Binds file reference scope name := by
  rw [binder_eq_some_iff]
  constructor
  · rintro ⟨inner, scope, outer, divided, found, innerNone⟩
    exact ⟨scope, binds_of_lookup wellFormed placed divided found innerNone⟩
  · rintro ⟨scope, binds⟩
    have scopePlaced := placed_of_mem_ancestors placed binds.encloses
    obtain ⟨inner, outer, divided⟩ := List.append_of_mem binds.encloses
    refine ⟨inner, scope, outer, divided, ?_, fun closer closerIn => ?_⟩
    · exact (lookup_eq_some_iff wellFormed scopePlaced).mpr
        ⟨⟨binds.visible, binds.text⟩, binds.taken⟩
    · have member : closer ∈ reference.ancestors := by
        rw [divided]
        exact List.mem_append_left _ closerIn
      have above : scope ∈ closer.ancestors := by
        obtain ⟨before, behind, rfl⟩ := List.append_of_mem closerIn
        rw [List.append_assoc, List.cons_append] at divided
        rw [ancestors_of_append divided]
        exact List.mem_append_right _ List.mem_cons_self
      have closerPlaced := placed_of_mem_ancestors placed member
      exact (lookup_eq_none_iff wellFormed closerPlaced).mpr (binds.innermost closer member above)

theorem binder_eq_none_iff :
    binder file reference = none ↔ ∀ scope ∈ reference.ancestors,
      ∀ name, Visible scope reference name → file.text name ≠ file.text reference := by
  rw [binder, List.findSome?_eq_none_iff]
  exact forall₂_congr fun scope member =>
    lookup_eq_none_iff wellFormed (placed_of_mem_ancestors placed member)

end Resolution

end Scope

end Mutant
