import Mathlib.Data.List.Infix
import Mathlib.Data.List.TakeWhile
import Mutant.Diagnostics.Hint

/-!
Mentions of names in build output, and the hints that are read off them. A name is looked for between
two word boundaries, and `$` is no word character. So the names that are found are the words of the
output, while the identifiers of a program are longer runs of characters. The two agree as long as no
`$` is at an end of a name, or next to where it is written.
-/

namespace Mutant

namespace Text

def runsFrom (part : Char → Bool) (run : List Char) : List Char → List (List Char)
  | [] => if run.isEmpty then [] else [run.reverse]
  | character :: rest =>
      if part character then runsFrom part (character :: run) rest
      else if run.isEmpty then runsFrom part [] rest
      else run.reverse :: runsFrom part [] rest

def runs (part : Char → Bool) (text : List Char) : List (List Char) :=
  runsFrom part [] text

def words : List Char → List (List Char) :=
  runs isWord

def isIdentifierPart (character : Char) : Bool :=
  isWord character || character == '$'

def identifiers : List Char → List (List Char) :=
  runs isIdentifierPart

/-- The piece is in the text, and no further character of its kind is next to it. -/
def IsRun (part : Char → Bool) (piece text : List Char) : Prop :=
  ∃ front back, text = front ++ piece ++ back ∧ (∀ character ∈ piece, part character = true) ∧
    (∀ character ∈ front.getLast?, part character = false) ∧
    ∀ character ∈ back.head?, part character = false

section Runs

variable {part : Char → Bool} {piece : List Char}

theorem isRun_iff_eq {text : List Char} (whole : ∀ character ∈ text, part character = true) :
    IsRun part piece text ↔ piece = text := by
  constructor
  · rintro ⟨front, back, rfl, -, before, after⟩
    have noFront : front = [] := by
      by_contra some
      have last := List.getLast?_eq_some_getLast some
      have here := whole (front.getLast some) (by simp)
      simp [before _ last] at here
    have noBack : back = [] := by
      by_contra some
      obtain ⟨character, rest, rfl⟩ := List.exists_cons_of_ne_nil some
      have here := whole character (by simp)
      simp [after character rfl] at here
    rw [noFront, noBack, List.nil_append, List.append_nil]
  · rintro rfl
    exact ⟨[], [], by simp, whole, by simp, by simp⟩

theorem not_isRun_nil (nonempty : piece ≠ []) : ¬IsRun part piece [] := by
  rw [isRun_iff_eq (List.forall_mem_nil _)]
  exact nonempty

theorem append_cons_eq_append_iff {other : Char} (absent : other ∉ piece)
    {first second front back : List Char} :
    first ++ other :: second = front ++ piece ++ back ↔
      (∃ rest, first = front ++ piece ++ rest ∧ back = rest ++ other :: second) ∨
      ∃ rest, front = first ++ other :: rest ∧ second = rest ++ piece ++ back := by
  constructor
  · intro same
    -- Both sides are cut in two: the piece lies before the cut, behind it, or would be cut itself.
    rcases List.append_eq_append_iff.mp same with ⟨rest, before, after⟩ | ⟨rest, before, after⟩
    · cases rest with
      | nil =>
        rw [List.append_nil] at before
        exact Or.inl ⟨[], by rw [before, List.append_nil], after.symm⟩
      | cons head rest =>
        obtain ⟨rfl, rfl⟩ := List.cons.inj after
        rcases List.append_eq_append_iff.mp before with ⟨more, -, inside⟩ | ⟨more, outside, inside⟩
        · exact absurd (inside ▸ List.mem_append_right more List.mem_cons_self) absent
        · cases more with
          | nil =>
            rw [List.nil_append] at inside
            exact absurd (inside ▸ List.mem_cons_self) absent
          | cons first more =>
            obtain ⟨rfl, rfl⟩ := List.cons.inj inside
            exact Or.inr ⟨more, outside, rfl⟩
    · exact Or.inl ⟨rest, before, after⟩
  · rintro (⟨rest, rfl, rfl⟩ | ⟨rest, rfl, rfl⟩) <;>
      simp only [List.append_assoc, List.cons_append]

theorem forall_mem_some_getD {other : Char} (divides : part other = false)
    (neighbour : Option Char) :
    (∀ character ∈ some (neighbour.getD other), part character = false) ↔
      ∀ character ∈ neighbour, part character = false := by
  cases neighbour <;> simp [divides]

theorem isRun_append_cons_iff {other : Char} (divides : part other = false)
    (first second : List Char) :
    IsRun part piece (first ++ other :: second) ↔
      IsRun part piece first ∨ IsRun part piece second := by
  have ends : ∀ rest, (first ++ other :: rest).getLast? = some (rest.getLast?.getD other) := by
    simp [List.getLast?_cons]
  have begins : ∀ rest, (rest ++ other :: second).head? = some (rest.head?.getD other) := by
    simp [List.head?_append]
  constructor
  · rintro ⟨front, back, divided, inner, before, after⟩
    have absent : other ∉ piece := fun member => by simp [inner other member] at divides
    rcases (append_cons_eq_append_iff absent).mp divided with ⟨rest, rfl, rfl⟩ | ⟨rest, rfl, rfl⟩
    · rw [begins, forall_mem_some_getD divides] at after
      exact Or.inl ⟨front, rest, rfl, inner, before, after⟩
    · rw [ends, forall_mem_some_getD divides] at before
      exact Or.inr ⟨rest, back, rfl, inner, before, after⟩
  · rintro (⟨front, back, rfl, inner, before, after⟩ | ⟨front, back, rfl, inner, before, after⟩)
    · refine ⟨front, back ++ other :: second, by simp, inner, before, ?_⟩
      rwa [begins, forall_mem_some_getD divides]
    · refine ⟨first ++ other :: front, back, by simp, inner, ?_, after⟩
      rwa [ends, forall_mem_some_getD divides]

theorem mem_runsFrom_iff (nonempty : piece ≠ []) {run text : List Char}
    (inner : ∀ character ∈ run, part character = true) :
    piece ∈ runsFrom part run text ↔ IsRun part piece (run.reverse ++ text) := by
  fun_induction runsFrom part run text with
  | case1 run empty =>
    rw [List.isEmpty_iff.mp empty]
    exact iff_of_false List.not_mem_nil (not_isRun_nil nonempty)
  | case2 run some =>
    rw [List.append_nil, isRun_iff_eq (by simpa using inner), List.mem_singleton]
  | case3 run character rest here ih =>
    rw [ih (List.forall_mem_cons.mpr ⟨here, inner⟩), List.reverse_cons, List.append_assoc,
      List.singleton_append]
  | case4 run character rest other empty ih =>
    rw [ih (List.forall_mem_nil _), isRun_append_cons_iff (by simpa using other),
      List.isEmpty_iff.mp empty]
    exact (or_iff_right (not_isRun_nil nonempty)).symm
  | case5 run character rest other some ih =>
    have whole : IsRun part piece run.reverse ↔ piece = run.reverse :=
      isRun_iff_eq (by simpa using inner)
    rw [List.mem_cons, ih (List.forall_mem_nil _), isRun_append_cons_iff (by simpa using other),
      whole]
    rfl

theorem mem_runs_iff (nonempty : piece ≠ []) {text : List Char} :
    piece ∈ runs part text ↔ IsRun part piece text :=
  mem_runsFrom_iff nonempty (List.forall_mem_nil _)

end Runs

end Text

namespace Mention

open Text

theorem isBoundary_iff {inner : Char} (word : isWord inner = true) (outer : Option Char) :
    isBoundary outer (some inner) = true ↔ ∀ character ∈ outer, isWord character = false := by
  cases outer <;> simp [isBoundary, word]

theorem isBoundary_comm (before after : Option Char) :
    isBoundary before after = isBoundary after before :=
  bne_comm

/-- The name is written between two word boundaries. -/
def Delimited (name text : List Char) : Prop :=
  ∃ front back, text = front ++ name ++ back ∧ isBoundary front.getLast? name.head? = true ∧
    isBoundary name.getLast? back.head? = true

section Occurrences

variable {name : List Char} (nonempty : name ≠ [])

include nonempty

theorem beginsAt_iff (before : Option Char) (text : List Char) :
    beginsAt name before text = true ↔
      ∃ back, text = name ++ back ∧ isBoundary before name.head? = true ∧
        isBoundary name.getLast? back.head? = true := by
  have first : ∀ back : List Char, (name ++ back).head? = name.head? := fun back =>
    List.head?_append_of_ne_nil name nonempty
  have last : name.getLast?.or before = name.getLast? := by
    rw [List.getLast?_eq_some_getLast nonempty]
    rfl
  rw [beginsAt, last, Bool.and_eq_true, Bool.and_eq_true, List.isPrefixOf_iff_prefix]
  constructor
  · rintro ⟨⟨⟨back, rfl⟩, left⟩, right⟩
    rw [first] at left
    rw [List.drop_left] at right
    exact ⟨back, rfl, left, right⟩
  · rintro ⟨back, rfl, left, right⟩
    rw [first, List.drop_left]
    exact ⟨⟨List.prefix_append name back, left⟩, right⟩

theorem occursFrom_iff (before : Option Char) (text : List Char) :
    occursFrom name before text = true ↔
      ∃ front back, text = front ++ name ++ back ∧
        isBoundary (front.getLast?.or before) name.head? = true ∧
        isBoundary name.getLast? back.head? = true := by
  induction text generalizing before with
  | nil =>
    rw [occursFrom, beginsAt_iff nonempty]
    constructor
    · rintro ⟨back, none, -⟩
      exact absurd (List.append_eq_nil_iff.mp none.symm).1 nonempty
    · rintro ⟨front, back, none, -⟩
      exact absurd (List.append_eq_nil_iff.mp (List.append_eq_nil_iff.mp none.symm).1).2 nonempty
  | cons character rest ih =>
    have moved : ∀ front : List Char, (character :: front).getLast?.or before =
        front.getLast?.or (some character) := by
      intro front
      rw [List.getLast?_cons]
      cases front.getLast? <;> rfl
    rw [occursFrom, Bool.or_eq_true, beginsAt_iff nonempty, ih]
    constructor
    · rintro (⟨back, here, left, right⟩ | ⟨front, back, rfl, left, right⟩)
      · exact ⟨[], back, here, left, right⟩
      · exact ⟨character :: front, back, rfl, by rwa [moved], right⟩
    · rintro ⟨front, back, divided, left, right⟩
      cases front with
      | nil => exact Or.inl ⟨back, divided, left, right⟩
      | cons first front =>
        obtain ⟨rfl, rfl⟩ := List.cons.inj divided
        rw [moved] at left
        exact Or.inr ⟨front, back, rfl, left, right⟩

/-- A mention is found exactly where a name is written between two word boundaries. -/
theorem occurs_iff_delimited (text : List Char) : occurs name text = true ↔ Delimited name text := by
  rw [occurs, occursFrom_iff nonempty]
  simp only [Option.or_none]
  rfl

end Occurrences

/-- The word boundaries around a name are where characters of one kind end. -/
structure Settled (part : Char → Bool) (name text : List Char) : Prop where
  nonempty : name ≠ []
  spelled : ∀ character ∈ name, part character = true
  first : ∀ character ∈ name.head?, isWord character = true
  last : ∀ character ∈ name.getLast?, isWord character = true
  neighbours : ∀ front back, text = front ++ name ++ back →
    (∀ character ∈ front.getLast?, part character = isWord character) ∧
      ∀ character ∈ back.head?, part character = isWord character

variable {part : Char → Bool} {name text : List Char}

/-- A name is mentioned exactly when it is one of the runs. -/
theorem Settled.occurs_iff_mem_runs (settled : Settled part name text) :
    occurs name text = true ↔ name ∈ runs part text := by
  have head := List.head?_eq_some_head settled.nonempty
  have last := List.getLast?_eq_some_getLast settled.nonempty
  rw [occurs_iff_delimited settled.nonempty, mem_runs_iff settled.nonempty]
  refine exists₂_congr fun front back => and_congr_right fun written => ?_
  obtain ⟨before, after⟩ := settled.neighbours front back written
  rw [and_iff_right settled.spelled, head, last, isBoundary_comm (some _),
    isBoundary_iff (settled.first _ head), isBoundary_iff (settled.last _ last)]
  refine and_congr (forall₂_congr fun character next => ?_) (forall₂_congr fun character next => ?_)
  · rw [before character next]
  · rw [after character next]

structure IsIdentifier (name : List Char) : Prop where
  nonempty : name ≠ []
  spelled : ∀ character ∈ name, isIdentifierPart character = true

structure Bare (name text : List Char) : Prop where
  first : name.head? ≠ some '$'
  last : name.getLast? ≠ some '$'
  neighbours : ∀ front back, text = front ++ name ++ back →
    front.getLast? ≠ some '$' ∧ back.head? ≠ some '$'

theorem bare_of_not_mem (inName : '$' ∉ name) (inText : '$' ∉ text) : Bare name text where
  first head := inName (List.mem_of_mem_head? head)
  last last := inName (List.mem_of_mem_getLast? last)
  neighbours := by
    rintro front back rfl
    rw [List.mem_append, List.mem_append, not_or, not_or] at inText
    exact ⟨fun last => inText.1.1 (List.mem_of_mem_getLast? last),
      fun head => inText.2 (List.mem_of_mem_head? head)⟩

theorem isIdentifierPart_eq {character : Char} (other : character ≠ '$') :
    isIdentifierPart character = isWord character := by
  rw [isIdentifierPart, beq_false_of_ne other, Bool.or_false]

theorem not_isBlank_of_isIdentifierPart {character : Char}
    (spelled : isIdentifierPart character = true) : isBlank character = false := by
  have blanks : (blankRanges.all fun range =>
      (List.range' range.1 (range.2 + 1 - range.1)).all fun value =>
        !isIdentifierPart (Char.ofNat value)) = true := by decide +kernel
  by_contra blank
  rw [Bool.not_eq_false, isBlank, List.any_eq_true] at blank
  obtain ⟨range, member, inside⟩ := blank
  rw [Bool.and_eq_true, decide_eq_true_iff, decide_eq_true_iff] at inside
  have listed : character.toNat ∈ List.range' range.1 (range.2 + 1 - range.1) :=
    List.mem_range'_1.mpr (by omega)
  have found := List.all_eq_true.mp (List.all_eq_true.mp blanks range member) _ listed
  rw [Char.ofNat_toNat, spelled] at found
  cases found

namespace IsIdentifier

variable (identifier : IsIdentifier name)

include identifier

theorem strip_eq : strip name = name := by
  have firm : ∀ text : List Char, (∀ character ∈ text, isIdentifierPart character = true) →
      text.dropWhile isBlank = text := by
    intro text spelled
    refine List.dropWhile_eq_self_iff.mpr fun some => ?_
    simp [not_isBlank_of_isIdentifierPart (spelled _ (List.getElem_mem some))]
  calc strip name = stripRight name := by rw [strip, stripLeft, firm name identifier.spelled]
    _ = name.reverse.reverse := by
      rw [stripRight, firm name.reverse (by simpa using identifier.spelled)]
    _ = name := List.reverse_reverse name

/-- A name without `$` is found as a word. -/
theorem settled_isWord (plain : '$' ∉ name) (text : List Char) : Settled isWord name text := by
  have spelled : ∀ character ∈ name, isWord character = true := by
    intro character member
    rw [← isIdentifierPart_eq fun same => plain (same ▸ member)]
    exact identifier.spelled character member
  exact {
    nonempty := identifier.nonempty
    spelled
    first := fun character head => spelled character (List.mem_of_mem_head? head)
    last := fun character last => spelled character (List.mem_of_mem_getLast? last)
    neighbours := fun _ _ _ => ⟨fun _ _ => rfl, fun _ _ => rfl⟩ }

theorem settled_isIdentifierPart (bare : Bare name text) : Settled isIdentifierPart name text where
  nonempty := identifier.nonempty
  spelled := identifier.spelled
  first := by
    intro character head
    rw [← isIdentifierPart_eq fun same => bare.first (same ▸ head)]
    exact identifier.spelled character (List.mem_of_mem_head? head)
  last := by
    intro character last
    rw [← isIdentifierPart_eq fun same => bare.last (same ▸ last)]
    exact identifier.spelled character (List.mem_of_mem_getLast? last)
  neighbours := by
    intro front back written
    obtain ⟨before, after⟩ := bare.neighbours front back written
    exact ⟨fun character next => isIdentifierPart_eq fun same => before (same ▸ next),
      fun character next => isIdentifierPart_eq fun same => after (same ▸ next)⟩

end IsIdentifier

end Mention

end Mutant
