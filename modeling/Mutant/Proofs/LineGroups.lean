import Mutant.Proofs.Transcripts

/-!
Compiler errors as groups of lines. Every error takes a header, and the two lines after it if the
second of them has a caret; the groups follow one another without overlap, their text is kept as it
is, and no header is left out but between the lines of a group. This is so for every text of which
anything is read at all.
-/

namespace Mutant.Javac

structure Group where
  position : Nat
  size : Nat
deriving DecidableEq, Repr

def pointerBelow? (lines : List (List Char)) (position : Nat) : Option (List Char) :=
  lines[position + 2]?.filter fun pointer => pointer.contains caret

namespace Group

def Covers (group : Group) (index : Nat) : Prop :=
  group.position ≤ index ∧ index < group.position + group.size

/-- The error is read off the lines of the group: off a header, and off the caret two lines below it if
there is one. -/
structure Gives (lines : List (List Char)) (group : Group) (error : CompileError) : Prop where
  header : ∃ header, lines[group.position]?.bind header? = some header ∧
    error.line = some (Text.ofDigits header.digits) ∧
    error.message = String.ofList header.message
  size : group.size = if (pointerBelow? lines group.position).isSome then 3 else 1
  column : error.column =
    (pointerBelow? lines group.position).map fun pointer => pointer.idxOf caret + 1
  rawText : error.rawText =
    String.ofList (Text.joinLines ((lines.drop group.position).take group.size))

end Group

/-- From the line with index `start` on, the errors are those of the groups, one for each and in their
order. The groups do not overlap, and cover every line that is a header. -/
structure Grouped (lines : List (List Char)) (start : Nat) (groups : List Group)
    (errors : List CompileError) : Prop where
  gives : List.Forall₂ (Group.Gives lines) groups errors
  apart : groups.Pairwise fun first second => first.position + first.size ≤ second.position
  behind : ∀ group ∈ groups, start ≤ group.position
  covered : ∀ index, start ≤ index → (lines[index]?.bind header?).isSome = true →
    ∃ group ∈ groups, group.Covers index

namespace Grouped

variable {lines : List (List Char)} {start : Nat} {groups : List Group}
  {errors : List CompileError}

theorem done (last : lines.length ≤ start) : Grouped lines start [] [] where
  gives := .nil
  apart := .nil
  behind := by simp
  covered index later found := by
    rw [List.getElem?_eq_none (Nat.le_trans last later)] at found
    exact absurd found (by decide)

theorem other (rest : Grouped lines (start + 1) groups errors)
    (unread : lines[start]?.bind header? = none) : Grouped lines start groups errors where
  gives := rest.gives
  apart := rest.apart
  behind group member := Nat.le_of_succ_le (rest.behind group member)
  covered index later found := by
    refine rest.covered index (Nat.lt_of_le_of_ne later ?_) found
    rintro rfl
    rw [unread] at found
    exact absurd found (by decide)

theorem cons {size : Nat} {error : CompileError} (rest : Grouped lines (start + size) groups errors)
    (gives : Group.Gives lines ⟨start, size⟩ error) :
    Grouped lines start (⟨start, size⟩ :: groups) (error :: errors) where
  gives := .cons gives rest.gives
  apart := List.pairwise_cons.mpr ⟨rest.behind, rest.apart⟩
  behind group member := by
    rcases List.mem_cons.mp member with rfl | later
    · exact Nat.le_refl _
    · exact Nat.le_trans (Nat.le_add_right _ _) (rest.behind group later)
  covered index later found := by
    by_cases inside : index < start + size
    · exact ⟨_, List.mem_cons_self, later, inside⟩
    · obtain ⟨group, member, covers⟩ := rest.covered index (Nat.not_lt.mp inside) found
      exact ⟨group, List.mem_cons_of_mem _ member, covers⟩

end Grouped

theorem caretColumn_eq_idxOf (line : List Char) : caretColumn line = line.idxOf caret + 1 := by
  rw [caretColumn]
  congr 1
  induction line with
  | nil => rfl
  | cons character rest ih =>
    by_cases same : character = caret
    · subst same
      simp
    · simp [same, ih]

section Front

variable (front rest : List (List Char)) (line : List Char)

theorem getElem?_front (index : Nat) :
    (front ++ line :: rest)[front.length + index]? = (line :: rest)[index]? := by
  rw [List.getElem?_append_right (Nat.le_add_right _ _), Nat.add_sub_cancel_left]

theorem pointerBelow?_front : pointerBelow? (front ++ line :: rest) front.length =
    rest[1]?.filter fun pointer => pointer.contains caret := by
  rw [pointerBelow?, getElem?_front]
  rfl

end Front

theorem gives_alone {front rest : List (List Char)} {line : List Char} {header : Header}
    (found : header? line = some header)
    (plain : ∀ pointer, rest[1]? = some pointer → pointer.contains caret = false) (disk : Disk) :
    Group.Gives (front ++ line :: rest) ⟨front.length, 1⟩
      (Report.reading disk ⟨header, none, [line]⟩) := by
  have none : pointerBelow? (front ++ line :: rest) front.length = none := by
    rw [pointerBelow?_front, Option.filter_eq_none_iff]
    simpa using plain
  have first : (front ++ line :: rest)[front.length]? = some line := getElem?_front front rest line 0
  refine ⟨⟨header, ?_, rfl, rfl⟩, ?_, ?_, ?_⟩
  · rw [first, Option.bind_some, found]
  · rw [none]
    rfl
  · rw [none]
    rfl
  · rw [List.drop_left]
    rfl

theorem gives_pointed {front rest : List (List Char)} {line source pointer : List Char}
    {header : Header} (found : header? line = some header)
    (points : pointer.contains caret = true) (disk : Disk) :
    Group.Gives (front ++ line :: source :: pointer :: rest) ⟨front.length, 3⟩
      (Report.reading disk ⟨header, some (caretColumn pointer), [line, source, pointer]⟩) := by
  have below : pointerBelow? (front ++ line :: source :: pointer :: rest) front.length =
      some pointer := by
    rw [pointerBelow?_front]
    have second : (source :: pointer :: rest)[1]? = some pointer := rfl
    rw [second, Option.filter_some, if_pos points]
  have first : (front ++ line :: source :: pointer :: rest)[front.length]? = some line :=
    getElem?_front front _ line 0
  refine ⟨⟨header, ?_, rfl, rfl⟩, ?_, ?_, ?_⟩
  · rw [first, Option.bind_some, found]
  · rw [below]
    rfl
  · rw [below, Option.map_some, ← caretColumn_eq_idxOf]
    rfl
  · rw [List.drop_left]
    rfl

theorem exists_grouped {lines : List (List Char)} {reports : List Report}
    (divided : Divided lines reports) (disk : Disk) (front : List (List Char)) :
    ∃ groups, Grouped (front ++ lines) front.length groups (reports.map (Report.reading disk)) := by
  induction divided generalizing front with
  | done => exact ⟨[], .done (by simp)⟩
  | @other line rest reports unread _ ih =>
    obtain ⟨groups, grouped⟩ := ih (front ++ [line])
    rw [List.append_assoc, List.singleton_append, List.length_append] at grouped
    refine ⟨groups, grouped.other ?_⟩
    have first : (front ++ line :: rest)[front.length]? = some line := getElem?_front front rest line 0
    rw [first, Option.bind_some, unread]
  | @alone line rest reports header found plain _ ih =>
    obtain ⟨groups, grouped⟩ := ih (front ++ [line])
    rw [List.append_assoc, List.singleton_append, List.length_append] at grouped
    exact ⟨_, grouped.cons (gives_alone found plain disk)⟩
  | @pointed line source pointer rest reports header found points _ ih =>
    obtain ⟨groups, grouped⟩ := ih (front ++ [line, source, pointer])
    rw [List.append_assoc, List.length_append] at grouped
    exact ⟨_, grouped.cons (gives_pointed found points disk)⟩

def ReadInGroups (disk : Disk) (text : List Char) : Prop :=
  ∃ errors groups, read disk text = .ok errors ∧ Grouped (Text.lines text) 0 groups errors

/-- Every text divides into reports. Its errors are those of groups of lines which follow one another,
as soon as all of the reports can be read; otherwise nothing is read of it. -/
theorem readInGroups_iff (disk : Disk) (text : List Char) :
    ∃ reports, Divided (Text.lines text) reports ∧
      (ReadInGroups disk text ↔ ∀ report ∈ reports, report.Readable disk) := by
  obtain ⟨reports, divided⟩ := exists_divided (Text.lines text)
  refine ⟨reports, divided, ?_, fun readable => ?_⟩
  · rintro ⟨errors, groups, taken, _⟩
    exact readable_of_read divided taken
  · obtain ⟨groups, grouped⟩ := exists_grouped divided disk []
    exact ⟨_, groups, (read_eq_ok_iff divided).mpr readable, grouped⟩

theorem overlong_not_readInGroups : ¬ReadInGroups {} overlong.headerLine := by
  rintro ⟨errors, groups, taken, _⟩
  have single : Divided [overlong.headerLine]
      [⟨⟨overlong.path, overlong.digits, overlong.message⟩, none, [overlong.headerLine]⟩] :=
    .alone overlong.header?_headerLine (by simp) .done
  have lines : Text.lines overlong.headerLine = [overlong.headerLine] := by
    decide +kernel
  have readable := readable_of_read (lines ▸ single) taken
  have short := (readable _ List.mem_cons_self).2
  rw [Report.path, rejects_overlong] at short
  exact absurd short (by decide)

end Mutant.Javac
