import Mutant.Diagnostics.Snippet
import Mutant.Proofs.CompilerLines
import Mutant.Proofs.Locations

/-!
The marked row of a snippet. Whatever is asked for, one row at most is marked, and it shows the line
with the given number as lines are counted here. That is the line which the compiler means as long as
nothing but line feeds and carriage returns ends a line up to there.
-/

namespace Mutant.Snippet

open Text

def isMarked (row : List Char) : Bool :=
  ">>".toList.isPrefixOf row

theorem isMarked_row (number : Nat) (text : List Char) : isMarked (row ">>" number text) = true :=
  rfl

theorem isMarked_row_blank (number : Nat) (text : List Char) :
    isMarked (row "  " number text) = false :=
  rfl

theorem isMarked_caretRow (column : Int) : isMarked (caretRow column) = false :=
  rfl

theorem row_inj {mark : String} {number : Nat} {first second : List Char}
    (same : row mark number first = row mark number second) : first = second :=
  List.append_cancel_left same

theorem plain_numberText (number : Nat) : Plain (numberText number) := by
  refine plain_append.mpr ⟨plain_replicate_blank _, fun digit member => ?_⟩
  refine isLineEnd_of_isDigit ?_
  rw [Nat.toString_eq_repr, Nat.repr, String.toList_ofList] at member
  exact Nat.isDigit_of_mem_toDigits (by decide) (by decide) member

theorem plain_row {mark : String} (plainMark : Plain mark.toList) (number : Nat) {text : List Char}
    (plain : Plain text) : Plain (row mark number text) :=
  plain_append.mpr ⟨plain_append.mpr ⟨plain_append.mpr ⟨plainMark,
    plain_cons.mpr ⟨by decide, plain_numberText number⟩⟩, isLineEnd_of_all (by decide)⟩, plain⟩

theorem plain_caretRow (column : Int) : Plain (caretRow column) :=
  plain_append.mpr ⟨plain_append.mpr ⟨isLineEnd_of_all (by decide), plain_replicate_blank _⟩,
    isLineEnd_of_all (by decide)⟩

def markedLine? (marked first : Nat) (lines : List (List Char)) : Option (List Char) :=
  if first ≤ marked then lines[marked - first]? else none

theorem markedLine?_nil (marked first : Nat) : markedLine? marked first [] = none := by
  rw [markedLine?, List.getElem?_nil, ite_self]

theorem markedLine?_here (marked : Nat) (text : List Char) (rest : List (List Char)) :
    markedLine? marked marked (text :: rest) = some text := by
  rw [markedLine?, if_pos (Nat.le_refl _), Nat.sub_self, List.getElem?_cons_zero]

theorem markedLine?_past (marked : Nat) (lines : List (List Char)) :
    markedLine? marked (marked + 1) lines = none :=
  if_neg (Nat.not_succ_le_self marked)

theorem markedLine?_cons_of_ne {marked first : Nat} (other : first ≠ marked) (text : List Char)
    (rest : List (List Char)) :
    markedLine? marked first (text :: rest) = markedLine? marked (first + 1) rest := by
  simp only [markedLine?]
  by_cases early : first < marked
  · have next : marked - first = (marked - (first + 1)) + 1 := by omega
    rw [if_pos early.le, if_pos (Nat.succ_le_of_lt early), next, List.getElem?_cons_succ]
  · rw [if_neg (by omega), if_neg (by omega)]

theorem markedLine?_window {marked first count : Nat} (start : first ≤ marked)
    (stop : marked < first + count) (lines : List (List Char)) :
    markedLine? marked first ((lines.drop first).take count) = lines[marked]? := by
  rw [markedLine?, if_pos start, List.getElem?_take_of_lt (by omega), List.getElem?_drop,
    Nat.add_sub_cancel' start]

/-- Rows that can be cut apart again, with the marked ones among them. -/
structure Presents (rows marked : List (List Char)) : Prop where
  plain : ∀ row ∈ rows, Plain row
  filter : rows.filter isMarked = marked

theorem Presents.append {here later first second : List (List Char)} (one : Presents here first)
    (other : Presents later second) : Presents (here ++ later) (first ++ second) where
  plain := List.forall_mem_append.mpr ⟨one.plain, other.plain⟩
  filter := by rw [List.filter_append, one.filter, other.filter]

theorem presents_row_marked (number : Nat) {text : List Char} (plain : Plain text) :
    Presents [row ">>" number text] [row ">>" number text] where
  plain := List.forall_mem_singleton.mpr (plain_row (isLineEnd_of_all (by decide)) number plain)
  filter := List.filter_cons_of_pos (isMarked_row number text)

theorem presents_row_blank (number : Nat) {text : List Char} (plain : Plain text) :
    Presents [row "  " number text] [] where
  plain := List.forall_mem_singleton.mpr (plain_row (isLineEnd_of_all (by decide)) number plain)
  filter := List.filter_cons_of_neg (by rw [isMarked_row_blank]; decide)

theorem presents_caretRow (column : Int) : Presents [caretRow column] [] where
  plain := List.forall_mem_singleton.mpr (plain_caretRow column)
  filter := List.filter_cons_of_neg (by rw [isMarked_caretRow]; decide)

section Rows

variable (marked : Nat) (column : Option Int)

theorem presents_rowsAt {text : List Char} (plain : Plain text) :
    ∃ rows, rowsAt marked column [] marked text = .ok rows ∧
      Presents rows [row ">>" (marked + 1) text] := by
  have line := presents_row_marked (marked + 1) plain
  refine ⟨_, if_pos rfl, ?_⟩
  cases column with
  | none => exact line
  | some column =>
    by_cases pointed : 0 < column
    · simp only [if_pos pointed]
      exact line.append (presents_caretRow column)
    · simp only [if_neg pointed]
      exact line

theorem presents_rowsAt_of_ne {index : Nat} (other : index ≠ marked) {text : List Char}
    (plain : Plain text) :
    ∃ rows, rowsAt marked column [] index text = .ok rows ∧ Presents rows [] :=
  ⟨_, if_neg (by exact_mod_cast other), presents_row_blank (index + 1) plain⟩

/-- Without names to highlight, the rows of all lines can be shown, and what is marked is the marked
line. -/
theorem presents_rowsFrom (first : Nat) {lines : List (List Char)}
    (plain : ∀ line ∈ lines, Plain line) :
    ∃ rows, rowsFrom marked column [] first lines = .ok rows ∧
      Presents rows ((markedLine? marked first lines).toList.map (row ">>" (marked + 1))) := by
  induction lines generalizing first with
  | nil =>
    rw [markedLine?_nil]
    exact ⟨[], rfl, List.forall_mem_nil _, rfl⟩
  | cons text rest ih =>
    obtain ⟨here, others⟩ := List.forall_mem_cons.mp plain
    obtain ⟨later, laterRows, laterPresents⟩ := ih (first + 1) others
    by_cases same : first = marked
    · subst same
      obtain ⟨rows, shown, presents⟩ := presents_rowsAt first column here
      rw [markedLine?_past] at laterPresents
      rw [markedLine?_here]
      refine ⟨rows ++ later, ?_, presents.append laterPresents⟩
      rw [rowsFrom, shown, laterRows]
    · obtain ⟨rows, shown, presents⟩ := presents_rowsAt_of_ne marked column same here
      rw [markedLine?_cons_of_ne same]
      refine ⟨rows ++ later, ?_, presents.append laterPresents⟩
      rw [rowsFrom, shown, laterRows]

theorem presents_rows {lines : List (List Char)} (plain : ∀ line ∈ lines, Plain line)
    {line : List Char} (here : lines[marked]? = some line) {context : Int} (near : 0 ≤ context) :
    ∃ shown, rows lines (marked + 1) column [] context = .ok shown ∧
      Presents shown [row ">>" (marked + 1) line] := by
  have inside : marked < lines.length := (List.getElem?_eq_some_iff.mp here).1
  have back : (marked + 1 - 1 : Int) = marked := by omega
  rw [rows, back]
  -- Where the window begins and ends does not matter, as long as the marked line is in it.
  generalize start : max 0 ((marked : Int) - context) = first
  generalize stop : min (lines.length - 1 : Int) (marked + context) = last
  have window : markedLine? marked first.toNat
      ((lines.drop first.toNat).take (last - first + 1).toNat) = lines[marked]? :=
    markedLine?_window (by omega) (by omega) lines
  have plainWindow : ∀ piece ∈ (lines.drop first.toNat).take (last - first + 1).toNat,
      Plain piece := fun piece member =>
    plain piece (List.mem_of_mem_drop (List.mem_of_mem_take member))
  obtain ⟨shown, found, presents⟩ := presents_rowsFrom marked column first.toNat plainWindow
  rw [window, here] at presents
  exact ⟨shown, found, presents⟩

end Rows

/-- One row of the output is marked. It has this number and shows this line. -/
def Marks (output : Except DiagnosticsError String) (number : Nat) (line : List Char) : Prop :=
  ∃ text, output = .ok text ∧ (lines text.toList).filter isMarked = [row ">>" number line]

theorem Marks.unique {output : Except DiagnosticsError String} {number : Nat}
    {first second : List Char} (one : Marks output number first)
    (other : Marks output number second) : first = second := by
  obtain ⟨text, shown, marked⟩ := one
  obtain ⟨same, shownToo, markedToo⟩ := other
  obtain rfl := Except.ok.inj (shown.symm.trans shownToo)
  exact row_inj (List.singleton_inj.mp (marked.symm.trans markedToo))

theorem filter_lines_joinLines {shown marked : List (List Char)} (presents : Presents shown marked) :
    (lines (joinLines shown)).filter isMarked = marked := by
  rw [← presents.filter]
  rcases lines_joinLines presents.plain with same | longer
  · rw [← same]
  · conv_rhs => rw [longer]
    rw [List.filter_append]
    exact (List.append_nil _).symm

section Render

variable {disk : Disk} {file : String} {content : Bytes}
  (readable : disk.read (Path.ofText file) = .ok content)
  {context : Int} (near : 0 ≤ context) (column : Option Int)

include readable near

theorem marks_render {index : Nat} {line : List Char}
    (here : (sourceLines content)[index]? = some line) :
    Marks (render disk (some file) (some (index + 1)) column [] context) (index + 1) line := by
  have plain : ∀ piece ∈ sourceLines content, Plain piece := fun _ member =>
    plain_of_mem_lines member
  obtain ⟨shown, ok, presents⟩ := presents_rows index column plain here near
  have nonempty : (sourceLines content).isEmpty = false :=
    List.isEmpty_eq_false_iff.mpr (List.ne_nil_of_mem (List.mem_of_getElem? here))
  refine ⟨String.ofList (joinLines shown), ?_, ?_⟩
  · obtain ⟨mode, found⟩ := Disk.probe_of_read readable
    rw [render, found]
    simp only [readable, nonempty, ok]
    rfl
  · rw [String.toList_ofList]
    exact filter_lines_joinLines presents

theorem marks_render_iff {index : Nat} (inside : index < (sourceLines content).length)
    {line : List Char} :
    Marks (render disk (some file) (some (index + 1)) column [] context) (index + 1) line ↔
      (sourceLines content)[index]? = some line := by
  refine ⟨fun marks => ?_, marks_render readable near column⟩
  have here : (sourceLines content)[index]? = some (sourceLines content)[index] :=
    List.getElem?_eq_getElem inside
  rw [here, (marks_render readable near column here).unique marks]

/-- Whichever line of the compiler is asked for, one row is marked and has its number. The first lines
are all shown there as the compiler has them exactly when nothing in them ends a line here but not for
the compiler. -/
theorem render_marks_compilerLines (count : Nat) :
    (∀ index < (compilerLines (Utf8.decodeLossy content)).length, ∃ line,
      Marks (render disk (some file) (some (index + 1)) column [] context) (index + 1) line) ∧
    ((∀ index < count, ∀ line, (compilerLines (Utf8.decodeLossy content))[index]? = some line →
      Marks (render disk (some file) (some (index + 1)) column [] context) (index + 1) line) ↔
      ∀ line ∈ (compilerLines (Utf8.decodeLossy content)).take count, Plain line) := by
  have inside : ∀ index < (compilerLines (Utf8.decodeLossy content)).length,
      index < (sourceLines content).length := fun index early =>
    early.trans_le (length_compilerLines_le _)
  constructor
  · intro index early
    exact ⟨_, marks_render readable near column (List.getElem?_eq_getElem (inside index early))⟩
  · rw [← forall_getElem?_iff]
    refine forall₄_congr fun index _ line here => ?_
    exact marks_render_iff readable near column
      (inside index (List.getElem?_eq_some_iff.mp here).1)

end Render

def sourceDisk (content : String) : Disk where
  root := .folder [("A.java", .file (Utf8.ofString content) Disk.newMode)]

theorem read_sourceDisk (content : String) :
    (sourceDisk content).read (Path.ofText "A.java") = .ok (Utf8.ofString content) :=
  rfl

theorem plain_source_marks :
    (0 ≤ defaultContext ∧ ∀ line ∈ [['a'], ['b']], Plain line) ∧
      Marks (render (sourceDisk "a\r\nb") (some "A.java") (some 2) none [] defaultContext) 2 ['b'] := by
  have near : 0 ≤ defaultContext := by decide
  have plain : ∀ line ∈ [['a'], ['b']], Plain line := fun line member =>
    isLineEnd_of_all (by revert line member; decide)
  have marks := render_marks_compilerLines (read_sourceDisk "a\r\nb") near none 2
  exact ⟨⟨near, plain⟩, marks.2.mpr plain 1 (by decide) ['b'] rfl⟩

/-- A form feed ends a line here. The compiler reads on. -/
theorem form_feed_not_marks :
    (compilerLines (Utf8.decodeLossy (Utf8.ofString "a\x0cb\nc")))[1]? = some ['c'] ∧
      ¬Marks (render (sourceDisk "a\x0cb\nc") (some "A.java") (some 2) none [] defaultContext) 2
        ['c'] := by
  refine ⟨rfl, fun marks => ?_⟩
  have near : 0 ≤ defaultContext := by decide
  have here : (sourceLines (Utf8.ofString "a\x0cb\nc"))[1]? = some ['b'] := rfl
  have shown := marks_render (read_sourceDisk "a\x0cb\nc") near none here
  exact absurd (marks.unique shown) (by decide)

end Mutant.Snippet
