import Mutant.Proofs.Highlights
import Mutant.Proofs.Snippets

/-!
What a snippet shows: the lines that are close to a line, in their order and each of them once, the
line itself with a mark, with its names highlighted and with a caret below it.
-/

namespace Mutant.Snippet

open Text Mention

/-- The lines at most `context` away from a line, with their numbers. -/
def around (lines : List (List Char)) (line context : Int) : List (List Char × Nat) :=
  (lines.zipIdx 1).filter fun numbered => ((numbered.2 : Int) - line).natAbs ≤ context

/-- The line itself is marked. A caret follows if it has a column to point at. -/
def shownRows (line : Int) (column : Option Int) (names : List String) (numbered : List Char × Nat) :
    List (List Char) :=
  if (numbered.2 : Int) = line then
    row ">>" numbered.2 (bracketed names numbered.1) ::
      (column.filter fun column => 0 < column).toList.map caretRow
  else [row "  " numbered.2 numbered.1]

section Numbered

variable {α : Type} (items : List α) (base count : Nat)

theorem zipIdx_drop : (items.drop count).zipIdx (base + count) =
    (items.zipIdx base).filter fun numbered => base + count ≤ numbered.2 := by
  induction items generalizing base count with
  | nil => simp
  | cons item items ih =>
    cases count with
    | zero =>
      refine (List.filter_eq_self.mpr fun numbered member => ?_).symm
      exact decide_eq_true (List.le_snd_of_mem_zipIdx member)
    | succ count =>
      have next := ih (base + 1) count
      rw [Nat.add_assoc, Nat.add_comm 1 count] at next
      rw [List.drop_succ_cons, next, List.zipIdx_cons, List.filter_cons_of_neg (by simp)]

theorem zipIdx_take : (items.take count).zipIdx base =
    (items.zipIdx base).filter fun numbered => numbered.2 < base + count := by
  induction items generalizing base count with
  | nil => simp
  | cons item items ih =>
    cases count with
    | zero =>
      refine (List.filter_eq_nil_iff.mpr fun numbered member => ?_).symm
      simp [List.le_snd_of_mem_zipIdx member]
    | succ count =>
      have next := ih (base + 1) count
      rw [Nat.add_assoc, Nat.add_comm 1 count] at next
      rw [List.take_succ_cons, List.zipIdx_cons, next, List.zipIdx_cons,
        List.filter_cons_of_pos (by simp)]

end Numbered

section Rows

variable {names : List String} (words : Words names) (distinct : names.Nodup) (column : Option Int)

include words distinct

theorem rowsAt_eq (marked : Int) (index : Nat) (text : List Char) :
    rowsAt marked column names index text =
      .ok (shownRows (marked + 1) column names (text, index + 1)) := by
  have number : ((index + 1 : Nat) : Int) = marked + 1 ↔ (index : Int) = marked := by omega
  simp only [rowsAt, shownRows, number, markedRows, highlightAll_eq words distinct]
  split
  · cases column with
    | none => rfl
    | some column =>
      rw [Option.filter_some]
      by_cases pointed : 0 < column <;> simp [pointed, Except.map]
  · rfl

theorem rowsFrom_eq (marked : Int) (first : Nat) (lines : List (List Char)) :
    rowsFrom marked column names first lines =
      .ok ((lines.zipIdx (first + 1)).flatMap (shownRows (marked + 1) column names)) := by
  induction lines generalizing first with
  | nil => rfl
  | cons text rest ih =>
    rw [rowsFrom, rowsAt_eq words distinct, ih, List.zipIdx_cons, List.flatMap_cons]

theorem rows_eq (lines : List (List Char)) (line context : Int) :
    rows lines line column names context =
      .ok ((around lines line context).flatMap (shownRows line column names)) := by
  have back : line - 1 + 1 = line := by omega
  rw [rows, rowsFrom_eq words distinct, back, Nat.add_comm, zipIdx_take, zipIdx_drop,
    List.filter_filter, around]
  congr 2
  refine List.filter_congr fun numbered member => ?_
  have after := List.le_snd_of_mem_zipIdx member
  have before := List.snd_lt_add_of_mem_zipIdx member
  rw [← Bool.decide_and, decide_eq_decide]
  omega

end Rows

/-- What a snippet shows of a source without guillemets. It is made of the lines that are close to the
line asked for, whatever the order of the names is: that line has a mark and a caret below it if there is
a column to point at. The mark is on the line with every word that is one of the names between
guillemets, and without these it is the line as it was. -/
theorem render_highlights {disk : Disk} {file : String} {content : Bytes}
    (readable : disk.read (Path.ofText file) = .ok content)
    (nonempty : sourceLines content ≠ [])
    (unmarked : ∀ text ∈ sourceLines content, Unmarked text) {names : List String}
    (words : Words names) (distinct : names.Nodup) (line : Int) (column : Option Int) :
    (∀ order : List String, order.Perm names →
      render disk (some file) (some line) column order defaultContext =
        .ok (String.ofList (joinLines
          ((around (sourceLines content) line defaultContext).flatMap
            (shownRows line column names))))) ∧
      ∀ text ∈ sourceLines content, Highlights names text (bracketed names text) := by
  refine ⟨fun order reordered => ?_, fun text member =>
    highlights_bracketed words (unmarked text member)⟩
  have orderWords : Words order := fun name member => words name (reordered.mem_iff.mp member)
  have same : shownRows line column order = shownRows line column names := by
    funext numbered
    rw [shownRows, bracketed_congr fun _ => reordered.mem_iff]
    rfl
  have shown := rows_eq orderWords (reordered.nodup_iff.mpr distinct) column (sourceLines content) line
    defaultContext
  obtain ⟨mode, found⟩ := Disk.probe_of_read readable
  rw [render, found]
  simp only [readable, List.isEmpty_eq_false_iff.mpr nonempty, Bool.false_eq_true, if_false, shown,
    same]

def counts : List String :=
  ["count", "count_mt"]

theorem words_counts : Words counts :=
  List.forall_mem_cons.mpr ⟨.of_all (by decide) (by decide +kernel),
    List.forall_mem_singleton.mpr (.of_all (by decide) (by decide +kernel))⟩

theorem counts_highlighted :
    render (sourceDisk "int a;\nint count_mt = count;") (some "A.java") (some 2) (some 5)
        ["count_mt", "count"] defaultContext =
      .ok "      1 | int a;\n>>    2 | int «count_mt» = «count»;\n   ____|     ^" := by
  have unmarked : ∀ text ∈ sourceLines (Utf8.ofString "int a;\nint count_mt = count;"),
      Unmarked text := by
    decide +kernel
  obtain ⟨shown, -⟩ := render_highlights (read_sourceDisk "int a;\nint count_mt = count;")
    (by decide +kernel) unmarked words_counts (by decide) 2 (some 5)
  exact (shown _ (List.Perm.swap _ _ _)).trans (congrArg Except.ok (by decide +kernel))

end Mutant.Snippet
