import Mutant.Proofs.HeaderLines

/-!
Lines as a compiler counts them, against the lines at which a source is cut here. A compiler ends a
line at a line feed, at a carriage return, or at both together. As a source is cut at further
characters too, a line of the compiler gives one or more lines; it gives itself exactly when none of
these characters is in it.
-/

namespace Mutant.Text

def compilerLinesFrom (line : List Char) : List Char → List (List Char)
  | [] => if line.isEmpty then [] else [line.reverse]
  | '\r' :: '\n' :: rest => line.reverse :: compilerLinesFrom [] rest
  | character :: rest =>
      if character = '\n' ∨ character = '\r' then line.reverse :: compilerLinesFrom [] rest
      else compilerLinesFrom (character :: line) rest

/-- The lines of a text as a compiler counts them, without their ends. -/
def compilerLines (text : List Char) : List (List Char) :=
  compilerLinesFrom [] text

/-- Nothing in the line ends a line. -/
def Plain (line : List Char) : Prop :=
  ∀ character ∈ line, isLineEnd character = false

theorem plain_nil : Plain [] := by simp [Plain]

theorem plain_append {first second : List Char} :
    Plain (first ++ second) ↔ Plain first ∧ Plain second :=
  List.forall_mem_append

theorem plain_cons {character : Char} {rest : List Char} :
    Plain (character :: rest) ↔ isLineEnd character = false ∧ Plain rest :=
  List.forall_mem_cons

theorem plain_replicate_blank (count : Nat) : Plain (List.replicate count ' ') := by
  intro character member
  rw [List.eq_of_mem_replicate member]
  decide

theorem plain_reverse {line : List Char} : Plain line.reverse ↔ Plain line := by
  simp [Plain]

theorem plain_of_mem_linesFrom {line text piece : List Char} (plain : Plain line)
    (member : piece ∈ linesFrom line text) : Plain piece := by
  fun_induction linesFrom line text with
  | case1 line empty => exact absurd member List.not_mem_nil
  | case2 line some =>
    rw [List.mem_singleton.mp member]
    exact plain_reverse.mpr plain
  | case3 line rest ih =>
    rcases List.mem_cons.mp member with rfl | later
    · exact plain_reverse.mpr plain
    · exact ih plain_nil later
  | case4 line character rest _ ending ih =>
    rcases List.mem_cons.mp member with rfl | later
    · exact plain_reverse.mpr plain
    · exact ih plain_nil later
  | case5 line character rest _ inner ih =>
    exact ih (List.forall_mem_cons.mpr ⟨by simpa using inner, plain⟩) member

theorem plain_of_mem_lines {text piece : List Char} (member : piece ∈ lines text) : Plain piece :=
  plain_of_mem_linesFrom plain_nil member

theorem linesFrom_ne_nil {line text : List Char} (some : line ≠ [] ∨ text ≠ []) :
    linesFrom line text ≠ [] := by
  fun_induction linesFrom line text with
  | case1 line empty => simp_all
  | case2 line _ => simp
  | case3 line rest _ => simp
  | case4 line character rest _ _ _ => simp
  | case5 line character rest _ _ ih => exact ih (Or.inl (List.cons_ne_nil _ _))

theorem linesFrom_append_newline {piece : List Char} (noReturn : '\r' ∉ piece)
    (line rest : List Char) :
    linesFrom line (piece ++ '\n' :: rest) = linesFrom line (piece ++ ['\n']) ++ linesFrom [] rest := by
  induction piece generalizing line with
  | nil =>
    rw [List.nil_append, List.nil_append, linesFrom_newline, linesFrom_newline]
    rfl
  | cons character piece ih =>
    rw [List.mem_cons, not_or] at noReturn
    obtain ⟨other, later⟩ := noReturn
    rw [List.cons_append, List.cons_append, linesFrom_cons (Ne.symm other),
      linesFrom_cons (Ne.symm other)]
    split
    · rw [ih later, List.cons_append]
    · exact ih later _

structure Yields (line : List Char) (pieces : List (List Char)) : Prop where
  nonempty : pieces ≠ []
  plain : Plain line → pieces = [line]

theorem yields_terminated (line : List Char) : Yields line (linesFrom [] (line ++ ['\n'])) where
  nonempty := linesFrom_ne_nil (Or.inr (by simp))
  plain plain := by
    rw [linesFrom_append plain, linesFrom_newline, List.append_nil, List.reverse_reverse]
    rfl

theorem yields_last {line : List Char} (some : line ≠ []) : Yields line (linesFrom [] line) where
  nonempty := linesFrom_ne_nil (Or.inr some)
  plain plain := by
    have whole := linesFrom_append plain [] []
    rw [List.append_nil, List.append_nil] at whole
    rw [whole, linesFrom, List.isEmpty_reverse, List.reverse_reverse, if_neg (by simpa using some)]

theorem unifyLineEnds_return {rest : List Char} (alone : ∀ other, rest ≠ '\n' :: other) :
    unifyLineEnds ('\r' :: rest) = '\n' :: unifyLineEnds rest := by
  rw [unifyLineEnds.eq_def]
  split
  next same => cases same
  next other same => exact absurd (List.cons.inj same).2 (alone other)
  next same => rw [(List.cons.inj same).2]
  next different same =>
    obtain ⟨rfl, rfl⟩ := List.cons.inj same
    exact absurd rfl different

theorem unifyLineEnds_cons {character : Char} (other : character ≠ '\r') (rest : List Char) :
    unifyLineEnds (character :: rest) = character :: unifyLineEnds rest := by
  rw [unifyLineEnds.eq_def]
  split
  next same => cases same
  next same => exact absurd (List.cons.inj same).1 other
  next same => exact absurd (List.cons.inj same).1 other
  next same =>
    obtain ⟨rfl, rfl⟩ := List.cons.inj same
    rfl

/-- A source is cut line by line of the compiler. The beginning of the first line is `line`. -/
theorem exists_pieces (line text : List Char) (noReturn : '\r' ∉ line) :
    ∃ pieces, List.Forall₂ Yields (compilerLinesFrom line text) pieces ∧
      linesFrom [] (line.reverse ++ unifyLineEnds text) = pieces.flatten := by
  fun_induction compilerLinesFrom line text with
  | case1 line empty =>
    rw [List.isEmpty_iff.mp empty]
    exact ⟨[], .nil, rfl⟩
  | case2 line some =>
    refine ⟨[linesFrom [] line.reverse], .cons (yields_last (by simpa using some)) .nil, ?_⟩
    rw [unifyLineEnds, List.append_nil, List.flatten_singleton]
  | case3 line rest ih =>
    obtain ⟨pieces, yields, cut⟩ := ih List.not_mem_nil
    refine ⟨_ :: pieces, .cons (yields_terminated line.reverse) yields, ?_⟩
    rw [unifyLineEnds, linesFrom_append_newline (by simpa using noReturn), List.flatten_cons, ← cut]
    rfl
  | case4 line character rest alone ending ih =>
    obtain ⟨pieces, yields, cut⟩ := ih List.not_mem_nil
    refine ⟨_ :: pieces, .cons (yields_terminated line.reverse) yields, ?_⟩
    have unified : unifyLineEnds (character :: rest) = '\n' :: unifyLineEnds rest := by
      rcases ending with rfl | rfl
      · exact unifyLineEnds_cons (by decide) rest
      · exact unifyLineEnds_return fun other same => alone other rfl same
    rw [unified, linesFrom_append_newline (by simpa using noReturn), List.flatten_cons, ← cut]
    rfl
  | case5 line character rest _ inner ih =>
    rw [not_or] at inner
    obtain ⟨pieces, yields, cut⟩ := ih (by simpa [Ne.symm inner.2] using noReturn)
    refine ⟨pieces, yields, ?_⟩
    rw [unifyLineEnds_cons inner.2, ← cut, List.reverse_cons, List.append_assoc,
      List.singleton_append]

theorem length_le_of_yields {whole : List (List Char)} {pieces : List (List (List Char))}
    (yields : List.Forall₂ Yields whole pieces) : whole.length ≤ pieces.flatten.length := by
  induction yields with
  | nil => exact Nat.le_refl _
  | cons first _ ih =>
    have some := List.length_pos_of_ne_nil first.nonempty
    rw [List.flatten_cons, List.length_append, List.length_cons]
    omega

theorem take_flatten_of_yields {whole : List (List Char)} {pieces : List (List (List Char))}
    (yields : List.Forall₂ Yields whole pieces) {count : Nat}
    (plain : ∀ line ∈ whole.take count, Plain line) :
    pieces.flatten.take count = whole.take count := by
  induction yields generalizing count with
  | nil => rfl
  | cons first _ ih =>
    cases count with
    | zero => rfl
    | succ count =>
      rw [List.take_succ_cons, List.forall_mem_cons] at plain
      rw [first.plain plain.1, List.flatten_cons, List.singleton_append, List.take_succ_cons,
        List.take_succ_cons, ih plain.2]

section Source

variable (text : List Char)

theorem exists_pieces_of_lines : ∃ pieces, List.Forall₂ Yields (compilerLines text) pieces ∧
    lines (unifyLineEnds text) = pieces.flatten :=
  exists_pieces [] text List.not_mem_nil

theorem length_compilerLines_le :
    (compilerLines text).length ≤ (lines (unifyLineEnds text)).length := by
  obtain ⟨pieces, yields, cut⟩ := exists_pieces_of_lines text
  rw [cut]
  exact length_le_of_yields yields

/-- The first lines are those of the compiler exactly when nothing in them ends a line for other
reasons. -/
theorem forall_getElem?_iff (count : Nat) :
    (∀ index < count, ∀ line, (compilerLines text)[index]? = some line →
      (lines (unifyLineEnds text))[index]? = some line) ↔
      ∀ line ∈ (compilerLines text).take count, Plain line := by
  constructor
  · intro same line member
    obtain ⟨index, found⟩ := List.mem_iff_getElem?.mp member
    rw [List.getElem?_take] at found
    split at found
    next early => exact plain_of_mem_lines (List.mem_of_getElem? (same index early line found))
    next => cases found
  · intro plain index early line found
    obtain ⟨pieces, yields, cut⟩ := exists_pieces_of_lines text
    have first := take_flatten_of_yields yields plain
    rw [cut, ← List.getElem?_take_of_lt early, first, List.getElem?_take_of_lt early, found]

end Source

end Mutant.Text
