import Mathlib.Data.List.SplitBy
import Mutant.Diagnostics.Snippet
import Mutant.Proofs.Mentions

/-!
Highlighted names. The names are put between guillemets one after another, each in what the earlier
ones left. All of this comes to one thing: the text is cut into its words and its other characters, and
each word that is one of the names is put between guillemets.
-/

namespace Mutant

namespace Text

def Outside (place : Option Char) : Prop :=
  ∀ character ∈ place, isWord character = false

theorem outside_none : Outside none :=
  fun _ here => absurd here (by simp)

theorem outside_some {character : Char} : Outside (some character) ↔ isWord character = false := by
  simp [Outside]

structure Unbroken (run : List Char) : Prop where
  nonempty : run ≠ []
  spelled : ∀ character ∈ run, isWord character = true

namespace Unbroken

variable {run rest : List Char}

theorem of_all (nonempty : run ≠ []) (spelled : run.all isWord = true) : Unbroken run :=
  ⟨nonempty, List.all_eq_true.mp spelled⟩

theorem exists_cons (unbroken : Unbroken run) :
    ∃ first more, run = first :: more ∧ isWord first = true := by
  obtain ⟨first, more, rfl⟩ := List.exists_cons_of_ne_nil unbroken.nonempty
  exact ⟨first, more, rfl, unbroken.spelled first List.mem_cons_self⟩

theorem not_mem (unbroken : Unbroken run) {character : Char} (other : isWord character = false) :
    character ∉ run := by
  intro member
  rw [unbroken.spelled character member] at other
  exact absurd other.symm Bool.false_ne_true

theorem takeWhile_append (unbroken : Unbroken run) (ends : Outside rest.head?) :
    (run ++ rest).takeWhile isWord = run := by
  rw [List.takeWhile_append_of_pos unbroken.spelled]
  cases rest with
  | nil => rw [List.takeWhile_nil, List.append_nil]
  | cons next rest =>
    have stops : ¬isWord next = true := by simp [outside_some.mp ends]
    rw [List.takeWhile_cons_of_neg stops, List.append_nil]

end Unbroken

/-- A text is read word by word, and in between character by character. -/
theorem words_induction {motive : List Char → Prop} (nil : motive [])
    (other : ∀ character rest, isWord character = false → motive rest → motive (character :: rest))
    (word : ∀ run rest, Unbroken run → Outside rest.head? → motive rest → motive (run ++ rest))
    (text : List Char) : motive text := by
  induction size : text.length using Nat.strongRecOn generalizing text with
  | ind size ih =>
    subst size
    cases text with
    | nil => exact nil
    | cons character rest =>
      by_cases inner : isWord character = true
      · have later : (rest.dropWhile isWord).length < (character :: rest).length :=
          Nat.lt_succ_of_le (List.dropWhile_suffix isWord).length_le
        have cut : character :: rest.takeWhile isWord ++ rest.dropWhile isWord = character :: rest := by
          rw [List.cons_append, List.takeWhile_append_dropWhile]
        rw [← cut]
        refine word _ _ ⟨by simp, ?_⟩ ?_ (ih _ later _ rfl)
        · exact List.forall_mem_cons.mpr ⟨inner, fun _ member => List.mem_takeWhile_imp member⟩
        · intro next here
          have stops := List.head?_dropWhile_not isWord rest
          rw [here] at stops
          simpa using stops
      · exact other character rest (by simpa using inner) (ih _ (Nat.lt_succ_self _) _ rfl)

/-- Words are cut from what is next to them, and all other characters from each other. -/
def pieces (text : List Char) : List (List Char) :=
  text.splitBy fun one next => isWord one && isWord next

theorem pieces_append {first second : List Char}
    (apart : Outside first.getLast? ∨ Outside second.head?) :
    pieces (first ++ second) = pieces first ++ pieces second := by
  refine List.splitBy_append fun one last next here => ?_
  rcases apart with before | after
  · rw [before one last, Bool.false_and]
  · rw [after next here, Bool.and_false]

theorem pieces_cons {character : Char} (other : isWord character = false) (rest : List Char) :
    pieces (character :: rest) = [character] :: pieces rest :=
  @pieces_append [character] rest (Or.inl (outside_some.mpr other))

theorem pieces_of_unbroken {run : List Char} (unbroken : Unbroken run) : pieces run = [run] := by
  refine List.splitBy_of_isChain unbroken.nonempty (List.Pairwise.isChain ?_)
  refine List.pairwise_of_forall_mem_list fun one member next memberToo => ?_
  rw [unbroken.spelled one member, unbroken.spelled next memberToo, Bool.and_self]

end Text

namespace Mention

open Text

def bracket (word : List Char) : List Char :=
  leftGuillemet :: word ++ [rightGuillemet]

theorem bracket_append (word rest : List Char) :
    bracket word ++ rest = leftGuillemet :: (word ++ rightGuillemet :: rest) := by
  simp [bracket]

theorem isWord_leftGuillemet : isWord leftGuillemet = false := by decide +kernel

theorem isWord_rightGuillemet : isWord rightGuillemet = false := by decide +kernel

/-- The text with every word that is one of the names between guillemets. -/
def bracketed (names : List String) (text : List Char) : List Char :=
  (pieces text).flatMap fun piece => if String.ofList piece ∈ names then bracket piece else piece

def erase (text : List Char) : List Char :=
  text.filter fun character => character != leftGuillemet && character != rightGuillemet

theorem bracketed_congr {names others : List String} (same : ∀ name, name ∈ names ↔ name ∈ others)
    (text : List Char) : bracketed names text = bracketed others text := by
  simp only [bracketed, same]

theorem bracketed_nil_names (text : List Char) : bracketed [] text = text := by
  simp [bracketed, pieces, List.flatMap_id', List.flatten_splitBy]

def Words (names : List String) : Prop :=
  ∀ name ∈ names, Unbroken name.toList

section Bracketed

variable {names : List String} (words : Words names) {first second run rest : List Char}

theorem bracketed_append (apart : Outside first.getLast? ∨ Outside second.head?) :
    bracketed names (first ++ second) = bracketed names first ++ bracketed names second := by
  rw [bracketed, pieces_append apart, List.flatMap_append]
  rfl

theorem bracketed_of_unbroken (unbroken : Unbroken run) :
    bracketed names run = if String.ofList run ∈ names then bracket run else run := by
  rw [bracketed, pieces_of_unbroken unbroken, List.flatMap_singleton]

theorem bracketed_append_of_unbroken (unbroken : Unbroken run) (ends : Outside rest.head?) :
    bracketed names (run ++ rest) =
      (if String.ofList run ∈ names then bracket run else run) ++ bracketed names rest := by
  rw [bracketed_append (Or.inr ends), bracketed_of_unbroken unbroken]

include words

theorem bracketed_singleton {character : Char} (other : isWord character = false) :
    bracketed names [character] = [character] := by
  have pieces_eq : pieces [character] = [[character]] := pieces_cons other []
  have unnamed : String.ofList [character] ∉ names := fun listed =>
    (words _ listed).not_mem other (by simp)
  rw [bracketed, pieces_eq, List.flatMap_singleton, if_neg unnamed]

theorem bracketed_cons {character : Char} (other : isWord character = false) (rest : List Char) :
    bracketed names (character :: rest) = character :: bracketed names rest := by
  have apart : Outside [character].getLast? := outside_some.mpr other
  rw [← List.singleton_append, bracketed_append (Or.inl apart), bracketed_singleton words other,
    List.singleton_append]

theorem head?_bracketed (ends : Outside rest.head?) : (bracketed names rest).head? = rest.head? := by
  cases rest with
  | nil => rfl
  | cons character rest => rw [bracketed_cons words (outside_some.mp ends)]; rfl

theorem getLast?_bracketed (ends : Outside first.getLast?) :
    (bracketed names first).getLast? = first.getLast? := by
  rcases List.eq_nil_or_concat first with rfl | ⟨front, last, rfl⟩
  · rfl
  · rw [List.concat_eq_append, List.getLast?_concat] at *
    have apart : Outside [last].head? := ends
    rw [bracketed_append (Or.inr apart), bracketed_singleton words (outside_some.mp ends),
      List.getLast?_concat]

end Bracketed

theorem erase_append (first second : List Char) : erase (first ++ second) = erase first ++ erase second :=
  List.filter_append first second

theorem erase_bracket (word : List Char) : erase (bracket word) = erase word := by
  have left : erase [leftGuillemet] = [] := by decide
  have right : erase [rightGuillemet] = [] := by decide
  rw [bracket, ← List.singleton_append, List.append_assoc, erase_append, erase_append, left, right,
    List.nil_append, List.append_nil]

theorem erase_bracketed (names : List String) (text : List Char) :
    erase (bracketed names text) = erase text := by
  calc erase (bracketed names text) = (pieces text).flatMap erase := by
        rw [bracketed, erase, List.filter_flatMap]
        refine List.flatMap_congr fun piece _ => ?_
        split
        · exact erase_bracket piece
        · rfl
    _ = erase (pieces text).flatten := by rw [List.flatMap_def, erase, List.filter_flatten]; rfl
    _ = erase text := by rw [pieces, List.flatten_splitBy]

theorem getLast?_cons_or (character : Char) (rest : List Char) (before : Option Char) :
    (character :: rest).getLast?.or before = rest.getLast?.or (some character) := by
  rw [List.getLast?_cons]
  cases rest.getLast? <;> rfl

section Replacing

variable {name : List Char} (unbroken : Unbroken name) {replacement run rest : List Char}

include unbroken

theorem beginsAt_cons_of_not_isWord {character : Char} (other : isWord character = false)
    (before : Option Char) (rest : List Char) : beginsAt name before (character :: rest) = false := by
  obtain ⟨first, more, rfl, -⟩ := unbroken.exists_cons
  have different : (first == character) = false := by
    rw [beq_eq_false_iff_ne]
    rintro rfl
    exact unbroken.not_mem other List.mem_cons_self
  rw [beginsAt, List.isPrefixOf, different, Bool.false_and, Bool.false_and, Bool.false_and]

theorem replaceFrom_cons_of_not_isWord {character : Char} (other : isWord character = false)
    (before : Option Char) (rest : List Char) :
    replaceFrom name replacement before 0 (character :: rest) =
      character :: replaceFrom name replacement (some character) 0 rest := by
  rw [replaceFrom, beginsAt_cons_of_not_isWord unbroken other, if_neg Bool.false_ne_true]

omit unbroken in
theorem replaceFrom_inside {before : Char} (inside : isWord before = true)
    (spelled : ∀ character ∈ run, isWord character = true) :
    replaceFrom name replacement (some before) 0 (run ++ rest) =
      run ++ replaceFrom name replacement (run.getLast?.or (some before)) 0 rest := by
  induction run generalizing before with
  | nil => rfl
  | cons character run ih =>
    obtain ⟨word, more⟩ := List.forall_mem_cons.mp spelled
    have boundary : isBoundary (some before) (some character) = false := by
      simp [isBoundary, inside, word]
    have none : beginsAt name (some before) (character :: (run ++ rest)) = false := by
      rw [beginsAt, List.head?_cons, boundary, Bool.and_false, Bool.false_and]
    rw [List.cons_append, replaceFrom, none, if_neg Bool.false_ne_true, ih word more,
      getLast?_cons_or, List.cons_append]

omit unbroken in
theorem replaceFrom_skip (before : Option Char) :
    replaceFrom name replacement before run.length (run ++ rest) =
      replaceFrom name replacement (run.getLast?.or before) 0 rest := by
  induction run generalizing before with
  | nil => rfl
  | cons character run ih =>
    rw [List.length_cons, List.cons_append, replaceFrom, ih, getLast?_cons_or]

theorem beginsAt_word_iff (word : Unbroken run) {before : Option Char} (begins : Outside before)
    (ends : Outside rest.head?) : beginsAt name before (run ++ rest) = true ↔ run = name := by
  obtain ⟨first, more, named, isFirst⟩ := unbroken.exists_cons
  have head : name.head? = some first := by rw [named, List.head?_cons]
  have last := List.getLast?_eq_some_getLast unbroken.nonempty
  have isLast := unbroken.spelled _ (List.getLast_mem unbroken.nonempty)
  rw [beginsAt_iff unbroken.nonempty, head, last]
  simp only [isBoundary_comm (some _), isBoundary_iff isLast, isBoundary_iff isFirst]
  constructor
  · rintro ⟨back, same, -, after⟩
    rw [← word.takeWhile_append ends, same, unbroken.takeWhile_append after]
  · rintro rfl
    exact ⟨rest, rfl, begins, ends⟩

theorem replaceFrom_word (word : Unbroken run) {before : Option Char} (begins : Outside before)
    (ends : Outside rest.head?) :
    replaceFrom name replacement before 0 (run ++ rest) =
      (if run = name then replacement else run) ++
        replaceFrom name replacement (run.getLast?.or before) 0 rest := by
  have begins_iff := beginsAt_word_iff unbroken word begins ends
  obtain ⟨first, more, rfl, isFirst⟩ := word.exists_cons
  have spelled := (List.forall_mem_cons.mp word.spelled).2
  rw [getLast?_cons_or, List.cons_append, replaceFrom]
  rw [List.cons_append] at begins_iff
  by_cases same : first :: more = name
  · have size : name.length - 1 = more.length := by rw [← same]; rfl
    rw [if_pos (begins_iff.mpr same), if_pos same, size, replaceFrom_skip]
  · rw [if_neg (mt begins_iff.mp same), if_neg same, replaceFrom_inside isFirst spelled,
      List.cons_append]

end Replacing

theorem ofList_eq_iff {run : List Char} {name : String} :
    String.ofList run = name ↔ run = name.toList := by
  constructor
  · rintro rfl
    rw [String.toList_ofList]
  · rintro rfl
    rw [String.ofList_toList]

/-- To put a further name between guillemets leaves the earlier ones as they are. -/
theorem replaceFrom_bracketed {names : List String} {name : String} (words : Words (name :: names))
    (fresh : name ∉ names) (text : List Char) {before : Option Char}
    (apart : Outside before ∨ Outside text.head?) :
    replaceFrom name.toList (bracket name.toList) before 0 (bracketed names text) =
      bracketed (name :: names) text := by
  obtain ⟨unbroken, earlier⟩ := List.forall_mem_cons.mp words
  induction text using words_induction generalizing before with
  | nil => rfl
  | other character rest other ih =>
    rw [bracketed_cons earlier other, bracketed_cons words other,
      replaceFrom_cons_of_not_isWord unbroken other, ih (Or.inl (outside_some.mpr other))]
  | word run rest word ends ih =>
    rw [bracketed_append_of_unbroken word ends, bracketed_append_of_unbroken word ends]
    by_cases done : String.ofList run ∈ names
    · -- The word stands between guillemets, so it is found again and is another name.
      have left := outside_some.mpr isWord_leftGuillemet
      have right := outside_some.mpr isWord_rightGuillemet
      have stops : Outside (rightGuillemet :: bracketed names rest).head? := right
      have different : run ≠ name.toList := by
        intro same
        exact fresh (ofList_eq_iff.mpr same ▸ done)
      rw [if_pos done, if_pos (List.mem_cons_of_mem _ done), bracket_append, bracket_append,
        replaceFrom_cons_of_not_isWord unbroken isWord_leftGuillemet,
        replaceFrom_word unbroken word left stops, if_neg different,
        replaceFrom_cons_of_not_isWord unbroken isWord_rightGuillemet, ih (Or.inl right)]
    · have begins : Outside before := by
        obtain ⟨first, more, rfl, -⟩ := word.exists_cons
        exact apart.resolve_right fun outside =>
          word.not_mem (outside_some.mp outside) List.mem_cons_self
      have stops : Outside (bracketed names rest).head? := by
        rwa [head?_bracketed earlier ends]
      have named : String.ofList run ∈ name :: names ↔ run = name.toList := by
        rw [List.mem_cons, or_iff_left done, ofList_eq_iff]
      rw [if_neg done, replaceFrom_word unbroken word begins stops, ih (Or.inr ends)]
      simp only [named]
      split
      next same => rw [same]
      next => rfl

theorem expandFrom_of_not_mem {mention text : List Char} (plain : backslash ∉ text) :
    expandFrom mention 0 text = .ok text := by
  induction text with
  | nil => rfl
  | cons character rest ih =>
    rw [List.mem_cons, not_or] at plain
    cases rest with
    | nil => rfl
    | cons next rest =>
      rw [expandFrom, if_pos (bne_iff_ne.mpr (Ne.symm plain.1)), ih plain.2]
      rfl

theorem highlight_eq {name : List Char} (unbroken : Unbroken name) (text : List Char) :
    highlight name text = .ok (replaceFrom name (bracket name) none 0 text) := by
  have plain : backslash ∉ bracket name := by
    have noWord : isWord backslash = false := by decide +kernel
    have absent : backslash ∉ name := unbroken.not_mem noWord
    simp only [bracket, List.cons_append, List.mem_cons, List.mem_append, List.not_mem_nil, absent,
      or_false, false_or]
    decide
  rw [highlight, show leftGuillemet :: name ++ [rightGuillemet] = bracket name from rfl,
    expandFrom_of_not_mem plain]
  rfl

/-- What highlighting makes of a text. -/
structure Highlights (names : List String) (text shown : List Char) : Prop where
  erased : erase shown = text
  words : ∀ front run back, text = front ++ run ++ back → Unbroken run → Outside front.getLast? →
    Outside back.head? → ∃ left right,
      shown = left ++ (if String.ofList run ∈ names then bracket run else run) ++ right ∧
      erase left = front ∧ left.getLast? = front.getLast? ∧
      erase right = back ∧ right.head? = back.head?

def Unmarked (text : List Char) : Prop :=
  ∀ character ∈ text, character ≠ leftGuillemet ∧ character ≠ rightGuillemet

instance (text : List Char) : Decidable (Unmarked text) :=
  List.decidableBAll _ text

theorem erase_of_unmarked {text : List Char} (unmarked : Unmarked text) : erase text = text := by
  refine List.filter_eq_self.mpr fun character member => ?_
  obtain ⟨left, right⟩ := unmarked character member
  rw [bne_iff_ne.mpr left, bne_iff_ne.mpr right, Bool.and_self]

theorem highlights_bracketed {names : List String} (words : Words names) {text : List Char}
    (unmarked : Unmarked text) : Highlights names text (bracketed names text) where
  erased := (erase_bracketed names text).trans (erase_of_unmarked unmarked)
  words := by
    rintro front run back rfl unbroken begins ends
    obtain ⟨first, last⟩ := List.forall_mem_append.mp unmarked
    have front_free : Unmarked front := (List.forall_mem_append.mp first).1
    refine ⟨bracketed names front, bracketed names back, ?_,
      (erase_bracketed names front).trans (erase_of_unmarked front_free),
      getLast?_bracketed words begins, (erase_bracketed names back).trans (erase_of_unmarked last),
      head?_bracketed words ends⟩
    rw [List.append_assoc, List.append_assoc, bracketed_append (Or.inl begins),
      bracketed_append_of_unbroken unbroken ends]

end Mention

namespace Snippet

open Text Mention

theorem highlightAll_bracketed {names done : List String} (words : Words (names ++ done))
    (distinct : (names ++ done).Nodup) (text : List Char) :
    highlightAll names (bracketed done text) = .ok (bracketed (names.reverse ++ done) text) := by
  induction names generalizing done with
  | nil => rfl
  | cons name names ih =>
    obtain ⟨unbroken, -⟩ := List.forall_mem_cons.mp words
    obtain ⟨fresh, -⟩ := List.nodup_cons.mp distinct
    have identifier : IsIdentifier name.toList := by
      refine ⟨unbroken.nonempty, fun character member => ?_⟩
      rw [isIdentifierPart, unbroken.spelled character member, Bool.true_or]
    have some : (strip name.toList).isEmpty = false := by
      rw [identifier.strip_eq]
      exact List.isEmpty_eq_false_iff.mpr unbroken.nonempty
    have moved : (names ++ name :: done).Perm (name :: names ++ done) := List.perm_middle
    have later : Words (names ++ name :: done) := fun other member =>
      words other (moved.mem_iff.mp member)
    have earlier : Words (name :: done) := fun other member =>
      later other (List.mem_append_right names member)
    have replaced := replaceFrom_bracketed earlier (fun member => fresh (List.mem_append_right _ member))
      text (Or.inl outside_none)
    rw [highlightAll, some, if_neg Bool.false_ne_true, highlight_eq unbroken, replaced]
    dsimp only
    rw [ih later (moved.nodup_iff.mpr distinct), List.reverse_cons, List.append_assoc,
      List.singleton_append]

theorem highlightAll_eq {names : List String} (words : Words names) (distinct : names.Nodup)
    (text : List Char) : highlightAll names text = .ok (bracketed names text) := by
  have all := @highlightAll_bracketed names [] (by rwa [List.append_nil])
    (by rwa [List.append_nil]) text
  rw [bracketed_nil_names, List.append_nil] at all
  rw [all, bracketed_congr fun _ => List.mem_reverse]

end Snippet

end Mutant
