import Mathlib.Data.List.Infix
import Mutant.Diagnostics.Javac

/-!
Lines and headers of compiler output. Lines that are joined come back when the text is cut, up to an
empty last one. A header that is printed is read back: of all readings of its line the one with the
longest path counts, and no reading has a longer path than the printed one, because the mark that
ends a path does not stand behind it.
-/

namespace Mutant

namespace Text

theorem linesFrom_cons {character : Char} (other : character ≠ '\r') (line rest : List Char) :
    linesFrom line (character :: rest) =
      if isLineEnd character then line.reverse :: linesFrom [] rest
      else linesFrom (character :: line) rest := by
  rw [linesFrom.eq_def]
  split
  next same => cases same
  next same => exact absurd (List.cons.inj same).1 other
  next same =>
    obtain ⟨rfl, rfl⟩ := List.cons.inj same
    rfl

theorem linesFrom_of_not_end {character : Char} (inner : isLineEnd character = false)
    (line rest : List Char) :
    linesFrom line (character :: rest) = linesFrom (character :: line) rest := by
  have other : character ≠ '\r' := by
    rintro rfl
    exact absurd inner (by decide)
  rw [linesFrom_cons other, if_neg (by simp [inner])]

theorem linesFrom_append {piece : List Char}
    (inner : ∀ character ∈ piece, isLineEnd character = false) (line rest : List Char) :
    linesFrom line (piece ++ rest) = linesFrom (piece.reverse ++ line) rest := by
  induction piece generalizing line with
  | nil => rfl
  | cons character piece ih =>
    have first := inner character List.mem_cons_self
    have later := ih (fun other member => inner other (List.mem_cons_of_mem _ member))
      (character :: line)
    rw [List.cons_append, linesFrom_of_not_end first, later, List.reverse_cons, List.append_assoc,
      List.singleton_append]

theorem linesFrom_newline (line rest : List Char) :
    linesFrom line ('\n' :: rest) = line.reverse :: linesFrom [] rest := by
  rw [linesFrom_cons (by decide), if_pos (by decide)]

theorem lines_joinLines {parts : List (List Char)}
    (inner : ∀ part ∈ parts, ∀ character ∈ part, isLineEnd character = false) :
    parts = lines (joinLines parts) ∨ parts = lines (joinLines parts) ++ [[]] := by
  induction parts with
  | nil => exact Or.inl rfl
  | cons part rest ih =>
    have here := inner part List.mem_cons_self
    cases rest with
    | nil =>
      have cut : lines (joinLines [part]) = if part.isEmpty then [] else [part] := by
        rw [joinLines, List.intercalate_singleton, lines]
        have alone := linesFrom_append here [] []
        rw [List.append_nil, List.append_nil] at alone
        rw [alone, linesFrom, List.isEmpty_reverse, List.reverse_reverse]
      rw [cut]
      cases part with
      | nil => exact Or.inr rfl
      | cons character others => exact Or.inl rfl
    | cons next others =>
      have later := ih fun other member => inner other (List.mem_cons_of_mem _ member)
      have cut : lines (joinLines (part :: next :: others)) =
          part :: lines (joinLines (next :: others)) := by
        rw [joinLines, List.intercalate_cons_cons, List.append_assoc, lines,
          linesFrom_append here, List.singleton_append, linesFrom_newline, List.append_nil,
          List.reverse_reverse]
        rfl
      rw [cut]
      exact later.imp (congrArg (part :: ·)) (congrArg (part :: ·))

theorem toNat_of_isDigit {character : Char} (decimal : character.isDigit = true) :
    48 ≤ character.toNat ∧ character.toNat < 58 := by
  rw [Char.isDigit, Bool.and_eq_true, decide_eq_true_iff, decide_eq_true_iff] at decimal
  have lower : 48 ≤ character.toNat := decimal.1
  have upper : character.toNat ≤ 57 := decimal.2
  omega

theorem isLineEnd_of_all {text : List Char} (plain : text.all (!isLineEnd ·) = true) :
    ∀ character ∈ text, isLineEnd character = false := by
  intro character member
  simpa using List.all_eq_true.mp plain character member

theorem isLineEnd_of_isDigit {character : Char} (decimal : character.isDigit = true) :
    isLineEnd character = false := by
  have range := toNat_of_isDigit decimal
  simp only [isLineEnd, Bool.or_eq_false_iff, Bool.and_eq_false_iff, decide_eq_false_iff_not]
  omega

theorem digit?_of_isDigit {character : Char} (decimal : character.isDigit = true) :
    digit? character = some (character.toNat - '0'.toNat) := by
  have range := toNat_of_isDigit decimal
  have first : zeros = 48 :: zeros.tail := rfl
  rw [digit?, first, List.find?_cons_of_pos]
  · rfl
  · simp only [Bool.and_eq_true, decide_eq_true_eq]
    exact range

theorem ofDigits_toDigits (number : Nat) : ofDigits (Nat.toDigits 10 number) = number := by
  have same : ∀ (digits : List Char) (value : Nat), (∀ digit ∈ digits, digit.isDigit = true) →
      digits.foldl (fun value character => value * 10 + (digit? character).getD 0) value =
        Nat.ofDigitChars 10 digits value := by
    intro digits
    induction digits with
    | nil => exact fun _ _ => rfl
    | cons digit rest ih =>
      intro value decimal
      have here := digit?_of_isDigit (decimal digit List.mem_cons_self)
      rw [List.foldl_cons, here, Option.getD_some, Nat.ofDigitChars_cons, Nat.mul_comm 10 value]
      exact ih _ fun other member => decimal other (List.mem_cons_of_mem _ member)
  have decimal : ∀ digit ∈ Nat.toDigits 10 number, digit.isDigit = true :=
    fun digit member => Nat.isDigit_of_mem_toDigits (by decide) (by decide) member
  rw [ofDigits, same _ 0 decimal, Nat.ofDigitChars_ten_toDigits]

theorem isDigit_of_mem_toDigits {number : Nat} {digit : Char}
    (member : digit ∈ Nat.toDigits 10 number) : isDigit digit = true := by
  rw [isDigit, digit?_of_isDigit (Nat.isDigit_of_mem_toDigits (by decide) (by decide) member)]
  rfl

end Text

namespace Javac

theorem after?_append (beginning rest : List Char) : after? beginning (beginning ++ rest) = some rest := by
  have starts : beginning.isPrefixOf (beginning ++ rest) = true :=
    List.isPrefixOf_iff_prefix.mpr (List.prefix_append beginning rest)
  rw [after?, if_pos starts, List.drop_left]

theorem afterBlanks?_space {rest : List Char}
    (firm : ∀ character ∈ rest.head?, Text.isBlank character = false) :
    afterBlanks? (' ' :: rest) = some rest := by
  have kept : Text.stripLeft rest = rest := by
    cases rest with
    | nil => rfl
    | cons character others =>
      rw [Text.stripLeft, List.dropWhile_cons_of_neg (by simp [firm character rfl])]
  rw [afterBlanks?, if_pos (by decide), kept]

theorem position?_eq {digits rest : List Char} (nonempty : digits ≠ [])
    (decimal : ∀ digit ∈ digits, Text.isDigit digit = true) :
    position? (':' :: (digits ++ ':' :: rest)) =
      ((afterBlanks? rest).bind fun text => (severity? text).bind afterBlanks?).map fun message =>
        (digits, message) := by
  have stop : Text.isDigit ':' = false := by decide
  have taken : (digits ++ ':' :: rest).takeWhile Text.isDigit = digits := by
    rw [List.takeWhile_append_of_pos decimal, List.takeWhile_cons_of_neg (by simp [stop]),
      List.append_nil]
  have left : (digits ++ ':' :: rest).dropWhile Text.isDigit = [':'] ++ rest := by
    rw [List.dropWhile_append_of_pos decimal, List.dropWhile_cons_of_neg (by simp [stop])]
    rfl
  have any : digits.isEmpty = false := by simpa using nonempty
  simp only [position?, taken, left, after?_append, any, Option.bind_some, Option.bind_assoc]
  rfl

theorem headerFrom_append {reversed first second : List Char} {header : Header}
    (found : headerFrom (first.reverse ++ reversed) second = some header) :
    headerFrom reversed (first ++ second) = some header := by
  induction first generalizing reversed with
  | nil => exact found
  | cons character first ih =>
    rw [List.reverse_cons, List.append_assoc, List.singleton_append] at found
    rw [List.cons_append, headerFrom, ih found]
    rfl

theorem headerFrom_eq_none {reversed rest : List Char}
    (unread : ∀ first second, rest = first ++ second →
      headerAt? (first.reverse ++ reversed) second = none) : headerFrom reversed rest = none := by
  induction rest generalizing reversed with
  | nil => exact unread [] [] rfl
  | cons character rest ih =>
    have here := unread [] (character :: rest) rfl
    have later : headerFrom (character :: reversed) rest = none := by
      apply ih
      intro first second divided
      have moved := unread (character :: first) second (by rw [divided, List.cons_append])
      rwa [List.reverse_cons, List.append_assoc, List.singleton_append] at moved
    rw [headerFrom, later]
    exact here

theorem prefix_of_not_mem {needle front back : List Char} {separator : Char}
    (starts : needle <+: front ++ separator :: back) (absent : separator ∉ needle) :
    needle <+: front := by
  apply List.prefix_of_prefix_length_le starts (List.prefix_append front _)
  by_contra longer
  have reached : front ++ [separator] <+: needle := by
    apply List.prefix_of_prefix_length_le _ starts
    · rw [List.length_append, List.length_singleton]
      omega
    · exact ⟨back, by rw [List.append_assoc, List.singleton_append]⟩
  exact absent (reached.subset (List.mem_append_right front (List.mem_singleton_self separator)))

theorem infix_of_not_mem {needle front back : List Char} {mark : Char}
    (inside : mark :: needle <:+: front ++ back) (absent : mark ∉ front) :
    mark :: needle <:+: back := by
  induction front with
  | nil => exact inside
  | cons character front ih =>
    rw [List.mem_cons, not_or] at absent
    rw [List.cons_append, List.infix_cons_iff] at inside
    rcases inside with starts | later
    · exact absurd (List.cons_prefix_cons.mp starts).1 absent.1
    · exact ih later absent.2

def pathMark : List Char := ".java:".toList

/-- A reading needs the mark of a path, with the colon of the position right after it. -/
theorem mark_of_headerAt? {first second reversed : List Char}
    (found : headerAt? (first.reverse ++ ':' :: reversed) second ≠ none) :
    pathMark <:+: first ++ second := by
  unfold headerAt? at found
  split at found
  next isPath =>
    have starts : "avaj.".toList <+: first.reverse ++ ':' :: reversed := by
      rw [isSourcePath, Bool.and_eq_true] at isPath
      exact List.isPrefixOf_iff_prefix.mp isPath.1
    have marked : ".java".toList <:+ first := by
      have ends := prefix_of_not_mem starts (by decide)
      rwa [← List.reverse_prefix]
    obtain ⟨before, rfl⟩ := marked
    cases second with
    | nil => exact absurd rfl found
    | cons character after =>
      by_cases colon : character = ':'
      · subst colon
        refine ⟨before, after, ?_⟩
        rw [List.append_assoc, List.append_assoc]
        rfl
      · refine absurd ?_ found
        have none : position? (character :: after) = none := by
          rw [position?.eq_def]
          split
          next same => exact absurd (List.cons.inj same).1 colon
          next => rfl
        rw [none]
        rfl
  next => exact absurd rfl found

/-- Behind a path that no other mark follows, there is no reading with a longer path. -/
theorem headerFrom_colon_eq_none {reversed rest : List Char} (unmarked : ¬pathMark <:+: rest) :
    headerFrom (':' :: reversed) rest = none := by
  apply headerFrom_eq_none
  rintro first second rfl
  by_contra found
  exact unmarked (mark_of_headerAt? found)

/-- A header is read back from its line. -/
theorem header?_eq_some {stem rest digits message : List Char} (nonempty : stem ≠ [])
    (unmarked : ¬pathMark <:+: rest) (position : position? (':' :: rest) = some (digits, message)) :
    header? (stem ++ ".java".toList ++ ':' :: rest) =
      some ⟨stem ++ ".java".toList, digits, message⟩ := by
  have isPath : isSourcePath (stem ++ ".java".toList).reverse = true := by
    have long : 0 < stem.length := List.length_pos_of_ne_nil nonempty
    rw [isSourcePath, Bool.and_eq_true, List.isPrefixOf_iff_prefix, List.reverse_append]
    refine ⟨List.prefix_append _ _, ?_⟩
    simp only [List.length_append, List.length_reverse, decide_eq_true_eq]
    change 5 < 5 + stem.length
    omega
  apply headerFrom_append
  rw [headerFrom, List.append_nil, headerFrom_colon_eq_none unmarked, headerAt?, if_pos isPath,
    position, List.reverse_reverse]
  rfl

end Javac

end Mutant
