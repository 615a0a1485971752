import Mathlib.Algebra.Group.Nat.Defs
import Mathlib.Data.List.TakeWhile
import Mutant.Json.Decoder
import Mutant.Json.Printer
import Mutant.Proofs.HeaderLines

/-!
Printed JSON and its reading. The printed form of a value is ASCII whatever its texts hold, and the
reader takes it for the value: at any level of nesting, and wherever a value is due.
-/

namespace Mutant.Value

open Token

def IsShort (number : Int) : Prop :=
  (Nat.toDigits 10 number.natAbs).length ≤ Text.maxDigits

instance (number : Int) : Decidable (IsShort number) :=
  inferInstanceAs (Decidable (_ ≤ _))

inductive Plain : Value → Prop where
  | null : Plain null
  | bool (value : Bool) : Plain (bool value)
  | int {number : Int} : IsShort number → Plain (int number)
  | text (value : String) : Plain (text value)
  | list {items : List Value} : (∀ item ∈ items, Plain item) → Plain (list items)
  | record {members : List (String × Value)} :
      (∀ member ∈ members, Plain member.2) → Plain (record members)

section Steps

variable {builder : Builder} {rest : List Char}

theorem decodeFrom_cons {mode next : Mode} {character : Char} {tokens : List Token}
    (scanned : scan mode character = some (tokens, next)) :
    decodeFrom mode builder (character :: rest) =
      (builder.takeAll tokens).bind fun built => decodeFrom next built rest := by
  rw [decodeFrom, scanned, Option.bind_some]

theorem decodeFrom_skip {mode next : Mode} {character : Char}
    (scanned : scan mode character = some ([], next)) :
    decodeFrom mode builder (character :: rest) = decodeFrom next builder rest :=
  decodeFrom_cons scanned

theorem takeAll_singleton (builder : Builder) (token : Token) :
    builder.takeAll [token] = builder.take token := by
  simp [Builder.takeAll]

theorem decodeFrom_token {mode next : Mode} {character : Char} {token : Token} {built : Builder}
    (scanned : scan mode character = some ([token], next))
    (taken : builder.take token = some built) :
    decodeFrom mode builder (character :: rest) = decodeFrom next built rest := by
  rw [decodeFrom_cons scanned, takeAll_singleton, taken, Option.bind_some]

theorem decodeFrom_lineBreak (level : Nat) :
    decodeFrom .between builder (lineBreak level ++ rest) = decodeFrom .between builder rest := by
  rw [lineBreak, List.cons_append, decodeFrom_skip rfl]
  induction 2 * level with
  | zero => rfl
  | succ count ih => rw [List.replicate_succ, List.cons_append, decodeFrom_skip rfl, ih]

/-! ### Words and numbers -/

/-- A word that is read ends where the text does, or in front of a character of another kind. -/
def Stops (rest : List Char) : Prop :=
  ∀ character ∈ rest.head?, isWordChar character = false

theorem decodeFrom_word_stop {read : List Char} {value : Value} (known : word? read = some value)
    (stops : Stops rest) :
    decodeFrom (.word read) builder rest =
      (builder.take (.atom value)).bind fun built => decodeFrom .between built rest := by
  cases rest with
  | nil =>
    rw [decodeFrom, finish, known, Option.map_some, Option.bind_some, takeAll_singleton]
    rfl
  | cons character rest =>
    have ended : isWordChar character = false := stops character rfl
    have scanned : scan (.word read) character =
        (opening character).map fun found => (.atom value :: found.1, found.2) := by
      simp [scan, ended, known]
    rw [decodeFrom, scanned]
    cases opened : opening character with
    | none =>
      have stuck : scan .between character = none := opened
      simp [decodeFrom, stuck]
    | some found =>
      have next : scan .between character = some found := opened
      simp only [Option.map_some, Option.bind_some, Builder.takeAll, List.foldlM_cons,
        Option.bind_eq_bind, Option.bind_assoc, decodeFrom, next]

theorem decodeFrom_word_append {read more : List Char}
    (letters : ∀ character ∈ more, isWordChar character = true) :
    decodeFrom (.word read) builder (more ++ rest) =
      decodeFrom (.word (read ++ more)) builder rest := by
  induction more generalizing read with
  | nil => rw [List.nil_append, List.append_nil]
  | cons character more ih =>
    have scanned : scan (.word read) character = some ([], .word (read ++ [character])) :=
      if_pos (letters character List.mem_cons_self)
    rw [List.cons_append, decodeFrom_skip scanned,
      ih fun other member => letters other (List.mem_cons_of_mem _ member), List.append_assoc,
      List.singleton_append]

theorem decodeFrom_word {word : List Char} {value : Value} {frames : List Frame}
    (nonempty : word ≠ []) (letters : ∀ character ∈ word, isWordChar character = true)
    (known : word? word = some value) (stops : Stops rest) :
    decodeFrom .between ⟨.value, frames⟩ (word ++ rest) =
      decodeFrom .between ⟨.done value, frames⟩ rest := by
  obtain ⟨first, more, rfl⟩ := List.exists_cons_of_ne_nil nonempty
  have scanned : scan .between first = some ([], .word [first]) :=
    if_pos (letters first List.mem_cons_self)
  rw [List.cons_append, decodeFrom_skip scanned,
    decodeFrom_word_append fun other member => letters other (List.mem_cons_of_mem _ member),
    List.singleton_append, decodeFrom_word_stop known stops]
  rfl

end Steps

theorem head?_toDigits {number : Nat} (positive : 0 < number) :
    (Nat.toDigits 10 number).head? ≠ some '0' := by
  induction number using Nat.strongRecOn with
  | _ number ih =>
    by_cases small : number < 10
    · have digits : ∀ digit < 10, 0 < digit → Nat.digitChar digit ≠ '0' := by decide
      rw [Nat.toDigits_of_lt_base small]
      simpa using digits number small positive
    · have some : (Nat.toDigits 10 (number / 10)).head?.isSome = true := by
        rw [List.isSome_head?]
        exact Nat.toDigits_ne_nil
      rw [Nat.toDigits_of_base_le (by decide) (Nat.not_lt.mp small), List.head?_append,
        Option.or_of_isSome some]
      exact ih (number / 10) (by omega) (by omega)

theorem number?_of_digits {digits : List Char} (negative : Bool) (nonempty : digits ≠ [])
    (decimal : ∀ digit ∈ digits, digit.isDigit = true)
    (plain : digits.head? = some '0' → digits.length ≤ 1)
    (short : digits.length ≤ Text.maxDigits) :
    number? (if negative then '-' :: digits else digits) =
      some (int (Reading.signed negative (Text.ofDigits digits))) := by
  have whole : digits.takeWhile Char.isDigit = digits := List.takeWhile_eq_self_iff.mpr decimal
  have behind : digits.dropWhile Char.isDigit = [] := List.dropWhile_eq_nil_iff.mpr decimal
  have unsigned : (digits.head? == some '-') = false :=
    beq_eq_false_iff_ne.mpr fun minus =>
      absurd (decimal _ (List.mem_of_mem_head? minus)) (by decide)
  have leading : (digits.head? == some '0' && decide (1 < digits.length)) = false := by
    simpa using plain
  cases negative with
  | true => simp [number?, whole, behind, nonempty, leading, Nat.not_lt.mpr short]
  | false => simp [number?, whole, behind, nonempty, leading, unsigned, Nat.not_lt.mpr short]

theorem word?_of_number? {letters : List Char} {value : Value}
    (known : number? letters = some value) : word? letters = some value := by
  have none : words.lookup letters = none := by
    refine List.lookup_eq_none_iff.mpr fun entry member => bne_iff_ne.mpr ?_
    rintro rfl
    have noNumber : ∀ entry ∈ words, (number? entry.1).isNone = true := by decide
    have absent := noNumber entry member
    rw [known] at absent
    exact Bool.false_ne_true absent
  rw [word?, none]
  exact known

theorem printInt_eq (number : Int) :
    printInt number = if number < 0 then '-' :: Nat.toDigits 10 number.natAbs
      else Nat.toDigits 10 number.natAbs := by
  cases number with
  | ofNat size => exact Nat.toList_repr
  | negSucc size =>
    have minus : printInt (.negSucc size) = ("-" ++ Nat.repr (size + 1)).toList := rfl
    rw [minus, String.toList_append, Nat.toList_repr, if_pos (Int.negSucc_lt_zero size)]
    rfl

theorem word?_printInt {number : Int} (short : IsShort number) :
    word? (printInt number) = some (int number) := by
  have decimal : ∀ digit ∈ Nat.toDigits 10 number.natAbs, digit.isDigit = true :=
    fun digit member => Nat.isDigit_of_mem_toDigits (by decide) (by decide) member
  have plain : (Nat.toDigits 10 number.natAbs).head? = some '0' →
      (Nat.toDigits 10 number.natAbs).length ≤ 1 := by
    intro zero
    by_cases positive : 0 < number.natAbs
    · exact absurd zero (head?_toDigits positive)
    · rw [Nat.eq_zero_of_not_pos positive]
      decide
  have known := number?_of_digits (decide (number < 0)) Nat.toDigits_ne_nil decimal plain short
  refine word?_of_number? ?_
  rw [printInt_eq]
  simp only [decide_eq_true_eq] at known
  rw [known, Text.ofDigits_toDigits, Reading.signed]
  simp only [decide_eq_true_eq]
  split_ifs <;> congr <;> omega

theorem isWordChar_of_isDigit {character : Char} (decimal : character.isDigit = true) :
    isWordChar character = true := by
  simp [isWordChar, Char.isAlphanum, decimal]

theorem isWordChar_of_mem_printInt {number : Int} {character : Char}
    (member : character ∈ printInt number) : isWordChar character = true := by
  have decimal : ∀ digit ∈ Nat.toDigits 10 number.natAbs, isWordChar digit = true :=
    fun digit member => isWordChar_of_isDigit
      (Nat.isDigit_of_mem_toDigits (by decide) (by decide) member)
  rw [printInt_eq] at member
  split at member
  · rcases List.mem_cons.mp member with rfl | digit
    · rfl
    · exact decimal character digit
  · exact decimal character member

theorem printInt_ne_nil (number : Int) : printInt number ≠ [] := by
  rw [printInt_eq]
  split
  · exact List.cons_ne_nil _ _
  · exact Nat.toDigits_ne_nil

/-! ### Texts -/

/-- The numbers by which the printed form gives a character: its own, or those of two surrogates. -/
def units (character : Char) : List Nat :=
  if character.toNat < 0x10000 then [character.toNat]
  else [0xD800 + (character.toNat - 0x10000) / 0x400, 0xDC00 + (character.toNat - 0x10000) % 0x400]

theorem toNat_lt (character : Char) :
    character.toNat < 0xD800 ∨ 0xDFFF < character.toNat ∧ character.toNat < 0x110000 :=
  character.valid

theorem scalar?_toNat (character : Char) : scalar? character.toNat = some character := by
  have valid : character.toNat.isValidChar := character.valid
  rw [scalar?, if_pos valid, Char.ofNat_toNat]

theorem isHigh_toNat (character : Char) : isHigh character.toNat = false := by
  have range := toNat_lt character
  simp only [isHigh, Bool.and_eq_false_iff, decide_eq_false_iff_not]
  omega

theorem ofSurrogates_eq {character : Char} (wide : 0x10000 ≤ character.toNat) :
    ofSurrogates (0xD800 + (character.toNat - 0x10000) / 0x400)
      (0xDC00 + (character.toNat - 0x10000) % 0x400) = character := by
  have same : 0x10000 + (0xD800 + (character.toNat - 0x10000) / 0x400 - 0xD800) * 0x400 +
      (0xDC00 + (character.toNat - 0x10000) % 0x400 - 0xDC00) = character.toNat := by
    omega
  rw [ofSurrogates, same, Char.ofNat_toNat]

theorem characters?_units (character : Char) (rest : List Nat) :
    characters? (units character ++ rest) = (characters? rest).map (character :: ·) := by
  unfold units
  split
  next =>
    cases rest with
    | nil => simp [characters?, scalar?_toNat]
    | cons unit rest => simp [characters?, isHigh_toNat, scalar?_toNat]
  next wide =>
    have range := toNat_lt character
    have high : isHigh (0xD800 + (character.toNat - 0x10000) / 0x400) = true := by
      simp only [isHigh, Bool.and_eq_true, decide_eq_true_eq]
      omega
    have low : isLow (0xDC00 + (character.toNat - 0x10000) % 0x400) = true := by
      simp only [isLow, Bool.and_eq_true, decide_eq_true_eq]
      omega
    simp only [List.cons_append, List.nil_append, characters?, high, low, Bool.and_self, if_true,
      ofSurrogates_eq (Nat.not_lt.mp wide)]

theorem characters?_flatMap_units (characters : List Char) :
    characters? (characters.flatMap units) = some characters := by
  induction characters with
  | nil => rfl
  | cons character rest ih => rw [List.flatMap_cons, characters?_units, ih, Option.map_some]

theorem hexValue?_hexDigit {value : Nat} (small : value < 16) :
    hexValue? (Text.hexDigit value) = some value := by
  have each : ∀ value < 16, hexValue? (Text.hexDigit value) = some value := by decide
  exact each value small

section Texts

variable {builder : Builder} {rest : List Char}

theorem decodeFrom_hexDigit (read : List Nat) (due value : Nat) {digit : Nat} (small : digit < 16) :
    decodeFrom (.hex read due value) builder (Text.hexDigit digit :: rest) =
      decodeFrom (if due ≤ 1 then .quoted (read ++ [value * 16 + digit])
        else .hex read (due - 1) (value * 16 + digit)) builder rest := by
  refine decodeFrom_skip ?_
  rw [scan, hexValue?_hexDigit small, Option.map_some]

theorem decodeFrom_hex (read : List Nat) (width due value number : Nat) (more : 0 < due) :
    decodeFrom (.hex read (width + due) value) builder (Text.hex width number ++ rest) =
      decodeFrom (.hex read due (value * 16 ^ width + number % 16 ^ width)) builder rest := by
  induction width generalizing due number rest with
  | zero => simp [Text.hex, Nat.mod_one]
  | succ width ih =>
    have sum : (value * 16 ^ width + number / 16 % 16 ^ width) * 16 + number % 16 =
        value * 16 ^ (width + 1) + number % 16 ^ (width + 1) := by
      rw [Nat.pow_succ', Nat.mod_mul, Nat.add_mul, Nat.mul_assoc, Nat.mul_comm (16 ^ width)]
      omega
    rw [Text.hex, List.append_assoc, Nat.add_right_comm, Nat.add_assoc, ih (due + 1) _ (by omega),
      List.singleton_append, decodeFrom_hexDigit _ _ _ (Nat.mod_lt _ (by decide)),
      if_neg (by omega), sum, Nat.add_sub_cancel]

theorem decodeFrom_unicodeEscape (read : List Nat) {unit : Nat} (small : unit < 0x10000) :
    decodeFrom (.quoted read) builder (unicodeEscape unit ++ rest) =
      decodeFrom (.quoted (read ++ [unit])) builder rest := by
  have digits : Text.hex 4 unit = Text.hex 3 (unit / 16) ++ [Text.hexDigit (unit % 16)] := rfl
  have whole : (0 * 16 ^ 3 + unit / 16 % 16 ^ 3) * 16 + unit % 16 = unit := by omega
  rw [unicodeEscape, List.cons_append, List.cons_append, decodeFrom_skip rfl, decodeFrom_skip rfl,
    digits, List.append_assoc, decodeFrom_hex read 3 1 0 _ (by decide), List.singleton_append,
    decodeFrom_hexDigit _ _ _ (Nat.mod_lt _ (by decide)), if_pos (Nat.le_refl 1), whole]

theorem eq_ofNat_of_toNat {character : Char} {value : Nat} (same : character.toNat = value) :
    character = Char.ofNat value := by
  rw [← same, Char.ofNat_toNat]

theorem decodeFrom_escape {read : List Nat} {letter : Char} {unit : Nat}
    (stands : scan (.escaped read) letter = some ([], .quoted (read ++ [unit]))) :
    decodeFrom (.quoted read) builder (Text.backslash :: letter :: rest) =
      decodeFrom (.quoted (read ++ [unit])) builder rest := by
  rw [decodeFrom_skip rfl, decodeFrom_skip stands]

theorem decodeFrom_printChar (read : List Nat) (character : Char) :
    decodeFrom (.quoted read) builder (printChar character ++ rest) =
      decodeFrom (.quoted (read ++ units character)) builder rest := by
  have range := toNat_lt character
  unfold printChar
  dsimp only
  split_ifs with quoted shown newline carriage tab back form narrow
  · have either : character = Text.doubleQuote ∨ character = Text.backslash := by
      simp only [Bool.or_eq_true, decide_eq_true_eq] at quoted
      exact quoted.imp eq_ofNat_of_toNat eq_ofNat_of_toNat
    rcases either with rfl | rfl
    · exact decodeFrom_escape rfl
    · exact decodeFrom_escape rfl
  · simp only [Bool.or_eq_true, decide_eq_true_eq, not_or] at quoted
    simp only [Bool.and_eq_true, decide_eq_true_eq] at shown
    have noQuote : (character == Text.doubleQuote) = false :=
      beq_eq_false_iff_ne.mpr fun same => quoted.1 (by rw [same]; rfl)
    have noBackslash : (character == Text.backslash) = false :=
      beq_eq_false_iff_ne.mpr fun same => quoted.2 (by rw [same]; rfl)
    refine decodeFrom_skip ?_
    rw [units, if_pos (by omega)]
    simp [scan, noQuote, noBackslash, Nat.not_lt.mpr shown.1]
  · rw [eq_ofNat_of_toNat newline]
    exact decodeFrom_escape rfl
  · rw [eq_ofNat_of_toNat carriage]
    exact decodeFrom_escape rfl
  · rw [eq_ofNat_of_toNat tab]
    exact decodeFrom_escape rfl
  · rw [eq_ofNat_of_toNat back]
    exact decodeFrom_escape rfl
  · rw [eq_ofNat_of_toNat form]
    exact decodeFrom_escape rfl
  · rw [units, if_pos narrow, decodeFrom_unicodeEscape read narrow]
  · rw [units, if_neg narrow, List.append_assoc, decodeFrom_unicodeEscape read (by omega),
      decodeFrom_unicodeEscape _ (by omega), List.append_assoc]
    rfl

theorem decodeFrom_printChars (read : List Nat) (characters : List Char) :
    decodeFrom (.quoted read) builder (characters.flatMap printChar ++ rest) =
      decodeFrom (.quoted (read ++ characters.flatMap units)) builder rest := by
  induction characters generalizing read with
  | nil => rw [List.flatMap_nil, List.nil_append, List.flatMap_nil, List.append_nil]
  | cons character others ih =>
    rw [List.flatMap_cons, List.append_assoc, decodeFrom_printChar, ih, List.flatMap_cons,
      List.append_assoc]

theorem decodeFrom_printText {built : Builder} {value : String}
    (taken : builder.take (.atom (text value)) = some built) :
    decodeFrom .between builder (printText value ++ rest) = decodeFrom .between built rest := by
  have closes : scan (.quoted (value.toList.flatMap units)) Text.doubleQuote =
      some ([.atom (text value)], .between) := by
    simp [scan, characters?_flatMap_units]
  rw [printText, List.cons_append, List.cons_append, List.append_assoc, decodeFrom_skip rfl,
    decodeFrom_printChars, List.nil_append, List.singleton_append, decodeFrom_token closes taken]

end Texts

/-! ### Values -/

/-- Where the value is due, the reader takes its printed form for it. -/
def ReadsBack (value : Value) : Prop :=
  ∀ (level : Nat) (frames : List Frame) (rest : List Char), Stops rest →
    decodeFrom .between ⟨.value, frames⟩ (printAt level value ++ rest) =
      decodeFrom .between ⟨.done value, frames⟩ rest

theorem stops_lineBreak (level : Nat) (rest : List Char) : Stops (lineBreak level ++ rest) := by
  rintro character ⟨⟩
  rfl

theorem stops_printItems (level : Nat) (items : List Value) {rest : List Char}
    (stops : Stops rest) : Stops (printItems level items ++ rest) := by
  cases items with
  | nil => rwa [printItems, List.nil_append]
  | cons item items =>
    rw [printItems]
    rintro character ⟨⟩
    rfl

theorem stops_printMembers (level : Nat) (members : List (String × Value)) {rest : List Char}
    (stops : Stops rest) : Stops (printMembers level members ++ rest) := by
  cases members with
  | nil => rwa [printMembers, List.nil_append]
  | cons member members =>
    rw [printMembers]
    rintro character ⟨⟩
    rfl

theorem readsBack_word {value : Value} (word : List Char)
    (printed : ∀ level, printAt level value = word) (nonempty : word ≠ [])
    (letters : word.all isWordChar = true) (known : word? word = some value) : ReadsBack value := by
  intro level frames rest stops
  rw [printed]
  exact decodeFrom_word nonempty (List.all_eq_true.mp letters) known stops

theorem decodeFrom_printItems {items : List Value} (each : ∀ item ∈ items, ReadsBack item)
    (level inner : Nat) (before : List Value) (item : Value) (frames : List Frame)
    (rest : List Char) :
    decodeFrom .between ⟨.done item, .items before :: frames⟩
        (printItems inner items ++ (lineBreak level ++ ']' :: rest)) =
      decodeFrom .between ⟨.done (list (before ++ item :: items)), frames⟩ rest := by
  induction items generalizing before item with
  | nil => rw [printItems, List.nil_append, decodeFrom_lineBreak, decodeFrom_token rfl rfl]
  | cons next items ih =>
    have stops := stops_printItems inner items (stops_lineBreak level (']' :: rest))
    have others := ih fun other member => each other (List.mem_cons_of_mem _ member)
    rw [printItems, List.append_assoc, List.cons_append, List.cons_append, List.append_assoc,
      decodeFrom_token rfl rfl, decodeFrom_lineBreak, each next List.mem_cons_self inner _ _ stops,
      others, List.append_assoc, List.singleton_append]

theorem take_name (before : List (String × Value)) (name : String) (frames : List Frame) :
    Builder.take ⟨.name before, frames⟩ (.atom (text name)) =
      some ⟨.colon before name, frames⟩ := by
  cases before <;> rfl

theorem decodeFrom_printMember {value : Value} (reads : ReadsBack value) (level : Nat)
    (before : List (String × Value)) (name : String) (frames : List Frame) {rest : List Char}
    (stops : Stops rest) :
    decodeFrom .between ⟨.name before, frames⟩
        (lineBreak level ++ (printText name ++ ':' :: ' ' :: (printAt level value ++ rest))) =
      decodeFrom .between ⟨.done value, .member before name :: frames⟩ rest := by
  rw [decodeFrom_lineBreak, decodeFrom_printText (take_name before name frames),
    decodeFrom_token rfl rfl, decodeFrom_skip rfl, reads level _ _ stops]

theorem decodeFrom_printMembers {members : List (String × Value)}
    (each : ∀ member ∈ members, ReadsBack member.2) (level inner : Nat)
    (before : List (String × Value)) (name : String) (value : Value) (frames : List Frame)
    (rest : List Char) :
    decodeFrom .between ⟨.done value, .member before name :: frames⟩
        (printMembers inner members ++ (lineBreak level ++ Char.ofNat 0x7D :: rest)) =
      decodeFrom .between ⟨.done (record (before ++ (name, value) :: members)), frames⟩ rest := by
  induction members generalizing before name value with
  | nil => rw [printMembers, List.nil_append, decodeFrom_lineBreak, decodeFrom_token rfl rfl]
  | cons member members ih =>
    obtain ⟨next, other⟩ := member
    have stops := stops_printMembers inner members
      (stops_lineBreak level (Char.ofNat 0x7D :: rest))
    have reads : ReadsBack other := each (next, other) List.mem_cons_self
    have others := ih fun further member => each further (List.mem_cons_of_mem _ member)
    simp only [printMembers, List.append_assoc, List.cons_append, List.nil_append]
    rw [decodeFrom_token rfl rfl, decodeFrom_printMember reads inner _ _ _ stops, others,
      List.append_assoc, List.singleton_append]

theorem readsBack_list {items : List Value} (each : ∀ item ∈ items, ReadsBack item) :
    ReadsBack (list items) := by
  intro level frames rest _
  cases items with
  | nil => exact (decodeFrom_token rfl rfl).trans (decodeFrom_token rfl rfl)
  | cons item items =>
    have stops := stops_printItems (level + 1) items (stops_lineBreak level (']' :: rest))
    have others := decodeFrom_printItems (fun other member =>
      each other (List.mem_cons_of_mem _ member)) level (level + 1) [] item frames rest
    simp only [printAt, List.append_assoc, List.cons_append, List.nil_append]
    rw [decodeFrom_token rfl rfl, decodeFrom_lineBreak,
      each item List.mem_cons_self (level + 1) _ _ stops]
    exact others

theorem readsBack_record {members : List (String × Value)}
    (each : ∀ member ∈ members, ReadsBack member.2) : ReadsBack (record members) := by
  intro level frames rest _
  cases members with
  | nil => exact (decodeFrom_token rfl rfl).trans (decodeFrom_token rfl rfl)
  | cons member members =>
    obtain ⟨name, value⟩ := member
    have stops := stops_printMembers (level + 1) members
      (stops_lineBreak level (Char.ofNat 0x7D :: rest))
    have reads : ReadsBack value := each (name, value) List.mem_cons_self
    have others := decodeFrom_printMembers (fun other member =>
      each other (List.mem_cons_of_mem _ member)) level (level + 1) [] name value frames rest
    simp only [printAt, List.append_assoc, List.cons_append, List.nil_append]
    rw [decodeFrom_token rfl rfl, decodeFrom_printMember reads (level + 1) _ _ _ stops]
    exact others

theorem Plain.readsBack {value : Value} (plain : Plain value) : ReadsBack value := by
  induction plain with
  | null => exact readsBack_word "null".toList (fun _ => rfl) (by decide) (by decide) rfl
  | bool value =>
    cases value with
    | true => exact readsBack_word "true".toList (fun _ => rfl) (by decide) (by decide) rfl
    | false => exact readsBack_word "false".toList (fun _ => rfl) (by decide) (by decide) rfl
  | @int number short =>
    exact readsBack_word (printInt number) (fun _ => rfl) (printInt_ne_nil number)
      (List.all_eq_true.mpr fun _ => isWordChar_of_mem_printInt) (word?_printInt short)
  | text value => exact fun _ _ _ _ => decodeFrom_printText rfl
  | list _ each => exact readsBack_list each
  | record _ each => exact readsBack_record each

/-- What is printed is read back. -/
theorem decode?_print {value : Value} (plain : Plain value) : decode? value.print = some value := by
  have read := plain.readsBack 0 [] [] (fun _ none => absurd none (by simp))
  rw [List.append_nil] at read
  rw [decode?, print, String.toList_ofList, read]
  rfl

/-- Surrogates are read in pairs, and an escape stands for a character that may stand for itself. -/
example : decode? "\"\\ud83d\\uDE00\\/\"" = some (text (String.ofList [Char.ofNat 0x1F600, '/'])) :=
  rfl

example : decode? "[1, ]" = none :=
  rfl

/-! ### ASCII -/

def Ascii (characters : List Char) : Prop :=
  ∀ character ∈ characters, character.toNat < 0x80

instance (characters : List Char) : Decidable (Ascii characters) :=
  List.decidableBAll (fun character : Char => character.toNat < 0x80) characters

@[simp] theorem ascii_nil : Ascii [] :=
  List.forall_mem_nil _

@[simp] theorem ascii_cons {character : Char} {rest : List Char} :
    Ascii (character :: rest) ↔ character.toNat < 0x80 ∧ Ascii rest :=
  List.forall_mem_cons

@[simp] theorem ascii_append {first second : List Char} :
    Ascii (first ++ second) ↔ Ascii first ∧ Ascii second :=
  List.forall_mem_append

theorem ascii_hex (width value : Nat) : Ascii (Text.hex width value) := by
  have digits : ∀ digit < 16, (Text.hexDigit digit).toNat < 0x80 := by decide
  induction width generalizing value with
  | zero => exact ascii_nil
  | succ width ih =>
    rw [Text.hex, ascii_append, ascii_cons]
    exact ⟨ih (value / 16), digits (value % 16) (Nat.mod_lt _ (by decide)), ascii_nil⟩

theorem ascii_unicodeEscape (unit : Nat) : Ascii (unicodeEscape unit) := by
  rw [unicodeEscape, ascii_cons, ascii_cons]
  exact ⟨by decide, by decide, ascii_hex 4 unit⟩

theorem ascii_printChar (character : Char) : Ascii (printChar character) := by
  unfold printChar
  dsimp only
  split_ifs with quoted shown
  · simp only [Bool.or_eq_true, decide_eq_true_eq] at quoted
    rw [ascii_cons, ascii_cons]
    exact ⟨by decide, by omega, ascii_nil⟩
  · simp only [Bool.and_eq_true, decide_eq_true_eq] at shown
    rw [ascii_cons]
    exact ⟨by omega, ascii_nil⟩
  case _ | _ | _ | _ | _ =>
    rw [ascii_cons, ascii_cons]
    exact ⟨by decide, by decide, ascii_nil⟩
  · exact ascii_unicodeEscape _
  · exact ascii_append.mpr ⟨ascii_unicodeEscape _, ascii_unicodeEscape _⟩

theorem ascii_printText (value : String) : Ascii (printText value) := by
  have inside : Ascii (value.toList.flatMap printChar) := by
    intro character member
    obtain ⟨printed, _, within⟩ := List.mem_flatMap.mp member
    exact ascii_printChar printed character within
  rw [printText, List.cons_append, ascii_cons, ascii_append, ascii_cons]
  exact ⟨by decide, inside, by decide, ascii_nil⟩

theorem ascii_printInt (number : Int) : Ascii (printInt number) := by
  have digits : Ascii (Nat.toDigits 10 number.natAbs) := by
    intro digit member
    have range := Text.toNat_of_isDigit
      (Nat.isDigit_of_mem_toDigits (by decide) (by decide) member)
    omega
  rw [printInt_eq]
  split
  · exact ascii_cons.mpr ⟨by decide, digits⟩
  · exact digits

theorem ascii_lineBreak (level : Nat) : Ascii (lineBreak level) := by
  rw [lineBreak, ascii_cons]
  refine ⟨by decide, fun character member => ?_⟩
  rw [(List.mem_replicate.mp member).2]
  decide

theorem ascii_printItems {items : List Value}
    (each : ∀ item ∈ items, ∀ level, Ascii (printAt level item)) (level : Nat) :
    Ascii (printItems level items) := by
  induction items with
  | nil => exact ascii_nil
  | cons item items ih =>
    have others := ih fun other member => each other (List.mem_cons_of_mem _ member)
    simp [printItems, ascii_lineBreak, each item List.mem_cons_self level, others]

theorem ascii_printMembers {members : List (String × Value)}
    (each : ∀ member ∈ members, ∀ level, Ascii (printAt level member.2)) (level : Nat) :
    Ascii (printMembers level members) := by
  induction members with
  | nil => exact ascii_nil
  | cons member members ih =>
    obtain ⟨name, value⟩ := member
    have others := ih fun other member => each other (List.mem_cons_of_mem _ member)
    have here : Ascii (printAt level value) := each (name, value) List.mem_cons_self level
    simp [printMembers, ascii_lineBreak, ascii_printText, here, others]

theorem Plain.ascii {value : Value} (plain : Plain value) (level : Nat) :
    Ascii (printAt level value) := by
  have words : Ascii "null".toList ∧ Ascii "true".toList ∧ Ascii "false".toList := by decide
  have brackets : Ascii "[]".toList ∧ Ascii "\x7b\x7d".toList := by decide
  induction plain generalizing level with
  | null => exact words.1
  | bool value =>
    cases value with
    | true => exact words.2.1
    | false => exact words.2.2
  | int _ => exact ascii_printInt _
  | text value => exact ascii_printText value
  | @list items _ each =>
    cases items with
    | nil => exact brackets.1
    | cons item items =>
      have others := ascii_printItems (fun other member =>
        each other (List.mem_cons_of_mem _ member)) (level + 1)
      simp [printAt, ascii_lineBreak, each item List.mem_cons_self (level + 1), others]
  | @record members _ each =>
    cases members with
    | nil => exact brackets.2
    | cons member members =>
      obtain ⟨name, value⟩ := member
      have others := ascii_printMembers (fun other member =>
        each other (List.mem_cons_of_mem _ member)) (level + 1)
      have here : Ascii (printAt (level + 1) value) :=
        each (name, value) List.mem_cons_self (level + 1)
      simp [printAt, ascii_lineBreak, ascii_printText, here, others]

end Mutant.Value
