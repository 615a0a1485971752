import Mathlib.Data.List.Basic
import Mutant.Text.Utf8

/-!
Reading UTF-8. The automaton takes exactly the bytes of encoded characters, one character at a time,
so it reads a text just when the bytes encode one, and otherwise it stops behind the longest
beginning that does.
-/

namespace Mutant.Utf8

/-- The bytes complete a character that has begun. -/
inductive Follows : Pending → Bytes → Nat → Prop where
  | last {state : Pending} {byte : UInt8} {value : Nat} :
      follow state byte = .character value → Follows state [byte] value
  | more {state next : Pending} {byte : UInt8} {rest : Bytes} {value : Nat} :
      follow state byte = .pending next → Follows next rest value →
      Follows state (byte :: rest) value

inductive Spells : Bytes → Nat → Prop where
  | single {byte : UInt8} {value : Nat} : lead byte = .character value → Spells [byte] value
  | several {state : Pending} {byte : UInt8} {rest : Bytes} {value : Nat} :
      lead byte = .pending state → Follows state rest value → Spells (byte :: rest) value

theorem lead_eq_character_iff {byte : UInt8} {value : Nat} :
    lead byte = .character value ↔ byte.toNat < 0x80 ∧ value = byte.toNat := by
  unfold lead
  dsimp only
  generalize byte.toNat = code
  grind

theorem lead_eq_pending_iff {byte : UInt8} {state : Pending} :
    lead byte = .pending state ↔
      0xC2 ≤ byte.toNat ∧ byte.toNat < 0xE0 ∧ state = ⟨byte.toNat - 0xC0, 1, 0x80, 0xBF⟩ ∨
      0xE0 ≤ byte.toNat ∧ byte.toNat < 0xF0 ∧
        state = ⟨byte.toNat - 0xE0, 2, if byte.toNat = 0xE0 then 0xA0 else 0x80,
          if byte.toNat = 0xED then 0x9F else 0xBF⟩ ∨
      0xF0 ≤ byte.toNat ∧ byte.toNat < 0xF5 ∧
        state = ⟨byte.toNat - 0xF0, 3, if byte.toNat = 0xF0 then 0x90 else 0x80,
          if byte.toNat = 0xF4 then 0x8F else 0xBF⟩ := by
  unfold lead
  dsimp only
  generalize byte.toNat = code
  obtain ⟨value, due, low, high⟩ := state
  grind

theorem follow_eq_character_iff {state : Pending} {byte : UInt8} {value : Nat} :
    follow state byte = .character value ↔
      (state.low ≤ byte.toNat ∧ byte.toNat ≤ state.high) ∧ state.due ≤ 1 ∧
        value = state.value * 0x40 + (byte.toNat - 0x80) := by
  unfold follow
  dsimp only
  obtain ⟨bits, due, low, high⟩ := state
  split_ifs <;> grind

theorem follow_eq_pending_iff {state next : Pending} {byte : UInt8} :
    follow state byte = .pending next ↔
      (state.low ≤ byte.toNat ∧ byte.toNat ≤ state.high) ∧ 1 < state.due ∧
        next = ⟨state.value * 0x40 + (byte.toNat - 0x80), state.due - 1, 0x80, 0xBF⟩ := by
  unfold follow
  dsimp only
  obtain ⟨bits, due, low, high⟩ := state
  split_ifs <;> grind

theorem follows_last_iff {state : Pending} {bytes : Bytes} {value : Nat} (last : state.due ≤ 1) :
    Follows state bytes value ↔ ∃ byte, bytes = [byte] ∧
      (state.low ≤ byte.toNat ∧ byte.toNat ≤ state.high) ∧
      value = state.value * 0x40 + (byte.toNat - 0x80) := by
  constructor
  · intro follows
    cases follows with
    | last taken =>
      obtain ⟨inRange, -, same⟩ := follow_eq_character_iff.mp taken
      exact ⟨_, rfl, inRange, same⟩
    | more taken _ => exact absurd (follow_eq_pending_iff.mp taken).2.1 (by omega)
  · rintro ⟨byte, rfl, inRange, same⟩
    exact .last (follow_eq_character_iff.mpr ⟨inRange, last, same⟩)

theorem follows_more_iff {state : Pending} {bytes : Bytes} {value : Nat} (more : 1 < state.due) :
    Follows state bytes value ↔ ∃ byte rest, bytes = byte :: rest ∧
      (state.low ≤ byte.toNat ∧ byte.toNat ≤ state.high) ∧
      Follows ⟨state.value * 0x40 + (byte.toNat - 0x80), state.due - 1, 0x80, 0xBF⟩ rest value := by
  constructor
  · intro follows
    cases follows with
    | last taken => exact absurd (follow_eq_character_iff.mp taken).2.1 (by omega)
    | more taken others =>
      obtain ⟨inRange, -, rfl⟩ := follow_eq_pending_iff.mp taken
      exact ⟨_, _, rfl, inRange, others⟩
  · rintro ⟨byte, rest, rfl, inRange, others⟩
    exact .more (follow_eq_pending_iff.mpr ⟨inRange, more, rfl⟩) others

theorem narrowed_iff {code least most next low high : Nat} (above : 0x80 ≤ low)
    (below : high ≤ 0xBF) :
    ((if code = least then low else 0x80) ≤ next ∧ next ≤ if code = most then high else 0xBF) ↔
      (0x80 ≤ next ∧ next ≤ 0xBF) ∧ (code = least → low ≤ next) ∧ (code = most → next ≤ high) := by
  split_ifs <;> omega

/-- What the automaton takes for a character, byte by byte. The narrowed ranges for the second byte
leave out what has a shorter spelling, surrogates, and values above U+10FFFF. -/
theorem spells_iff {bytes : Bytes} {value : Nat} :
    Spells bytes value ↔
      (∃ first, bytes = [first] ∧ first.toNat < 0x80 ∧ value = first.toNat) ∨
      (∃ first second, bytes = [first, second] ∧
        (0xC2 ≤ first.toNat ∧ first.toNat < 0xE0) ∧
        (0x80 ≤ second.toNat ∧ second.toNat ≤ 0xBF) ∧
        value = (first.toNat - 0xC0) * 0x40 + (second.toNat - 0x80)) ∨
      (∃ first second third, bytes = [first, second, third] ∧
        (0xE0 ≤ first.toNat ∧ first.toNat < 0xF0) ∧
        ((0x80 ≤ second.toNat ∧ second.toNat ≤ 0xBF) ∧
          (first.toNat = 0xE0 → 0xA0 ≤ second.toNat) ∧
          (first.toNat = 0xED → second.toNat ≤ 0x9F)) ∧
        (0x80 ≤ third.toNat ∧ third.toNat ≤ 0xBF) ∧
        value = ((first.toNat - 0xE0) * 0x40 + (second.toNat - 0x80)) * 0x40 +
          (third.toNat - 0x80)) ∨
      ∃ first second third fourth, bytes = [first, second, third, fourth] ∧
        (0xF0 ≤ first.toNat ∧ first.toNat < 0xF5) ∧
        ((0x80 ≤ second.toNat ∧ second.toNat ≤ 0xBF) ∧
          (first.toNat = 0xF0 → 0x90 ≤ second.toNat) ∧
          (first.toNat = 0xF4 → second.toNat ≤ 0x8F)) ∧
        (0x80 ≤ third.toNat ∧ third.toNat ≤ 0xBF) ∧
        (0x80 ≤ fourth.toNat ∧ fourth.toNat ≤ 0xBF) ∧
        value = (((first.toNat - 0xF0) * 0x40 + (second.toNat - 0x80)) * 0x40 +
          (third.toNat - 0x80)) * 0x40 + (fourth.toNat - 0x80) := by
  constructor
  · intro spells
    cases spells with
    | @single first _ taken =>
      exact Or.inl ⟨first, rfl, lead_eq_character_iff.mp taken⟩
    | @several _ first _ _ opened others =>
      -- Two, three or four bytes, as the first one tells.
      rcases lead_eq_pending_iff.mp opened with
        ⟨low, high, rfl⟩ | ⟨low, high, rfl⟩ | ⟨low, high, rfl⟩
      · obtain ⟨second, rfl, inRange, same⟩ := (follows_last_iff (Nat.le_refl 1)).mp others
        exact Or.inr (Or.inl ⟨first, second, rfl, ⟨low, high⟩, inRange, same⟩)
      · obtain ⟨second, _, rfl, inRange, others⟩ := (follows_more_iff (by simp)).mp others
        obtain ⟨third, rfl, thirdRange, same⟩ := (follows_last_iff (Nat.le_refl 1)).mp others
        exact Or.inr (Or.inr (Or.inl
          ⟨first, second, third, rfl, ⟨low, high⟩,
            (narrowed_iff (by decide) (by decide)).mp inRange, thirdRange, same⟩))
      · obtain ⟨second, _, rfl, inRange, others⟩ := (follows_more_iff (by simp)).mp others
        obtain ⟨third, _, rfl, thirdRange, others⟩ := (follows_more_iff (by simp)).mp others
        obtain ⟨fourth, rfl, fourthRange, same⟩ := (follows_last_iff (Nat.le_refl 1)).mp others
        exact Or.inr (Or.inr (Or.inr
          ⟨first, second, third, fourth, rfl, ⟨low, high⟩,
            (narrowed_iff (by decide) (by decide)).mp inRange, thirdRange, fourthRange, same⟩))
  · rintro (⟨first, rfl, taken⟩ | ⟨first, second, rfl, ⟨low, high⟩, inRange, same⟩ |
      ⟨first, second, third, rfl, ⟨low, high⟩, inRange, thirdRange, same⟩ |
      ⟨first, second, third, fourth, rfl, ⟨low, high⟩, inRange, thirdRange, fourthRange, same⟩)
    · exact .single (lead_eq_character_iff.mpr taken)
    · refine .several (lead_eq_pending_iff.mpr (Or.inl ⟨low, high, rfl⟩)) ?_
      exact (follows_last_iff (Nat.le_refl 1)).mpr ⟨second, rfl, inRange, same⟩
    · refine .several (lead_eq_pending_iff.mpr (Or.inr (Or.inl ⟨low, high, rfl⟩))) ?_
      refine (follows_more_iff (by simp)).mpr ⟨second, _, rfl,
        (narrowed_iff (by decide) (by decide)).mpr inRange, ?_⟩
      exact (follows_last_iff (Nat.le_refl 1)).mpr ⟨third, rfl, thirdRange, same⟩
    · refine .several (lead_eq_pending_iff.mpr (Or.inr (Or.inr ⟨low, high, rfl⟩))) ?_
      refine (follows_more_iff (by simp)).mpr ⟨second, _, rfl,
        (narrowed_iff (by decide) (by decide)).mpr inRange, ?_⟩
      refine (follows_more_iff (by simp)).mpr ⟨third, _, rfl, thirdRange, ?_⟩
      exact (follows_last_iff (Nat.le_refl 1)).mpr ⟨fourth, rfl, fourthRange, same⟩

theorem spells_encodeChar (character : Char) :
    Spells (encodeChar character) character.toNat := by
  have valid : character.toNat < 0xD800 ∨ 0xDFFF < character.toNat ∧ character.toNat < 0x110000 :=
    character.valid
  unfold encodeChar
  dsimp only
  generalize character.toNat = code at valid
  rw [spells_iff]
  split_ifs with one two three
  · refine Or.inl ⟨_, rfl, ?_⟩
    simp only [UInt8.toNat_ofNat']
    omega
  · refine Or.inr (Or.inl ⟨_, _, rfl, ?_⟩)
    simp only [UInt8.toNat_ofNat']
    omega
  · refine Or.inr (Or.inr (Or.inl ⟨_, _, _, rfl, ?_⟩))
    simp only [UInt8.toNat_ofNat']
    omega
  · refine Or.inr (Or.inr (Or.inr ⟨_, _, _, _, rfl, ?_⟩))
    simp only [UInt8.toNat_ofNat']
    omega

theorem ofNat_eq (byte : UInt8) {code : Nat} (same : code = byte.toNat) :
    UInt8.ofNat code = byte := by
  rw [same, UInt8.ofNat_toNat]

theorem exists_toNat_eq {code : Nat}
    (valid : code < 0xD800 ∨ 0xDFFF < code ∧ code < 0x110000) :
    ∃ character : Char, character.toNat = code := by
  have scalar : code.isValidChar := valid
  exact ⟨Char.ofNatAux code scalar, rfl⟩

theorem Spells.eq_encodeChar {bytes : Bytes} {value : Nat} (spells : Spells bytes value) :
    ∃ character : Char, character.toNat = value ∧ bytes = encodeChar character := by
  rcases spells_iff.mp spells with
    ⟨first, rfl, range, same⟩ | ⟨first, second, rfl, range, secondRange, same⟩ |
    ⟨first, second, third, rfl, range, secondRange, thirdRange, same⟩ |
    ⟨first, second, third, fourth, rfl, range, secondRange, thirdRange, fourthRange, same⟩
  · obtain ⟨character, code⟩ := @exists_toNat_eq value (by omega)
    refine ⟨character, code, ?_⟩
    simp only [encodeChar, code]
    rw [if_pos (by omega), ofNat_eq first (by omega)]
  · obtain ⟨character, code⟩ := @exists_toNat_eq value (by omega)
    refine ⟨character, code, ?_⟩
    simp only [encodeChar, code]
    rw [if_neg (by omega), if_pos (by omega), ofNat_eq first (by omega),
      ofNat_eq second (by omega)]
  · obtain ⟨character, code⟩ := @exists_toNat_eq value (by omega)
    refine ⟨character, code, ?_⟩
    simp only [encodeChar, code]
    rw [if_neg (by omega), if_neg (by omega), if_pos (by omega), ofNat_eq first (by omega),
      ofNat_eq second (by omega), ofNat_eq third (by omega)]
  · obtain ⟨character, code⟩ := @exists_toNat_eq value (by omega)
    refine ⟨character, code, ?_⟩
    simp only [encodeChar, code]
    rw [if_neg (by omega), if_neg (by omega), if_neg (by omega), ofNat_eq first (by omega),
      ofNat_eq second (by omega), ofNat_eq third (by omega), ofNat_eq fourth (by omega)]

def Valid (bytes : Bytes) : Prop :=
  ∃ text, bytes = encode text

/-- No character begins where the bytes begin. -/
def Stuck (bytes : Bytes) : Prop :=
  ∀ character more, bytes ≠ encodeChar character ++ more

theorem encode_cons (character : Char) (text : List Char) :
    encode (character :: text) = encodeChar character ++ encode text :=
  rfl

theorem encode_append (first second : List Char) :
    encode (first ++ second) = encode first ++ encode second :=
  List.flatMap_append

theorem decodeFrom_of_follows {state : Pending} {bytes : Bytes} {value : Nat}
    (follows : Follows state bytes value) (start offset : Nat) (rest : Bytes) :
    decodeFrom start offset (some state) (bytes ++ rest) =
      (decodeFrom (offset + bytes.length) (offset + bytes.length) none rest).map
        (Char.ofNat value :: ·) := by
  induction follows generalizing offset with
  | last taken => simp only [List.singleton_append, decodeFrom, taken, List.length_singleton]
  | @more _ _ byte bytes _ taken _ ih =>
    have behind : offset + (byte :: bytes).length = offset + 1 + bytes.length := by
      rw [List.length_cons]
      omega
    simp only [List.cons_append, decodeFrom, taken, ih, behind]

theorem decodeFrom_encodeChar (character : Char) (start offset : Nat) (rest : Bytes) :
    decodeFrom start offset none (encodeChar character ++ rest) =
      (decodeFrom (offset + (encodeChar character).length)
        (offset + (encodeChar character).length) none rest).map (character :: ·) := by
  have spells := spells_encodeChar character
  generalize encodeChar character = bytes at spells
  generalize coded : character.toNat = value at spells
  have same : Char.ofNat value = character := by rw [← coded, Char.ofNat_toNat]
  cases spells with
  | single taken =>
    simp only [List.singleton_append, decodeFrom, taken, List.length_singleton, same]
  | @several _ byte bytes _ opened follows =>
    have behind : offset + (byte :: bytes).length = offset + 1 + bytes.length := by
      rw [List.length_cons]
      omega
    simp only [List.cons_append, decodeFrom, opened, decodeFrom_of_follows follows, same, behind]

theorem decodeFrom_encode (text : List Char) (offset : Nat) (rest : Bytes) :
    decodeFrom offset offset none (encode text ++ rest) =
      (decodeFrom (offset + (encode text).length) (offset + (encode text).length) none rest).map
        (text ++ ·) := by
  induction text generalizing offset with
  | nil =>
    change decodeFrom offset offset none rest =
      (decodeFrom offset offset none rest).map ([] ++ ·)
    cases decodeFrom offset offset none rest <;> rfl
  | cons character text ih =>
    have behind : offset + (encode (character :: text)).length =
        offset + (encodeChar character).length + (encode text).length := by
      rw [encode_cons, List.length_append]
      omega
    rw [behind, encode_cons, List.append_assoc, decodeFrom_encodeChar, ih]
    cases decodeFrom _ _ none rest <;> rfl

theorem length_encodeChar_pos (character : Char) : 0 < (encodeChar character).length := by
  unfold encodeChar
  dsimp only
  split_ifs <;> simp

theorem follows_or_stops (state : Pending) (start offset : Nat) (bytes : Bytes) :
    (∃ first rest value, bytes = first ++ rest ∧ Follows state first value) ∨
      ∃ malformed, decodeFrom start offset (some state) bytes = .error malformed ∧
        malformed.start = start := by
  induction bytes generalizing state offset with
  | nil => exact Or.inr ⟨_, rfl, rfl⟩
  | cons byte bytes ih =>
    cases taken : follow state byte with
    | character value => exact Or.inl ⟨[byte], bytes, value, rfl, .last taken⟩
    | pending next =>
      rcases ih next (offset + 1) with ⟨first, rest, value, rfl, follows⟩ | ⟨malformed, stopped, at_⟩
      · exact Or.inl ⟨byte :: first, rest, value, rfl, .more taken follows⟩
      · exact Or.inr ⟨malformed, by simp only [decodeFrom, taken, stopped], at_⟩
    | broken => exact Or.inr ⟨_, by simp only [decodeFrom, taken]; rfl, rfl⟩

theorem Stuck.stops {bytes : Bytes} (stuck : Stuck bytes) (nonempty : bytes ≠ [])
    (start offset : Nat) :
    ∃ malformed, decodeFrom start offset none bytes = .error malformed ∧
      malformed.start = offset := by
  cases bytes with
  | nil => exact absurd rfl nonempty
  | cons byte rest =>
    have nothing : ∀ first more value, byte :: rest = first ++ more → ¬Spells first value := by
      intro first more value divided spells
      obtain ⟨character, -, rfl⟩ := spells.eq_encodeChar
      exact stuck character more divided
    cases opened : lead byte with
    | character value => exact absurd (.single opened) (nothing [byte] rest value rfl)
    | pending state =>
      rcases follows_or_stops state offset (offset + 1) rest with
        ⟨first, more, value, rfl, follows⟩ | ⟨malformed, stopped, begun⟩
      · exact absurd (.several opened follows) (nothing (byte :: first) more value rfl)
      · exact ⟨malformed, by simp only [decodeFrom, opened, stopped], begun⟩
    | broken => exact ⟨_, by simp only [decodeFrom, opened]; rfl, rfl⟩

/-- Any bytes begin with a text, behind which no character begins. -/
theorem exists_encode_append_stuck (bytes : Bytes) :
    ∃ text rest, bytes = encode text ++ rest ∧ Stuck rest := by
  -- By induction on the number of bytes: an encoded character is never empty.
  induction length : bytes.length using Nat.strongRecOn generalizing bytes with
  | _ count ih =>
    by_cases stuck : Stuck bytes
    · exact ⟨[], bytes, rfl, stuck⟩
    · simp only [Stuck, not_forall, not_not] at stuck
      obtain ⟨character, more, rfl⟩ := stuck
      have nonempty := length_encodeChar_pos character
      rw [List.length_append] at length
      obtain ⟨text, rest, rfl, stuck⟩ := ih more.length (by omega) more rfl
      exact ⟨character :: text, rest, by rw [encode_cons, List.append_assoc], stuck⟩

theorem decode_encode (text : List Char) : decode (encode text) = .ok text := by
  have read := decodeFrom_encode text 0 []
  rw [List.append_nil] at read
  rw [decode, read]
  simp [decodeFrom, Except.map]

theorem decode_encode_append {text : List Char} {rest : Bytes} (stuck : Stuck rest)
    (nonempty : rest ≠ []) :
    ∃ malformed, decode (encode text ++ rest) = .error malformed ∧
      malformed.start = (encode text).length := by
  obtain ⟨malformed, stopped, start⟩ := stuck.stops nonempty (0 + (encode text).length)
    (0 + (encode text).length)
  refine ⟨malformed, ?_, by omega⟩
  rw [decode, decodeFrom_encode, stopped]
  rfl

theorem decode_eq_ok_iff {bytes : Bytes} {text : List Char} :
    decode bytes = .ok text ↔ bytes = encode text := by
  constructor
  · intro read
    obtain ⟨found, rest, rfl, stuck⟩ := exists_encode_append_stuck bytes
    by_cases ended : rest = []
    · subst ended
      rw [List.append_nil, decode_encode] at read
      rw [List.append_nil, Except.ok.inj read]
    · obtain ⟨malformed, stopped, -⟩ := @decode_encode_append found rest stuck ended
      rw [stopped] at read
      exact absurd read (by simp)
  · rintro rfl
    exact decode_encode text

theorem valid_iff {bytes : Bytes} : Valid bytes ↔ ∃ text, decode bytes = .ok text := by
  simp only [Valid, decode_eq_ok_iff]

theorem Stuck.not_valid {text : List Char} {rest : Bytes} (stuck : Stuck rest)
    (nonempty : rest ≠ []) : ¬Valid (encode text ++ rest) := by
  obtain ⟨malformed, stopped, -⟩ := @decode_encode_append text rest stuck nonempty
  rw [valid_iff, stopped]
  simp

theorem Stuck.take {rest : Bytes} (stuck : Stuck rest) (count : Nat) : Stuck (rest.take count) := by
  intro character more divided
  refine stuck character (more ++ rest.drop count) ?_
  rw [← List.append_assoc, ← divided, List.take_append_drop]

/-- The beginning of that length is valid, and no longer one is. -/
structure LongestValid (bytes : Bytes) (length : Nat) : Prop where
  within : length ≤ bytes.length
  valid : Valid (bytes.take length)
  longest : ∀ other, length < other → other ≤ bytes.length → ¬Valid (bytes.take other)

/-- The reader refuses bytes at the end of the longest beginning that is valid. -/
theorem longestValid_of_decode {bytes : Bytes} {malformed : Malformed}
    (refused : decode bytes = .error malformed) : LongestValid bytes malformed.start := by
  obtain ⟨text, rest, rfl, stuck⟩ := exists_encode_append_stuck bytes
  have nonempty : rest ≠ [] := by
    rintro rfl
    rw [List.append_nil, decode_encode] at refused
    exact absurd refused (by simp)
  obtain ⟨_, stopped, start⟩ := @decode_encode_append text rest stuck nonempty
  rw [refused] at stopped
  obtain rfl := Except.error.inj stopped
  rw [start]
  refine ⟨by simp, ⟨text, List.take_left⟩, fun other longer within => ?_⟩
  rw [List.length_append] at within
  rw [List.take_append, List.take_of_length_le (by omega)]
  refine (stuck.take _).not_valid ?_
  rw [ne_eq, List.take_eq_nil_iff, not_or]
  exact ⟨by omega, nonempty⟩

theorem decodeLossyFrom_of_follows {state : Pending} {bytes : Bytes} {value : Nat}
    (follows : Follows state bytes value) (rest : Bytes) :
    decodeLossyFrom (some state) (bytes ++ rest) = Char.ofNat value :: decodeLossyFrom none rest := by
  induction follows with
  | last taken => simp only [List.singleton_append, decodeLossyFrom, taken]
  | more taken _ ih => simp only [List.cons_append, decodeLossyFrom, taken, ih]

theorem decodeLossyFrom_encodeChar (character : Char) (rest : Bytes) :
    decodeLossyFrom none (encodeChar character ++ rest) =
      character :: decodeLossyFrom none rest := by
  have spells := spells_encodeChar character
  generalize encodeChar character = bytes at spells
  generalize coded : character.toNat = value at spells
  have same : Char.ofNat value = character := by rw [← coded, Char.ofNat_toNat]
  cases spells with
  | single taken => simp only [List.singleton_append, decodeLossyFrom, taken, same]
  | several opened follows =>
    simp only [List.cons_append, decodeLossyFrom, opened, decodeLossyFrom_of_follows follows, same]

theorem decodeLossy_encode (text : List Char) : decodeLossy (encode text) = text := by
  induction text with
  | nil => rfl
  | cons character text ih =>
    rw [encode_cons, decodeLossy, decodeLossyFrom_encodeChar, ← decodeLossy, ih]

theorem toText_of_decode {bytes : Bytes} {text : List Char} (read : decode bytes = .ok text) :
    toText bytes = String.ofList text := by
  rw [decode_eq_ok_iff.mp read, toText, decodeLossy_encode]

end Mutant.Utf8
