import Mutant.Mutation
import Mutant.Proofs.BindingPreservation
import Mutant.Proofs.Reselection

/-!
Renaming again and again. Each application takes the candidate that the policy picks off the list of
its family, and leaves the lists of the other families as they are but for the move of the offsets.
So every candidate is renamed once, in the order in which they are picked, and then nothing changes.
-/

namespace Mutant

theorem Twister.drawBelow_lt (allowance : Nat) {bound : Nat} (positive : 0 < bound)
    (twister : Twister) : drawBelow allowance bound twister < bound := by
  induction allowance generalizing twister with
  | zero => exact positive
  | succ allowance ih =>
    rw [drawBelow]
    split
    next value rest _ =>
      by_cases below : value < bound
      · rw [if_pos below]
        exact below
      · rw [if_neg below]
        exact ih rest

theorem Twister.below_lt (seed : Int) {bound : Nat} (positive : 0 < bound) :
    below seed bound < bound :=
  drawBelow_lt 10000 positive (ofSeed seed)

namespace Policy

theorem position_lt (policy : Policy) {count : Nat} (positive : 0 < count) :
    ∃ position, policy.position count = some position ∧ position < count := by
  unfold position
  rw [if_neg (by omega)]
  cases policy.index with
  | some index => exact ⟨min index.toNat (count - 1), rfl, by omega⟩
  | none =>
    cases policy.seed with
    | some seed => exact ⟨Twister.below seed count, rfl, Twister.below_lt seed positive⟩
    | none => exact ⟨0, rfl, positive⟩

theorem exists_picked {α : Type} (policy : Policy) {candidates : List α}
    (nonempty : candidates ≠ []) :
    ∃ before picked after, candidates = before ++ picked :: after ∧
      policy.position candidates.length = some before.length ∧
      policy.pick candidates = some picked := by
  obtain ⟨position, chosen, within⟩ := policy.position_lt (List.length_pos_iff.mpr nonempty)
  refine ⟨candidates.take position, candidates[position], candidates.drop (position + 1), ?_, ?_, ?_⟩
  · rw [List.getElem_cons_drop, List.take_append_drop]
  · rw [List.length_take_of_le (Nat.le_of_lt within), chosen]
  · rw [pick, chosen, Option.bind_some, List.getElem?_eq_getElem within]

end Policy

namespace Operator

open Candidate Rename

def renamedFamily? : Operator → Option Family
  | renameLocal => some .localVariable
  | renameParameter => some .parameter
  | _ => none

/-- The draft takes the picked candidate off the list of its family, and nothing off the others; all
offsets move along with the text. -/
def TakesPicked (file : SourceFile) (marker : Bytes) (family : Family) (policy : Policy)
    (draft : Draft) : Prop :=
  (∃ before candidate after, select file marker family = before ++ candidate :: after ∧
    policy.position (select file marker family).length = some before.length ∧
    policy.pick (select file marker family) = some candidate ∧
    select (file.edited draft) marker family =
      (before ++ after).map (Candidate.moved draft.landing)) ∧
  ∀ other, other ≠ family →
    select (file.edited draft) marker other =
      (select file marker other).map (Candidate.moved draft.landing)

def marking (file : SourceFile) (settings : Settings) (scope name : Cursor) : Draft :=
  file.replacing (replaced file settings.resolution scope name) (file.text name ++ settings.marker)

theorem queued_of_queue {file : SourceFile} {edits : List Edit} {record : Mutation} {draft : Draft}
    (accepted : file.draft.queue edits = .ok draft) :
    queued file edits record = .ok (draft, record) := by
  rw [queued, accepted]

section Renaming

variable {file : SourceFile} (wellFormed : file.WellFormed) (grammar : file.FollowsGrammar)
  {settings : Settings} (marked : settings.marker ≠ []) {family : Family}

include wellFormed marked

theorem replaceable_marking {scope name : Cursor} (renames : Renames file family scope name) :
    file.Replaceable (replaced file settings.resolution scope name)
      (file.text name ++ settings.marker) := by
  apply replaceable_replaced renames wellFormed
  intro empty
  exact marked (List.append_eq_nil_iff.mp empty).2

theorem applyRename_of_pick {operator : Operator} {policy : Policy} {candidate : Candidate}
    {name : Cursor} (picked : policy.pick (select file settings.marker family) = some candidate)
    (named : candidate.name = some name) (renames : Renames file family candidate.scope name) :
    ∃ mutation, operator.applyRename family settings policy file =
      .ok (marking file settings candidate.scope name, mutation) ∧ mutation.changed = true := by
  have replaceable := replaceable_marking wellFormed marked renames
  obtain ⟨element, scope, owner, found⟩ := candidate
  obtain rfl : found = some name := named
  unfold applyRename
  rw [picked]
  exact ⟨_, queued_of_queue replaceable.queue_eq_ok, rfl⟩

include grammar

theorem takesPicked_marking {policy : Policy} {before after : List Candidate}
    {candidate : Candidate} {name : Cursor}
    (divided : select file settings.marker family = before ++ candidate :: after)
    (position : policy.position (select file settings.marker family).length = some before.length)
    (picked : policy.pick (select file settings.marker family) = some candidate)
    (named : candidate.name = some name) (renames : Renames file family candidate.scope name) :
    TakesPicked file settings.marker family policy
      (marking file settings candidate.scope name) := by
  have marks : effectiveMarker settings.marker <:+ file.text name ++ settings.marker := by
    rw [effectiveMarker, if_neg (by simpa using marked)]
    exact List.suffix_append ..
  have again := select_edited wellFormed renames grammar marks settings.resolution
  constructor
  · refine ⟨before, candidate, after, divided, position, picked, ?_⟩
    rw [marking, again, filter_isOther wellFormed renames divided named]
  · intro other different
    rw [marking, again, filter_isOther_of_ne wellFormed renames different]

end Renaming

/-- An application renames the picked candidate, or there is none and the file stays as it is. -/
def Advances (file : SourceFile) (marker : Bytes) (family : Family) (policy : Policy)
    (draft : Draft) (mutation : Mutation) : Prop :=
  if mutation.changed then TakesPicked file marker family policy draft
  else select file marker family = [] ∧ file.edited draft = file

/-- Applies the operator in one turn after the other, each time to the file that the last one left. -/
def rounds (operator : Operator) (settings : Settings) :
    List (Policy × Timestamp) → SourceFile → Except ApplyError (List Mutation × SourceFile)
  | [], file => .ok ([], file)
  | (policy, now) :: turns, file =>
      match operator.apply settings policy now file with
      | .error error => .error error
      | .ok (draft, mutation) =>
          match operator.rounds settings turns (file.edited draft) with
          | .error error => .error error
          | .ok (mutations, last) => .ok (mutation :: mutations, last)

section Rounds

variable {operator : Operator} {family : Family}
  (renames : operator.renamedFamily? = some family) {settings : Settings}

include renames

theorem ne_conditional : family ≠ .conditional := by
  rintro rfl
  cases operator <;> simp [renamedFamily?] at renames

theorem apply_eq_applyRename (policy : Policy) (now : Timestamp) (file : SourceFile) :
    operator.apply settings policy now file = operator.applyRename family settings policy file := by
  cases operator with
  | renameLocal =>
    obtain rfl := Option.some_inj.mp renames
    rfl
  | renameParameter =>
    obtain rfl := Option.some_inj.mp renames
    rfl
  | insertComment | doubleNegateIf | flipIf => simp [renamedFamily?] at renames

variable (marked : settings.marker ≠ [])

include marked

/-- What one application does, and that the file it leaves is as good as the one it found. -/
theorem apply_advances {file : SourceFile} (wellFormed : file.WellFormed)
    (grammar : file.FollowsGrammar) (policy : Policy) (now : Timestamp) :
    ∃ draft mutation, operator.apply settings policy now file = .ok (draft, mutation) ∧
      Advances file settings.marker family policy draft mutation ∧
      (file.edited draft).WellFormed ∧ (file.edited draft).FollowsGrammar := by
  rw [apply_eq_applyRename renames]
  by_cases empty : select file settings.marker family = []
  · refine ⟨file.draft, Mutation.unchanged file.path.text (some operator.name), ?_, ⟨empty, ?_⟩, ?_⟩
    · rw [applyRename, empty]
      rfl
    · exact file.edited_draft
    · rw [file.edited_draft]
      exact ⟨wellFormed, grammar⟩
  · obtain ⟨before, candidate, after, divided, position, picked⟩ := policy.exists_picked empty
    have chosen : candidate ∈ select file settings.marker family := by
      rw [divided]
      exact List.mem_append_right _ List.mem_cons_self
    obtain ⟨name, named⟩ := exists_name_of_mem_select (ne_conditional renames) chosen
    have own := renames_of_mem_select chosen named
    obtain ⟨mutation, applied, changed⟩ :=
      applyRename_of_pick wellFormed marked picked named own
    refine ⟨marking file settings candidate.scope name, mutation, applied, ?_, ?_, ?_⟩
    · rw [Advances, if_pos changed]
      exact takesPicked_marking wellFormed grammar marked divided position picked named own
    · exact (replaceable_marking wellFormed marked own).wellFormed_edited
    · exact grammar.moved rfl

omit renames marked

theorem Advances.count {file : SourceFile} {marker : Bytes} {policy : Policy} {draft : Draft}
    {mutation : Mutation} (advances : Advances file marker family policy draft mutation) :
    mutation.changed = decide (0 < (select file marker family).length) ∧
      (select (file.edited draft) marker family).length =
        (select file marker family).length - 1 := by
  unfold Advances at advances
  split at advances
  next changed =>
    obtain ⟨⟨before, candidate, after, divided, _, _, again⟩, _⟩ := advances
    rw [changed, again, divided, List.length_map, List.length_append, List.length_append,
      List.length_cons]
    exact ⟨(decide_eq_true (by omega)).symm, by omega⟩
  next unchanged =>
    obtain ⟨empty, same⟩ := advances
    rw [same, empty]
    exact ⟨by simpa using unchanged, rfl⟩

variable {file : SourceFile} (wellFormed : file.WellFormed) (grammar : file.FollowsGrammar)

include renames marked wellFormed grammar

theorem rounds_eq_ok (turns : List (Policy × Timestamp)) :
    ∃ mutations last, operator.rounds settings turns file = .ok (mutations, last) ∧
      last.WellFormed ∧ last.FollowsGrammar ∧
      mutations.map Mutation.changed = (List.range turns.length).map fun turn =>
        decide (turn < (select file settings.marker family).length) := by
  -- By induction on the turns; each leaves a good file with one candidate fewer.
  induction turns generalizing file with
  | nil => exact ⟨[], file, rfl, wellFormed, grammar, rfl⟩
  | cons turn turns ih =>
    obtain ⟨policy, now⟩ := turn
    obtain ⟨draft, mutation, applied, advances, nextWellFormed, nextGrammar⟩ :=
      apply_advances renames marked wellFormed grammar policy now
    obtain ⟨mutations, last, rest, lastWellFormed, lastGrammar, changes⟩ :=
      ih nextWellFormed nextGrammar
    obtain ⟨changed, fewer⟩ := advances.count
    refine ⟨mutation :: mutations, last, ?_, lastWellFormed, lastGrammar, ?_⟩
    · simp only [rounds, applied, rest]
    · rw [List.map_cons, changed, changes, fewer, List.length_cons, List.range_succ_eq_map,
        List.map_cons, List.map_map]
      apply congrArg (List.cons _)
      apply congrArg (List.map · (List.range turns.length))
      funext turn
      rw [Function.comp_apply, decide_eq_decide]
      omega

end Rounds

/-- Repeated renaming exhausts the candidates. Whatever the policies, the applications change the file
as often as there are candidates, and never after that; and at every stage one more application takes
the picked candidate off the list of its family and leaves the other lists as they are, the offsets
moved, or finds the list empty. -/
theorem rounds_exhaust {file : SourceFile} (wellFormed : file.WellFormed)
    (grammar : file.FollowsGrammar) {operator : Operator} {family : Family}
    (renames : operator.renamedFamily? = some family) {settings : Settings}
    (marked : settings.marker ≠ []) (turns : List (Policy × Timestamp)) :
    ∃ mutations last, operator.rounds settings turns file = .ok (mutations, last) ∧
      (mutations.map Mutation.changed = (List.range turns.length).map fun turn =>
        decide (turn < (select file settings.marker family).length)) ∧
      ∀ policy now, ∃ draft mutation,
        operator.apply settings policy now last = .ok (draft, mutation) ∧
          Advances last settings.marker family policy draft mutation := by
  obtain ⟨mutations, last, rounds, lastWellFormed, lastGrammar, changes⟩ :=
    rounds_eq_ok renames marked wellFormed grammar turns
  refine ⟨mutations, last, rounds, changes, fun policy now => ?_⟩
  obtain ⟨draft, mutation, applied, advances, _⟩ :=
    apply_advances renames marked lastWellFormed lastGrammar policy now
  exact ⟨draft, mutation, applied, advances⟩

def midnightTurns : List (Policy × Timestamp) :=
  [{ seed := some 7 }, {}, { index := some 5 }].map (·, ⟨2025, 8, 13, 0, 0, 0, 0, none⟩)

theorem shadowing_rounds_exhaust :
    ∃ mutations last, renameParameter.rounds {} midnightTurns shadowing = .ok (mutations, last) ∧
      mutations.map Mutation.changed = [true, true, false] ∧
      ∀ policy now, ∃ draft mutation,
        renameParameter.apply {} policy now last = .ok (draft, mutation) ∧
          Advances last defaultMarker .parameter policy draft mutation := by
  have renames : renameParameter.renamedFamily? = some .parameter := rfl
  have marked : Settings.marker {} ≠ [] := by decide
  have count : (select shadowing defaultMarker .parameter).length = 2 := by decide +kernel
  obtain ⟨mutations, last, rounds, changes, next⟩ :=
    rounds_exhaust shadowing_wellFormed shadowing_followsGrammar renames marked midnightTurns
  refine ⟨mutations, last, rounds, ?_, next⟩
  rw [changes, count]
  rfl

end Operator

end Mutant
