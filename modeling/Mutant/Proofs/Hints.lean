import Mutant.Proofs.Mentions

/-!
What a hint says about the output of a build that misses a symbol after a renaming: which of the two
names is mentioned there. It always speaks of word boundaries, and of identifiers as long as no `$` is
close to a name.
-/

namespace Mutant.Hint

open Mention Text

/-- The hint names what is mentioned: the new name, or else the old one, or else none. -/
structure Tells (mentioned : List Char → Prop) (old new : String) (hint : Hint) : Prop where
  nameClash : hint = nameClash ↔ mentioned new.toList
  missedReference : hint = missedReference ↔ mentioned old.toList ∧ ¬mentioned new.toList
  unrelated : hint = unrelated ↔ ¬mentioned old.toList ∧ ¬mentioned new.toList

structure FailedRenaming (outcome : BuildOutcome) (mutation : Mutation) (old new : String) : Prop where
  applies : isRenaming mutation = true
  unresolved : occursIn unresolvedMarker outcome.output = true
  oldName : mutation.oldName = some old
  newName : mutation.newName = some new
  oldIdentifier : IsIdentifier old.toList
  newIdentifier : IsIdentifier new.toList

def ofMentions (old new : Bool) : Hint :=
  if new then .nameClash else if old then .missedReference else .unrelated

theorem ofMentions_eq_nameClash_iff (old new : Bool) :
    ofMentions old new = .nameClash ↔ new = true := by
  revert old new
  decide

theorem ofMentions_eq_missedReference_iff (old new : Bool) :
    ofMentions old new = .missedReference ↔ old = true ∧ ¬new = true := by
  revert old new
  decide

theorem ofMentions_eq_unrelated_iff (old new : Bool) :
    ofMentions old new = .unrelated ↔ ¬old = true ∧ ¬new = true := by
  revert old new
  decide

theorem tells_ofMentions {mentioned : List Char → Prop} {old new : String} {output : List Char}
    (oldSame : occurs old.toList output = true ↔ mentioned old.toList)
    (newSame : occurs new.toList output = true ↔ mentioned new.toList) :
    Tells mentioned old new (ofMentions (occurs old.toList output) (occurs new.toList output)) where
  nameClash := by rw [ofMentions_eq_nameClash_iff, newSame]
  missedReference := by rw [ofMentions_eq_missedReference_iff, oldSame, newSame]
  unrelated := by rw [ofMentions_eq_unrelated_iff, oldSame, newSame]

theorem classify_eq {outcome : BuildOutcome} {mutation : Mutation} {old new : String}
    (failed : FailedRenaming outcome mutation old new) : classify outcome mutation =
      some (ofMentions (occurs old.toList outcome.output) (occurs new.toList outcome.output)) := by
  have firm : (strip old.toList).isEmpty = false := by
    rw [failed.oldIdentifier.strip_eq]
    exact List.isEmpty_eq_false_iff.mpr failed.oldIdentifier.nonempty
  have named : new.isEmpty = false := by
    rw [Bool.eq_false_iff, ne_eq, String.isEmpty_iff]
    rintro rfl
    exact failed.newIdentifier.nonempty rfl
  rw [classify, if_pos failed.applies, failed.oldName, Option.bind_some, ofOutput, firm,
    failed.unresolved, failed.newName, mentionsName, named, ofMentions]
  cases occurs new.toList outcome.output <;> cases occurs old.toList outcome.output <;> rfl

/-- There is a hint. It tells which names are written between word boundaries. Of names without `$`
it tells which ones are words of the output, and which ones are identifiers there where no `$` is
close to a name. -/
theorem classify_tells_mentions {outcome : BuildOutcome} {mutation : Mutation} {old new : String}
    (failed : FailedRenaming outcome mutation old new) :
    ∃ hint, classify outcome mutation = some hint ∧
      Tells (Delimited · outcome.output) old new hint ∧
      ('$' ∉ old.toList → '$' ∉ new.toList → Tells (· ∈ words outcome.output) old new hint) ∧
      (Bare old.toList outcome.output → Bare new.toList outcome.output →
        Tells (· ∈ identifiers outcome.output) old new hint) := by
  obtain ⟨oldIdentifier, newIdentifier⟩ := And.intro failed.oldIdentifier failed.newIdentifier
  refine ⟨_, classify_eq failed, ?_, fun oldPlain newPlain => ?_, fun oldBare newBare => ?_⟩
  · exact tells_ofMentions (occurs_iff_delimited oldIdentifier.nonempty _)
      (occurs_iff_delimited newIdentifier.nonempty _)
  · exact tells_ofMentions (oldIdentifier.settled_isWord oldPlain _).occurs_iff_mem_runs
      (newIdentifier.settled_isWord newPlain _).occurs_iff_mem_runs
  · exact tells_ofMentions (oldIdentifier.settled_isIdentifierPart oldBare).occurs_iff_mem_runs
      (newIdentifier.settled_isIdentifierPart newBare).occurs_iff_mem_runs

def countRenaming : Mutation :=
  { file := "A.java", oldName := some "count", newName := some "count_mt", changed := true,
    operation := some Operator.renameLocal.name }

def unresolvedBuild (symbol : String) : BuildOutcome :=
  { success := false, command := [], exitCode := 1, stderr := "error: cannot find symbol\n" ++ symbol }

theorem failedRenaming_count (symbol : String)
    (unresolved : occursIn unresolvedMarker (unresolvedBuild symbol).output = true) :
    FailedRenaming (unresolvedBuild symbol) countRenaming "count" "count_mt" where
  applies := rfl
  unresolved
  oldName := rfl
  newName := rfl
  oldIdentifier := ⟨by decide, List.all_eq_true.mp (by decide)⟩
  newIdentifier := ⟨by decide, List.all_eq_true.mp (by decide)⟩

theorem count_missedReference :
    FailedRenaming (unresolvedBuild "variable count") countRenaming "count" "count_mt" ∧
      classify (unresolvedBuild "variable count") countRenaming = some .missedReference := by
  have failed := failedRenaming_count "variable count" rfl
  obtain ⟨hint, found, -, -, inIdentifiers⟩ := classify_tells_mentions failed
  have tells := inIdentifiers (bare_of_not_mem (by decide) (by decide))
    (bare_of_not_mem (by decide) (by decide))
  refine ⟨failed, ?_⟩
  rw [found, tells.missedReference.mpr ⟨by decide, by decide⟩]

/-- A `$` ends a word, but no identifier. -/
theorem count_in_longer_identifier :
    FailedRenaming (unresolvedBuild "variable count$1") countRenaming "count" "count_mt" ∧
      ¬∃ hint, classify (unresolvedBuild "variable count$1") countRenaming = some hint ∧
        Tells (· ∈ identifiers (unresolvedBuild "variable count$1").output) "count" "count_mt" hint := by
  refine ⟨failedRenaming_count "variable count$1" rfl, ?_⟩
  rintro ⟨hint, found, tells⟩
  have missed : classify (unresolvedBuild "variable count$1") countRenaming = some .missedReference :=
    rfl
  obtain rfl := Option.some.inj (missed.symm.trans found)
  exact absurd (tells.missedReference.mp rfl).1 (by decide)

end Mutant.Hint
