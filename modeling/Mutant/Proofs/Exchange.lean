import Mutant.Proofs.Rendering

/-!
Two texts that differ in the ranges of a queue of edits and nowhere else. They are the same stretches
in the same order, with the old pieces in between in one text and the new pieces in the other. So the
relation can be read from either side: what edits make of the first text, their counterparts take back.
-/

namespace Mutant

theorem Bytes.slice_append_append (front middle back : Bytes) :
    Bytes.slice (front ++ middle ++ back) front.length (front ++ middle).length = middle := by
  rw [Bytes.slice, List.take_left, List.drop_left]

namespace Draft

theorem renderFrom_piece (front gap old back new : Bytes) (rest : List Edit) :
    renderFrom (front ++ gap ++ old ++ back) front.length
        (⟨(front ++ gap).length, (front ++ gap ++ old).length, new⟩ :: rest) =
      gap ++ new ++ renderFrom (front ++ gap ++ old ++ back) (front ++ gap ++ old).length rest := by
  have copied : Bytes.slice (front ++ gap ++ old ++ back) front.length (front ++ gap).length = gap := by
    rw [List.append_assoc (front ++ gap)]
    exact Bytes.slice_append_append front gap (old ++ back)
  rw [renderFrom, copied]

theorem renderFrom_end (front back : Bytes) : renderFrom (front ++ back) front.length [] = back :=
  List.drop_left

end Draft

namespace Edit

/-- The edits of the first list replace pieces of the first text, and those of the second list put the
old pieces back into the second text, each in the very place of the new piece. The numbers are the
offsets at which the two texts begin. -/
inductive Exchange : Nat → Nat → Bytes → Bytes → List Edit → List Edit → Prop where
  | kept {here there : Nat} (stretch : Bytes) : Exchange here there stretch stretch [] []
  | replaced {here there : Nat} (stretch old new : Bytes) {source text : Bytes}
      {edits backs : List Edit} :
      Exchange (here + stretch.length + old.length) (there + stretch.length + new.length)
        source text edits backs →
      Exchange here there (stretch ++ old ++ source) (stretch ++ new ++ text)
        (⟨here + stretch.length, here + stretch.length + old.length, new⟩ :: edits)
        (⟨there + stretch.length, there + stretch.length + new.length, old⟩ :: backs)

namespace Exchange

variable {here there : Nat} {source text : Bytes} {edits backs : List Edit}

theorem symm (exchange : Exchange here there source text edits backs) :
    Exchange there here text source backs edits := by
  induction exchange with
  | kept stretch => exact .kept stretch
  | replaced stretch old new _ ih => exact .replaced stretch new old ih

theorem within (exchange : Exchange here there source text edits backs) :
    ∀ edit ∈ edits, here ≤ edit.start ∧ edit.start ≤ edit.stop ∧
      edit.stop ≤ here + source.length := by
  induction exchange with
  | kept => exact fun edit member => absurd member List.not_mem_nil
  | replaced stretch old new _ ih =>
    intro edit member
    simp only [List.length_append]
    rcases List.mem_cons.mp member with rfl | later
    · dsimp only
      omega
    · have := ih edit later
      omega

theorem leftToRight (exchange : Exchange here there source text edits backs) :
    LeftToRight edits := by
  induction exchange with
  | kept => exact .nil
  | replaced stretch old new rest ih =>
    exact .cons (fun edit later => (rest.within edit later).1) ih

theorem backs_of_nil (exchange : Exchange here there source text [] backs) : backs = [] := by
  cases exchange
  rfl

theorem of_cons {edit : Edit} (exchange : Exchange here there source text (edit :: edits) backs) :
    ∃ stretch old sourceRest textRest backsRest,
      source = stretch ++ old ++ sourceRest ∧ text = stretch ++ edit.replacement ++ textRest ∧
      backs = ⟨there + stretch.length, there + stretch.length + edit.replacement.length, old⟩ ::
        backsRest ∧
      edit.start = here + stretch.length ∧ edit.stop = edit.start + old.length ∧
      Exchange edit.stop (there + stretch.length + edit.replacement.length)
        sourceRest textRest edits backsRest := by
  cases exchange with
  | replaced stretch old new rest => exact ⟨stretch, old, _, _, _, rfl, rfl, rfl, rfl, rfl, rest⟩

theorem eq_of_exchange {others : List Edit}
    (exchange : Exchange here there source text edits backs)
    (other : Exchange here there source text edits others) : backs = others := by
  induction edits generalizing here there source text backs others with
  | nil => rw [exchange.backs_of_nil, other.backs_of_nil]
  | cons edit edits ih =>
    obtain ⟨stretch, old, _, _, _, rfl, rfl, rfl, start, stop, rest⟩ := exchange.of_cons
    obtain ⟨sameStretch, sameOld, _, _, _, source, text, rfl, otherStart, otherStop, otherRest⟩ :=
      other.of_cons
    have stretches : stretch.length = sameStretch.length := by omega
    have olds : old.length = sameOld.length := by omega
    obtain ⟨pieces, rfl⟩ := List.append_inj source (by simp only [List.length_append]; omega)
    obtain ⟨rfl, rfl⟩ := List.append_inj pieces stretches
    obtain rfl := List.append_cancel_left text
    rw [ih rest otherRest]

/-- The pass that renders the edits turns the first text into the second. -/
theorem renderFrom_eq (exchange : Exchange here there source text edits backs) {front : Bytes}
    (begins : front.length = here) : Draft.renderFrom (front ++ source) here edits = text := by
  induction exchange generalizing front with
  | kept stretch =>
    rw [← begins]
    exact Draft.renderFrom_end front stretch
  | @replaced here there stretch old new source text edits backs _ ih =>
    have start : (front ++ stretch).length = here + stretch.length := by
      rw [List.length_append, begins]
    have stop : (front ++ stretch ++ old).length = here + stretch.length + old.length := by
      rw [List.length_append, start]
    have piece := Draft.renderFrom_piece front stretch old source new edits
    rw [stop, start, begins] at piece
    have regroup : front ++ (stretch ++ old ++ source) = front ++ stretch ++ old ++ source := by
      simp only [List.append_assoc]
    rw [regroup, piece, ih stop]

theorem queue_eq_ok (exchange : Exchange 0 0 source text edits backs) :
    Draft.queue ⟨source, []⟩ edits = .ok ⟨source, edits⟩ ∧
      Draft.render ⟨source, edits⟩ = text := by
  have forward : ∀ edit ∈ edits, edit.start ≤ edit.stop :=
    fun edit member => (exchange.within edit member).2.1
  obtain ⟨queued, rendered⟩ := Draft.queue_of_leftToRight forward exchange.leftToRight
  have begins : ([] : Bytes).length = 0 := rfl
  exact ⟨queued, rendered.trans (exchange.renderFrom_eq begins)⟩

end Exchange

end Edit

end Mutant
