import Mutant.Bytes

/-!
Edits replace byte ranges of a source. A `Draft` is a source with the edits queued against it. It
renders in one pass over the sorted edits, and it takes a further batch only if no two queued
edits overlap.
-/

namespace Mutant

structure Edit where
  start : Nat
  stop : Nat
  replacement : Bytes
deriving DecidableEq, Repr

namespace Edit

def replace (span : Span) (text : Bytes) : Edit :=
  ⟨span.start, span.stop, text⟩

def insert (offset : Nat) (text : Bytes) : Edit :=
  ⟨offset, offset, text⟩

def precedes (first second : Edit) : Bool :=
  first.start < second.start || (first.start == second.start && first.stop ≤ second.stop)

/-- The sort is stable, so insertions at one offset keep their order in the queue. -/
def sort (edits : List Edit) : List Edit :=
  edits.mergeSort precedes

end Edit

/-- Two neighbours in the sorted queue, the second of which starts inside the first. -/
structure Overlap where
  first : Edit
  second : Edit
deriving DecidableEq, Repr

def Overlap.message (overlap : Overlap) : String :=
  s!"Overlapping edits at bytes {overlap.first.start}-{overlap.first.stop} and " ++
    s!"{overlap.second.start}-{overlap.second.stop}"

def Overlap.firstIn : List Edit → Option Overlap
  | first :: second :: rest =>
      if second.start < first.stop then some ⟨first, second⟩ else firstIn (second :: rest)
  | _ => none

structure Draft where
  source : Bytes
  edits : List Edit := []
deriving DecidableEq, Repr

namespace Draft

def changed (draft : Draft) : Bool :=
  !draft.edits.isEmpty

def queue (draft : Draft) (batch : List Edit) : Except Overlap Draft :=
  match Overlap.firstIn (Edit.sort (draft.edits ++ batch)) with
  | some overlap => .error overlap
  | none => .ok { draft with edits := draft.edits ++ batch }

/-- Copies the source from `cursor` on, putting each edit's replacement in the place of its range. -/
def renderFrom (source : Bytes) : Nat → List Edit → Bytes
  | cursor, [] => source.drop cursor
  | cursor, edit :: rest =>
      source.slice cursor edit.start ++ edit.replacement ++ renderFrom source edit.stop rest

def render (draft : Draft) : Bytes :=
  renderFrom draft.source 0 (Edit.sort draft.edits)

end Draft

end Mutant
