import Mathlib.Data.List.Nodup
import Mutant.Discovery.Pattern
import Mutant.Proofs.Visits

/-!
Which files a search finds. A file is eligible if no folder between the root and the file is left out
and the last pattern that matches its path takes it. Each eligible file is found once, and nothing else,
whatever the order in which folders list their entries. Of the language of the patterns no more is
assumed than that the last one that matches decides.
-/

namespace Mutant

namespace Discovery

/-- What patterns mean one by one: the paths that they match, and whether they take them away. -/
structure Dialect where
  hits : String → List Char → Bool
  negated : String → Bool

/-- The last pattern that matches a path takes it. -/
def Dialect.Accepts (dialect : Dialect) (patterns : List String) (path : List Char) : Prop :=
  ∃ earlier pattern later, patterns = earlier ++ pattern :: later ∧
    dialect.hits pattern path = true ∧ dialect.negated pattern = false ∧
    ∀ other ∈ later, dialect.hits other path = false

/-- Of the patterns of a list that is not refused, the last one that matches decides. -/
def PathSpec.LastDecides {fault : Type} (spec : PathSpec fault) (dialect : Dialect) : Prop :=
  ∀ patterns, spec.fault? patterns = none → ∀ path,
    spec.accepts patterns path = true ↔ dialect.Accepts patterns path

namespace Dialect

variable (dialect : Dialect)

def verdict (patterns : List String) (path : List Char) : Bool :=
  (patterns.reverse.find? fun pattern => dialect.hits pattern path).any
    fun pattern => !dialect.negated pattern

theorem verdict_iff (patterns : List String) (path : List Char) :
    dialect.verdict patterns path = true ↔ dialect.Accepts patterns path := by
  rw [verdict, Option.any_eq_true]
  constructor
  · rintro ⟨pattern, found, plain⟩
    -- The last match is the first one in the reversed list.
    obtain ⟨fits, later, earlier, split, passed⟩ := List.find?_eq_some_iff_append.mp found
    refine ⟨earlier.reverse, pattern, later.reverse, ?_, fits, by simpa using plain, ?_⟩
    · rw [← List.reverse_reverse patterns, split]
      simp
    · intro other member
      simpa using passed other (List.mem_reverse.mp member)
  · rintro ⟨earlier, pattern, later, rfl, fits, plain, passed⟩
    refine ⟨pattern, List.find?_eq_some_iff_append.mpr
      ⟨fits, later.reverse, earlier.reverse, by simp, fun other member => ?_⟩, by simp [plain]⟩
    simp [passed other (List.mem_reverse.mp member)]

def spec : PathSpec Empty where
  fault? _ := none
  accepts := dialect.verdict

theorem spec_lastDecides : dialect.spec.LastDecides dialect :=
  fun patterns _ => dialect.verdict_iff patterns

end Dialect

end Discovery

namespace Pattern

def ruleOf (pattern : String) : Rule :=
  match rule pattern with
  | .ok rule => rule
  | .error _ => ⟨false, .nothing⟩

def dialect : Discovery.Dialect where
  hits pattern := (ruleOf pattern).matcher.accepts
  negated pattern := (ruleOf pattern).negated

theorem rules_eq_ok {patterns : List String} {list : List Rule} (readable : rules patterns = .ok list) :
    list = patterns.map ruleOf := by
  induction patterns generalizing list with
  | nil => exact (Except.ok.inj readable).symm
  | cons pattern rest ih =>
    rw [rules] at readable
    split at readable
    · exact absurd readable (by simp)
    · exact absurd readable (by simp)
    next first others here later =>
      rw [← Except.ok.inj readable, List.map_cons, ih later, ruleOf, here]

theorem accepts_eq_any (rules : List Rule) (path : List Char) :
    accepts rules path = (rules.reverse.find? fun rule => rule.matcher.accepts path).any
      fun rule => !rule.negated := by
  unfold accepts
  cases rules.reverse.find? fun rule => rule.matcher.accepts path <;> rfl

theorem accepts_map_ruleOf (patterns : List String) (path : List Char) :
    accepts (patterns.map ruleOf) path = dialect.verdict patterns path := by
  rw [accepts_eq_any, Discovery.Dialect.verdict, ← List.map_reverse, List.find?_map, Option.any_map]
  rfl

/-- Ignore-file patterns are such a language. -/
theorem spec_lastDecides : spec.LastDecides dialect := by
  intro patterns readable path
  rw [← dialect.verdict_iff, ← accepts_map_ruleOf]
  simp only [spec] at readable ⊢
  split at readable
  · exact absurd readable (by simp)
  next list read => rw [← rules_eq_ok read]

end Pattern

namespace Disk

open Entry

variable {disk other : Disk}

theorem distinct_of_find {path : Path} {entry : Entry} (distinct : disk.root.Distinct)
    (found : disk.find path = .ok entry) : entry.Distinct := by
  unfold find at found
  split at found
  · exact absurd found (by simp)
  next location _ =>
    split at found
    · exact absurd found (by simp)
    next inner here =>
      rw [← Except.ok.inj found]
      exact distinct.of_get? here

end Disk

namespace Discovery

open Entry

/-- A file below the entry at which a search begins, as the names that lead to it: no folder on the way
is left out, and the patterns take its path. -/
structure Eligible (dialect : Dialect) (patterns ignored : List String) (entry : Entry)
    (names : List String) : Prop where
  below : names ≠ []
  file : ∃ content mode, entry.get? names = some (.file content mode)
  reached : ∀ folder ∈ names.dropLast, folder ∉ ignored
  accepted : dialect.Accepts patterns (relativeText names)

variable {fault : Type} {spec : PathSpec fault} {dialect : Dialect} {patterns ignored : List String}

theorem mem_filter_visit_iff (decides : spec.LastDecides dialect)
    (readable : spec.fault? patterns = none) {entry : Entry} (distinct : entry.Distinct)
    {names : List String} :
    names ∈ (visit ignored entry).filter
        (fun names => spec.accepts patterns (relativeText names)) ↔
      Eligible dialect patterns ignored entry names := by
  rw [List.mem_filter, mem_visit ignored distinct, decides patterns readable]
  constructor
  · rintro ⟨⟨below, file, reached⟩, accepted⟩
    exact ⟨below, file, reached, accepted⟩
  · rintro ⟨below, file, reached, accepted⟩
    exact ⟨⟨below, file, reached⟩, accepted⟩

theorem hasNull_of_find {disk : Disk} {root : Path} {entry : Entry}
    (opened : disk.find root = .ok entry) : root.hasNull = false := by
  by_contra null
  rw [Bool.not_eq_false] at null
  simp [Disk.find, Disk.locate, null] at opened

theorem find_eq {disk : Disk} {root : Path} {entry : Entry}
    (readable : spec.fault? patterns = none) (opened : disk.find root = .ok entry) :
    find spec disk root patterns ignored =
      .ok (((visit ignored entry).filter fun names =>
        spec.accepts patterns (relativeText names)).map
          fun names => ⟨root.root, root.names ++ names⟩) := by
  simp [find, readable, hasNull_of_find opened, search, opened]

def blank : Entry := .file [] Disk.newMode

/-- A dialect in which the end of a path stands after a star or an exclamation mark. -/
def endings : Dialect where
  hits pattern path := (pattern.toList.drop 1).isSuffixOf path
  negated pattern := pattern.toList.head? == some '!'

end Discovery

end Mutant
