import Mathlib.Data.List.Pairwise
import Mathlib.Data.String.Basic
import Mutant.Proofs.Eligibility

/-!
The order in which files are found, beside the order of their paths. A search lists the files of a
folder before what lies in its subfolders, and takes the subfolders by their names alone. In a path
the name of a subfolder has a slash after it, and comes before whatever is greater than that, files
included. So the two orders part where a subfolder, with its slash, comes before a file that stands
beside it or before a subfolder with a lesser name.
-/

namespace Mutant

namespace Entry

def Slashless (entry : Entry) : Prop :=
  ∀ location inner, entry.get? location = some inner → ∀ name ∈ location, '/' ∉ name.toList

namespace Slashless

theorem of_get? {entry inner : Entry} {location : List String} (slashless : entry.Slashless)
    (found : entry.get? location = some inner) : inner.Slashless := by
  intro deeper bottom here name member
  refine slashless (location ++ deeper) bottom ?_ name (List.mem_append_right location member)
  rw [get?_append, found, Option.bind_some, here]

end Slashless

theorem slashless_file (content : Bytes) (mode : Nat) : (file content mode).Slashless := by
  intro location inner found name member
  cases location with
  | nil => exact absurd member List.not_mem_nil
  | cons first rest => exact absurd found (by simp [get?])

theorem slashless_folder {entries : List (String × Entry)}
    (names : ∀ named ∈ entries, '/' ∉ named.1.toList)
    (inside : ∀ named ∈ entries, named.2.Slashless) : (folder entries).Slashless := by
  intro location inner found name member
  cases location with
  | nil => exact absurd member List.not_mem_nil
  | cons first rest =>
    obtain ⟨below, listed, deeper⟩ := Option.bind_eq_some_iff.mp found
    obtain ⟨before, after, rfl, -⟩ := List.lookup_eq_some_iff.mp listed
    have here : (first, below) ∈ before ++ (first, below) :: after :=
      List.mem_append_right before List.mem_cons_self
    rcases List.mem_cons.mp member with rfl | later
    · exact names _ here
    · exact inside _ here rest inner deeper name later

end Entry

theorem Disk.slashless_of_find {disk : Disk} {path : Path} {entry : Entry}
    (slashless : disk.root.Slashless) (found : disk.find path = .ok entry) : entry.Slashless := by
  unfold find at found
  split at found
  · exact absurd found (by simp)
  next location _ =>
    split at found
    · exact absurd found (by simp)
    next inner here =>
      rw [← Except.ok.inj found]
      exact slashless.of_get? here

namespace Discovery

open Entry

theorem append_lt_iff {text other : List Char} (apart : ¬text <+: other) (rest : List Char) :
    text ++ rest < other ↔ text < other := by
  induction text generalizing other with
  | nil => exact absurd List.nil_prefix apart
  | cons character text ih =>
    cases other with
    | nil => simp
    | cons first others =>
      rw [List.cons_append, List.cons_lt_cons_iff, List.cons_lt_cons_iff]
      refine or_congr_right (and_congr_right fun same => ih fun begins => apart ?_)
      rw [same]
      exact List.cons_prefix_cons.mpr ⟨rfl, begins⟩

theorem lt_append_iff {text other : List Char} (apart : ¬text <+: other) (rest : List Char) :
    other < text ++ rest ↔ other < text := by
  have longer : text ++ rest ≠ other := fun same => apart ⟨rest, same⟩
  have different : text ≠ other := fun same => apart (same ▸ List.prefix_rfl)
  rw [← not_iff_not, not_lt, not_lt, le_iff_lt_or_eq, le_iff_lt_or_eq, append_lt_iff apart,
    or_iff_left longer, or_iff_left different]

theorem append_lt_append_iff (shared first second : List Char) :
    shared ++ first < shared ++ second ↔ first < second := by
  induction shared with
  | nil => rfl
  | cons character rest ih =>
    rw [List.cons_append, List.cons_append, List.cons_lt_cons_iff, ih]
    simp

def slashed (name : String) : String := name ++ "/"

theorem toList_slashed (name : String) : (slashed name).toList = name.toList ++ ['/'] := by
  simp [slashed]

theorem relativeText_singleton (name : String) : relativeText [name] = name.toList := by
  simp [relativeText]

theorem relativeText_cons (name : String) {names : List String} (deep : names ≠ []) :
    relativeText (name :: names) = (slashed name).toList ++ relativeText names := by
  obtain ⟨next, rest, rfl⟩ := List.exists_cons_of_ne_nil deep
  rw [relativeText, String.intercalate_cons_cons, String.toList_append]
  rfl

theorem takeWhile_slashed {name : String} (plain : '/' ∉ name.toList) (rest : List Char) :
    ((slashed name).toList ++ rest).takeWhile (· != '/') = name.toList := by
  have passes : ∀ character ∈ name.toList, (character != '/') = true := by
    intro character member
    rw [bne_iff_ne]
    rintro rfl
    exact plain member
  rw [toList_slashed, List.append_assoc, List.takeWhile_append_of_pos passes]
  simp

theorem not_prefix_slashed {name other : String} (plain : '/' ∉ other.toList) :
    ¬(slashed name).toList <+: other.toList := by
  intro begins
  refine plain (begins.subset ?_)
  rw [toList_slashed]
  exact List.mem_append_right _ (List.mem_singleton_self _)

theorem not_prefix_slashed_of_ne {name other : String} (plain : '/' ∉ name.toList)
    (plainToo : '/' ∉ other.toList) (different : name ≠ other) (rest : List Char) :
    ¬(slashed name).toList <+: (slashed other).toList ++ rest := by
  rintro ⟨further, same⟩
  have heads := congrArg (List.takeWhile (· != '/')) same
  rw [takeWhile_slashed plain, takeWhile_slashed plainToo] at heads
  exact different (String.toList_inj.mp heads)

/-- Below two folders the slashed names decide, and below one folder what is in it. -/
theorem relativeText_lt_iff {name other : String} {names others : List String}
    (plain : '/' ∉ name.toList) (plainToo : '/' ∉ other.toList) (deep : names ≠ [])
    (deepToo : others ≠ []) :
    relativeText (name :: names) < relativeText (other :: others) ↔
      slashed name < slashed other ∨ name = other ∧ relativeText names < relativeText others := by
  rw [relativeText_cons name deep, relativeText_cons other deepToo]
  by_cases same : name = other
  · subst same
    simp [append_lt_append_iff]
  · have apart := not_prefix_slashed_of_ne plainToo plain (Ne.symm same) []
    rw [List.append_nil] at apart
    rw [append_lt_iff (not_prefix_slashed_of_ne plain plainToo same _), lt_append_iff apart,
      ← String.lt_iff]
    simp [same]

theorem relativeText_lt_file_iff {name other : String} {others : List String}
    (plain : '/' ∉ name.toList) (deep : others ≠ []) :
    relativeText (other :: others) < relativeText [name] ↔ slashed other < name := by
  rw [relativeText_cons other deep, relativeText_singleton, String.lt_iff]
  exact append_lt_iff (not_prefix_slashed plain) _

/-- The first file is found before the second although its path comes later: in the folder where the
ways to them part, the slashed name of the subfolder with the second comes before that of the first.
-/
def Crossed : List String → List String → Prop
  | [name], other :: _ :: _ => slashed other < name
  | first :: next :: rest, second :: other :: others =>
      (first < second ∧ slashed second < slashed first) ∨
        first = second ∧ Crossed (next :: rest) (other :: others)
  | _, _ => False

theorem Crossed.earlier {first second : List String} (crossed : Crossed first second) :
    Earlier first second := by
  fun_induction Crossed first second with
  | case1 => exact trivial
  | case2 first next rest second other others ih =>
    rcases crossed with ⟨less, -⟩ | ⟨same, deeper⟩
    · exact Or.inl less
    · exact Or.inr ⟨same, ih deeper⟩
  | case3 => exact crossed.elim

theorem relativeText_le_iff {first second : List String}
    (plain : ∀ name ∈ first, '/' ∉ name.toList) (plainToo : ∀ name ∈ second, '/' ∉ name.toList)
    (earlier : Earlier first second) :
    relativeText first ≤ relativeText second ↔ ¬Crossed first second := by
  rw [← not_lt, not_iff_not]
  fun_induction Earlier first second with
  | case1 name other =>
    rw [relativeText_singleton, relativeText_singleton, ← String.lt_iff]
    exact iff_of_false (String.lt_asymm earlier) (by simp [Crossed])
  | case2 name folder next rest =>
    exact relativeText_lt_file_iff (plain name List.mem_cons_self) (List.cons_ne_nil next rest)
  | case3 name next rest other further others ih =>
    rw [relativeText_lt_iff (plainToo other List.mem_cons_self) (plain name List.mem_cons_self)
      (List.cons_ne_nil _ _) (List.cons_ne_nil _ _), Crossed]
    rcases earlier with less | ⟨rfl, deeper⟩
    · have different : name ≠ other := fun same => String.lt_irrefl _ (same ▸ less)
      simp [less, different, different.symm]
    · simp only [String.lt_irrefl, false_and, false_or, true_and]
      exact ih (fun label member => plain label (List.mem_cons_of_mem _ member))
        (fun label member => plainToo label (List.mem_cons_of_mem _ member)) deeper
  | case4 => exact earlier.elim

def InPathOrder (found : List (List String)) : Prop :=
  found.Pairwise fun first second => relativeText first ≤ relativeText second

instance (found : List (List String)) : Decidable (InPathOrder found) :=
  inferInstanceAs (Decidable (List.Pairwise _ found))

theorem inPathOrder_iff {found : List (List String)}
    (plain : ∀ names ∈ found, ∀ name ∈ names, '/' ∉ name.toList)
    (ordered : found.Pairwise Earlier) :
    InPathOrder found ↔ ∀ first ∈ found, ∀ second ∈ found, ¬Crossed first second := by
  have agrees : ∀ {first second : List String}, first ∈ found → second ∈ found →
      Earlier first second →
      (relativeText first ≤ relativeText second ↔ ¬Crossed first second) :=
    fun one other earlier => relativeText_le_iff (plain _ one) (plain _ other) earlier
  constructor
  · intro sorted first one second other crossed
    have both : found.Pairwise fun first second =>
        ¬Crossed first second ∧ ¬Crossed second first :=
      (ordered.and sorted).imp_of_mem fun one other pair =>
        ⟨(agrees one other pair.1).mp pair.2, fun back => pair.1.asymm back.earlier⟩
    have symmetric : Std.Symm fun first second => ¬Crossed first second ∧ ¬Crossed second first :=
      ⟨fun _ _ => And.symm⟩
    exact (both.forall one other crossed.earlier.ne).1 crossed
  · intro free
    exact ordered.imp_of_mem fun one other earlier =>
      (agrees one other earlier).mpr (free _ one _ other)

/-- A search lists the files of each folder by name, and then what is in its subfolders, one after
another by name. This is the order of the paths just when no two of the files are crossed. -/
theorem find_inPathOrder_iff {fault : Type} {spec : PathSpec fault} {dialect : Dialect}
    (decides : spec.LastDecides dialect) {disk : Disk} {root : Path} {entry : Entry}
    {patterns ignored : List String} (readable : spec.fault? patterns = none)
    (opened : disk.find root = .ok entry) (distinct : disk.root.Distinct)
    (slashless : disk.root.Slashless) :
    ∃ found : List (List String),
      find spec disk root patterns ignored =
        .ok (found.map fun names => ⟨root.root, root.names ++ names⟩) ∧
      (∀ names, names ∈ found ↔ Eligible dialect patterns ignored entry names) ∧
      found.Pairwise Earlier ∧
      (InPathOrder found ↔ ∀ first second, Eligible dialect patterns ignored entry first →
        Eligible dialect patterns ignored entry second → ¬Crossed first second) := by
  have entryDistinct := disk.distinct_of_find distinct opened
  have members : ∀ names, names ∈ (visit ignored entry).filter
      (fun names => spec.accepts patterns (relativeText names)) ↔
        Eligible dialect patterns ignored entry names :=
    fun names => mem_filter_visit_iff decides readable entryDistinct
  have ordered := (visit_pairwise ignored entryDistinct).filter
    fun names => spec.accepts patterns (relativeText names)
  refine ⟨_, find_eq readable opened, members, ordered, ?_⟩
  have plain : ∀ names ∈ (visit ignored entry).filter
      (fun names => spec.accepts patterns (relativeText names)),
        ∀ name ∈ names, '/' ∉ name.toList := by
    intro names member
    obtain ⟨content, mode, found⟩ := ((members names).mp member).file
    exact disk.slashless_of_find slashless opened names _ found
  rw [inPathOrder_iff plain ordered]
  simp only [members]
  exact ⟨fun free first second one other => free first one second other,
    fun free first one second other => free first second one other⟩

def classFirst : Disk where
  root := .folder [("api", .folder [("Api.java", blank)]), ("App.java", blank)]

theorem classFirst_inPathOrder :
    ∃ found : List (List String),
      find endings.spec classFirst {} ["*.java"] [] = .ok (found.map fun names => ⟨"", names⟩) ∧
        InPathOrder found := by
  have file : blank.Distinct ∧ blank.Slashless :=
    ⟨distinct_file [] Disk.newMode, slashless_file [] Disk.newMode⟩
  have inner : (folder [("Api.java", blank)]).Distinct ∧ (folder [("Api.java", blank)]).Slashless :=
    ⟨distinct_folder (by decide) (List.forall_mem_singleton.mpr file.1),
      slashless_folder (by decide) (List.forall_mem_singleton.mpr file.2)⟩
  obtain ⟨found, lists, members, -, ordered⟩ :=
    @find_inPathOrder_iff _ _ _ endings.spec_lastDecides classFirst {} _ ["*.java"] [] rfl rfl
      (distinct_folder (by decide)
        (List.forall_mem_cons.mpr ⟨inner.1, List.forall_mem_singleton.mpr file.1⟩))
      (slashless_folder (by decide)
        (List.forall_mem_cons.mpr ⟨inner.2, List.forall_mem_singleton.mpr file.2⟩))
  have computed : find endings.spec classFirst {} ["*.java"] [] =
      .ok ([["App.java"], ["api", "Api.java"]].map fun names => ⟨"", names⟩) := by
    decide +kernel
  have same : found = [["App.java"], ["api", "Api.java"]] :=
    List.map_injective_iff.mpr (fun _ _ equal => (Path.mk.inj equal).2)
      (Except.ok.inj (lists.symm.trans computed))
  refine ⟨found, lists, ordered.mpr fun first second one other => ?_⟩
  rw [← members, same] at one other
  have free : ∀ first ∈ [["App.java"], ["api", "Api.java"]],
      ∀ second ∈ [["App.java"], ["api", "Api.java"]], ¬Crossed first second := by
    have apart : ¬slashed "api" < "App.java" ∧ ¬slashed "api" < slashed "api" := by decide
    simp [Crossed, apart]
  exact free first one second other

def packageFirst : Disk where
  root := .folder [("api", .folder [("Api.java", blank)]), ("package-info.java", blank)]

theorem packageFirst_not_inPathOrder :
    ∃ found : List (List String),
      find endings.spec packageFirst {} ["*.java"] [] = .ok (found.map fun names => ⟨"", names⟩) ∧
        ¬InPathOrder found :=
  ⟨[["package-info.java"], ["api", "Api.java"]], by decide +kernel, by decide⟩

end Discovery

end Mutant
