import Mathlib.Data.List.Forall2
import Mathlib.Tactic.ByContra
import Mutant.Discovery.Search
import Mutant.Proofs.Outlines

/-!
What a visit of a folder lists. Each file below it is listed exactly if no folder on the way is left
out, and in an order that is a matter of the names alone: what lies in a folder comes before what lies
deeper. So a visit sees nothing of the order in which folders list their entries.
-/

namespace Mutant

namespace Entry

def Distinct (entry : Entry) : Prop :=
  ∀ location entries, entry.get? location = some (.folder entries) → (entries.map Prod.fst).Nodup

/-- The same folders and files, with the entries of each folder in any order. -/
inductive Reordered : Entry → Entry → Prop
  | file (content : Bytes) (mode : Nat) : Reordered (.file content mode) (.file content mode)
  | folder {first middle second : List (String × Entry)}
      (names : first.map Prod.fst = middle.map Prod.fst)
      (inside : List.Forall₂ Reordered (first.map Prod.snd) (middle.map Prod.snd))
      (listed : middle.Perm second) : Reordered (.folder first) (.folder second)

theorem lookup_eq_some_iff_mem {entries : List (String × Entry)}
    (distinct : (entries.map Prod.fst).Nodup) {name : String} {entry : Entry} :
    entries.lookup name = some entry ↔ (name, entry) ∈ entries := by
  rw [List.lookup_eq_some_iff]
  constructor
  · rintro ⟨before, after, rfl, -⟩
    exact List.mem_append_right before List.mem_cons_self
  · intro member
    obtain ⟨before, after, rfl⟩ := List.append_of_mem member
    refine ⟨before, after, rfl, fun other earlier => bne_iff_ne.mpr fun same => ?_⟩
    rw [List.map_append, List.map_cons, List.nodup_append] at distinct
    exact distinct.2.2 other.1 (List.mem_map_of_mem earlier) name List.mem_cons_self same.symm

theorem get?_folder_cons_eq_some {entries : List (String × Entry)}
    (distinct : (entries.map Prod.fst).Nodup) {name : String} {names : List String} {entry : Entry} :
    (folder entries).get? (name :: names) = some entry ↔
      ∃ inner, (name, inner) ∈ entries ∧ inner.get? names = some entry := by
  rw [get?, Option.bind_eq_some_iff]
  simp only [lookup_eq_some_iff_mem distinct]

namespace Distinct

variable {entries : List (String × Entry)}

theorem names (distinct : (folder entries).Distinct) : (entries.map Prod.fst).Nodup :=
  distinct [] entries rfl

theorem of_get? {entry inner : Entry} {location : List String} (distinct : entry.Distinct)
    (found : entry.get? location = some inner) : inner.Distinct := by
  intro deeper entries here
  refine distinct (location ++ deeper) entries ?_
  rw [get?_append, found, Option.bind_some, here]

theorem of_mem {named : String × Entry} (distinct : (folder entries).Distinct)
    (member : named ∈ entries) : named.2.Distinct :=
  have here : (folder entries).get? [named.1] = some named.2 :=
    (get?_folder_cons_eq_some distinct.names).mpr ⟨named.2, member, rfl⟩
  distinct.of_get? here

end Distinct

theorem distinct_file (content : Bytes) (mode : Nat) : (file content mode).Distinct := by
  intro location entries found
  cases location <;> simp [get?] at found

theorem distinct_folder {entries : List (String × Entry)} (names : (entries.map Prod.fst).Nodup)
    (inside : ∀ named ∈ entries, named.2.Distinct) : (folder entries).Distinct := by
  intro location deeper found
  cases location with
  | nil =>
    obtain rfl := Entry.folder.inj (Option.some.inj found)
    exact names
  | cons name rest =>
    obtain ⟨inner, member, below⟩ := (get?_folder_cons_eq_some names).mp found
    exact inside (name, inner) member rest deeper below

namespace Reordered

theorem rel_lookup {first middle : List (String × Entry)}
    (names : first.map Prod.fst = middle.map Prod.fst)
    (inside : List.Forall₂ Reordered (first.map Prod.snd) (middle.map Prod.snd)) (name : String) :
    Option.Rel Reordered (first.lookup name) (middle.lookup name) := by
  induction first generalizing middle with
  | nil =>
    obtain rfl := List.map_eq_nil_iff.mp names.symm
    exact .none
  | cons head rest ih =>
    cases middle with
    | nil => exact absurd names (by simp)
    | cons other others =>
      obtain ⟨label, entry⟩ := head
      obtain ⟨otherLabel, otherEntry⟩ := other
      simp only [List.map_cons, List.cons.injEq] at names
      obtain ⟨rfl, names⟩ := names
      obtain ⟨here, later⟩ := List.forall₂_cons.mp inside
      rw [List.lookup_cons, List.lookup_cons]
      cases name == label with
      | true => exact .some here
      | false => exact ih names later

/-- Whatever names lead to, they lead to the same thing with its entries in another order. -/
theorem rel_get? {entry other : Entry} (reordered : Reordered entry other)
    (distinct : entry.Distinct) (location : List String) :
    Option.Rel Reordered (entry.get? location) (other.get? location) := by
  induction location generalizing entry other with
  | nil => exact .some reordered
  | cons name rest ih =>
    cases reordered with
    | file content mode => exact .none
    | @folder first middle second names inside listed =>
      have middleDistinct : (middle.map Prod.fst).Nodup := names ▸ distinct.names
      have secondDistinct : (second.map Prod.fst).Nodup :=
        (listed.map Prod.fst).nodup_iff.mp middleDistinct
      have same : middle.lookup name = second.lookup name := by
        refine Option.ext fun entry => ?_
        rw [lookup_eq_some_iff_mem middleDistinct, lookup_eq_some_iff_mem secondDistinct,
          listed.mem_iff]
      have related := rel_lookup names inside name
      rw [same] at related
      rw [get?, get?]
      generalize second.lookup name = there at related ⊢
      cases found : first.lookup name with
      | none =>
        rw [found] at related
        cases related
        exact .none
      | some inner =>
        rw [found] at related
        cases related with
        | some below =>
          exact ih below (distinct.of_mem ((lookup_eq_some_iff_mem distinct.names).mp found))

theorem distinct {entry other : Entry} (reordered : Reordered entry other)
    (distinct : entry.Distinct) : other.Distinct := by
  intro location entries found
  have related := reordered.rel_get? distinct location
  rw [found] at related
  cases here : entry.get? location with
  | none => rw [here] at related; cases related
  | some inner =>
    rw [here] at related
    cases related with
    | some below =>
      cases below with
      | folder names inside listed =>
        have nodup := distinct location _ here
        rw [names] at nodup
        exact (listed.map Prod.fst).nodup_iff.mp nodup

end Reordered

end Entry

namespace Discovery

open Entry

theorem nameLe_iff {first second : String} : nameLe first second = true ↔ first ≤ second := by
  rw [nameLe, Bool.not_eq_true', decide_eq_false_iff_not, String.not_lt]

theorem nameLe_trans (first second third : String) (one : nameLe first second = true)
    (other : nameLe second third = true) : nameLe first third = true :=
  nameLe_iff.mpr (String.le_trans (nameLe_iff.mp one) (nameLe_iff.mp other))

theorem nameLe_total (first second : String) :
    (nameLe first second || nameLe second first) = true := by
  rw [Bool.or_eq_true, nameLe_iff, nameLe_iff]
  exact String.le_total first second

theorem pairwise_lt_mergeSort {α : Type} (name : α → String) {items : List α}
    (distinct : (items.map name).Nodup) :
    (items.mergeSort fun first second => nameLe (name first) (name second)).Pairwise
      fun first second => name first < name second := by
  have sorted : (items.mergeSort fun first second => nameLe (name first) (name second)).Pairwise
      fun first second => nameLe (name first) (name second) = true :=
    List.pairwise_mergeSort
      (fun first second third => nameLe_trans (name first) (name second) (name third))
      (fun first second => nameLe_total (name first) (name second)) items
  have apart := ((List.mergeSort_perm items fun first second =>
    nameLe (name first) (name second)).map name).nodup_iff.mpr distinct
  refine sorted.imp₂ (fun first second le different => ?_) (List.pairwise_map.mp apart)
  by_contra notLess
  exact different (String.le_antisymm (nameLe_iff.mp le) (String.not_lt.mp notLess))

theorem mem_fileNames {entries : List (String × Entry)} {name : String} :
    name ∈ fileNames entries ↔ ∃ content mode, (name, .file content mode) ∈ entries := by
  rw [fileNames, List.mem_mergeSort, List.mem_map]
  constructor
  · rintro ⟨⟨label, entry⟩, member, rfl⟩
    obtain ⟨listed, isFile⟩ := List.mem_filter.mp member
    cases entry with
    | file content mode => exact ⟨content, mode, listed⟩
    | folder inside => exact absurd isFile (by simp [Entry.isFile])
  · rintro ⟨content, mode, member⟩
    exact ⟨(name, .file content mode), List.mem_filter.mpr ⟨member, rfl⟩, rfl⟩

theorem pairwise_fileNames {entries : List (String × Entry)}
    (distinct : (entries.map Prod.fst).Nodup) : (fileNames entries).Pairwise (· < ·) := by
  refine pairwise_lt_mergeSort id ?_
  rw [List.map_id]
  exact (List.filter_sublist.map Prod.fst).nodup distinct

section Visit

variable (ignored : List String)

theorem visitFolders_eq (entries : List (String × Entry)) :
    visitFolders ignored entries =
      (entries.filter fun named => named.2.isFolder && !ignored.contains named.1).map
        fun named => (named.1, visit ignored named.2) := by
  induction entries with
  | nil => rfl
  | cons head rest ih =>
    rw [visitFolders, List.filter_cons, ih]
    split <;> rfl

/-- The folders that a visit goes into, each with what it finds there, by name. -/
def visited (entries : List (String × Entry)) : List (String × List (List String)) :=
  (visitFolders ignored entries).mergeSort fun first second => nameLe first.1 second.1

theorem visit_folder (entries : List (String × Entry)) :
    visit ignored (.folder entries) =
      ((fileNames entries).map fun name => [name]) ++
        (visited ignored entries).flatMap fun found => found.2.map (found.1 :: ·) := by
  rw [visit]
  rfl

theorem mem_visited {entries : List (String × Entry)} {found : String × List (List String)} :
    found ∈ visited ignored entries ↔
      ∃ inside, (found.1, .folder inside) ∈ entries ∧ found.1 ∉ ignored ∧
        found.2 = visit ignored (.folder inside) := by
  rw [visited, List.mem_mergeSort, visitFolders_eq, List.mem_map]
  constructor
  · rintro ⟨⟨name, entry⟩, member, rfl⟩
    obtain ⟨listed, free⟩ := List.mem_filter.mp member
    cases entry with
    | file content mode => exact absurd free (by simp [isFolder])
    | folder inside => exact ⟨inside, listed, by simpa [isFolder] using free, rfl⟩
  · rintro ⟨inside, listed, allowed, lists⟩
    obtain ⟨name, names⟩ := found
    obtain rfl : names = _ := lists
    exact ⟨(name, .folder inside),
      List.mem_filter.mpr ⟨listed, by simpa [isFolder] using allowed⟩, rfl⟩

theorem pairwise_visited {entries : List (String × Entry)}
    (distinct : (entries.map Prod.fst).Nodup) :
    (visited ignored entries).Pairwise fun first second => first.1 < second.1 := by
  refine pairwise_lt_mergeSort Prod.fst ?_
  rw [visitFolders_eq, List.map_map]
  exact (List.filter_sublist.map Prod.fst).nodup distinct

theorem nil_notMem_visit (entry : Entry) : [] ∉ visit ignored entry := by
  cases entry with
  | file content mode => simp [visit]
  | folder entries => simp [visit_folder]

theorem cons_mem_visit_folder {entries : List (String × Entry)} {name : String}
    {names : List String} :
    name :: names ∈ visit ignored (.folder entries) ↔
      (names = [] ∧ ∃ content mode, (name, .file content mode) ∈ entries) ∨
        ∃ inside, (name, .folder inside) ∈ entries ∧ name ∉ ignored ∧
          names ∈ visit ignored (.folder inside) := by
  rw [visit_folder, List.mem_append, List.mem_flatMap]
  refine or_congr ?_ ?_
  · simp only [List.mem_map, List.cons.injEq, ← mem_fileNames]
    constructor
    · rintro ⟨label, member, rfl, rfl⟩
      exact ⟨rfl, member⟩
    · rintro ⟨rfl, member⟩
      exact ⟨name, member, rfl, rfl⟩
  · constructor
    · rintro ⟨⟨label, found⟩, member, listed⟩
      obtain ⟨below, inFound, same⟩ := List.mem_map.mp listed
      obtain ⟨rfl, rfl⟩ := List.cons.inj same
      obtain ⟨inside, isEntry, allowed, rfl⟩ := (mem_visited ignored).mp member
      exact ⟨inside, isEntry, allowed, inFound⟩
    · rintro ⟨inside, isEntry, allowed, member⟩
      exact ⟨(name, visit ignored (.folder inside)),
        (mem_visited ignored).mpr ⟨inside, isEntry, allowed, rfl⟩, List.mem_map_of_mem member⟩

/-- A visit lists the files below an entry that no ignored folder is above of. -/
theorem mem_visit {entry : Entry} (distinct : entry.Distinct) {names : List String} :
    names ∈ visit ignored entry ↔
      names ≠ [] ∧ (∃ content mode, entry.get? names = some (.file content mode)) ∧
        ∀ folder ∈ names.dropLast, folder ∉ ignored := by
  induction names generalizing entry with
  | nil => exact iff_of_false (nil_notMem_visit ignored entry) fun below => below.1 rfl
  | cons name rest ih =>
    cases entry with
    | file content mode => simp [visit, get?]
    | folder entries =>
      rw [cons_mem_visit_folder]
      simp only [get?_folder_cons_eq_some distinct.names, ne_eq, List.cons_ne_nil, not_false_eq_true,
        true_and]
      cases rest with
      | nil =>
        constructor
        · rintro (⟨-, content, mode, member⟩ | ⟨inside, -, -, empty⟩)
          · exact ⟨⟨content, mode, _, member, rfl⟩, by simp⟩
          · exact absurd empty (nil_notMem_visit ignored _)
        · rintro ⟨⟨content, mode, inner, member, here⟩, -⟩
          obtain rfl := Option.some.inj here
          exact Or.inl ⟨rfl, content, mode, member⟩
      | cons next rest =>
        rw [List.dropLast_cons_cons, List.forall_mem_cons]
        constructor
        · rintro (⟨none, -⟩ | ⟨inside, member, allowed, listed⟩)
          · exact absurd none (List.cons_ne_nil _ _)
          · obtain ⟨-, ⟨content, mode, found⟩, free⟩ := (ih (distinct.of_mem member)).mp listed
            exact ⟨⟨content, mode, _, member, found⟩, allowed, free⟩
        · rintro ⟨⟨content, mode, inner, member, found⟩, allowed, free⟩
          cases inner with
          | file content mode => exact absurd found (by simp [get?])
          | folder inside =>
            refine Or.inr ⟨inside, member, allowed, (ih (distinct.of_mem member)).mpr ?_⟩
            exact ⟨List.cons_ne_nil _ _, ⟨content, mode, found⟩, free⟩

end Visit

/-- The order of a search. The files of a folder come first, by name, and then what is in its
subfolders, one after another by name. -/
def Earlier : List String → List String → Prop
  | [first], [second] => first < second
  | [_], _ :: _ :: _ => True
  | first :: next :: rest, second :: other :: others =>
      first < second ∨ first = second ∧ Earlier (next :: rest) (other :: others)
  | _, _ => False

theorem earlier_deeper (name : String) {names : List String} (deep : names ≠ []) (folder : String) :
    Earlier [name] (folder :: names) := by
  obtain ⟨next, rest, rfl⟩ := List.exists_cons_of_ne_nil deep
  exact trivial

theorem earlier_cons {first second : String} {names others : List String} (deep : names ≠ [])
    (deepToo : others ≠ []) :
    Earlier (first :: names) (second :: others) ↔
      first < second ∨ first = second ∧ Earlier names others := by
  obtain ⟨next, rest, rfl⟩ := List.exists_cons_of_ne_nil deep
  obtain ⟨other, more, rfl⟩ := List.exists_cons_of_ne_nil deepToo
  rfl

theorem Earlier.asymm {first second : List String} (earlier : Earlier first second) :
    ¬Earlier second first := by
  fun_induction Earlier first second with
  | case1 name other => exact String.lt_asymm earlier
  | case2 => exact id
  | case3 name next rest other further others ih =>
    rintro (less | ⟨rfl, back⟩)
    · rcases earlier with before | ⟨rfl, -⟩
      · exact String.lt_asymm before less
      · exact String.lt_irrefl _ less
    · rcases earlier with before | ⟨-, forth⟩
      · exact String.lt_irrefl _ before
      · exact ih forth back
  | case4 => exact earlier.elim

theorem visit_pairwise (ignored : List String) : ∀ {entry : Entry}, entry.Distinct →
    (visit ignored entry).Pairwise Earlier
  | .file content mode, _ => by
    rw [visit]
    exact .nil
  | .folder entries, distinct => by
    have deep : ∀ found ∈ visited ignored entries, ∀ names ∈ found.2, names ≠ [] := by
      rintro found member names listed rfl
      obtain ⟨inside, -, -, lists⟩ := (mem_visited ignored).mp member
      exact nil_notMem_visit ignored _ (lists ▸ listed)
    rw [visit_folder, List.pairwise_append, List.pairwise_flatMap]
    -- The own files by name, each subfolder in itself, the subfolders by name, and files before these.
    refine ⟨?_, ⟨fun found member => ?_, ?_⟩, ?_⟩
    · rw [List.pairwise_map]
      exact pairwise_fileNames distinct.names
    · obtain ⟨inside, isEntry, -, lists⟩ := (mem_visited ignored).mp member
      have sorted := visit_pairwise ignored (distinct.of_mem isEntry)
      rw [← lists] at sorted
      rw [List.pairwise_map]
      refine sorted.imp_of_mem fun one other earlier => ?_
      exact (earlier_cons (deep found member _ one) (deep found member _ other)).mpr
        (Or.inr ⟨rfl, earlier⟩)
    · refine (pairwise_visited ignored distinct.names).imp_of_mem ?_
      intro first second one other less names listed names' listed'
      obtain ⟨below, inFirst, rfl⟩ := List.mem_map.mp listed
      obtain ⟨below', inSecond, rfl⟩ := List.mem_map.mp listed'
      exact (earlier_cons (deep first one _ inFirst) (deep second other _ inSecond)).mpr (Or.inl less)
    · intro names own names' listed
      obtain ⟨name, -, rfl⟩ := List.mem_map.mp own
      obtain ⟨found, member, inFound⟩ := List.mem_flatMap.mp listed
      obtain ⟨below, isBelow, rfl⟩ := List.mem_map.mp inFound
      exact earlier_deeper name (deep found member _ isBelow) found.1
termination_by entry => sizeOf entry
decreasing_by
  have smaller := List.sizeOf_lt_of_mem isEntry
  simp only [Prod.mk.sizeOf_spec, Entry.folder.sizeOf_spec] at smaller ⊢
  omega

theorem Earlier.ne {first second : List String} (earlier : Earlier first second) :
    first ≠ second := by
  rintro rfl
  exact earlier.asymm earlier

end Discovery

end Mutant
