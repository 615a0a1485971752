import Mutant.Disk

/-!
What is at the locations of a disk. Putting a file somewhere changes what shows there and nowhere
else, and names are followed as before wherever the same folders are.
-/

namespace Mutant

/-- What shows of an entry: that it is a folder, or the content of a file and who may do what with
it. -/
inductive Status where
  | file (content : Bytes) (permissions : Nat)
  | folder
deriving DecidableEq, Repr

namespace Entry

theorem permissionsOf_permissionsOf (mode : Nat) :
    permissionsOf (permissionsOf mode) = permissionsOf mode :=
  Nat.mod_mod mode _

def status : Entry → Status
  | file content mode => .file content (permissionsOf mode)
  | folder _ => .folder

def Keeps (change : Option Entry → Option Entry) : Prop :=
  ∀ entry, (change (some entry)).isSome = true

theorem keeps_const (entry : Entry) : Keeps fun _ => some entry :=
  fun _ => rfl

theorem keeps_map (change : Entry → Entry) : Keeps (Option.map change) :=
  fun _ => rfl

theorem lookup_alterIn_of_ne (change : Option Entry → Option Entry) {name other : String}
    (different : other ≠ name) (entries : List (String × Entry)) :
    (alterIn change name entries).lookup other = entries.lookup other := by
  have elsewhere : (other == name) = false := beq_eq_false_iff_ne.mpr different
  induction entries with
  | nil => cases found : change none <;> simp [alterIn, found, List.lookup_cons, elsewhere]
  | cons head rest ih =>
    obtain ⟨first, entry⟩ := head
    by_cases here : name = first
    · subst here
      cases found : change (some entry) <;> simp [alterIn, found, List.lookup_cons, elsewhere]
    · simp [alterIn, here, List.lookup_cons, ih]

theorem lookup_alterIn {change : Option Entry → Option Entry} (keeps : Keeps change) (name : String)
    (entries : List (String × Entry)) :
    (alterIn change name entries).lookup name = change (entries.lookup name) := by
  induction entries with
  | nil => cases found : change none <;> simp [alterIn, found]
  | cons head rest ih =>
    obtain ⟨first, entry⟩ := head
    by_cases here : name = first
    · subst here
      obtain ⟨changed, found⟩ := Option.isSome_iff_exists.mp (keeps entry)
      simp [alterIn, found]
    · have elsewhere : (name == first) = false := beq_eq_false_iff_ne.mpr here
      simp [alterIn, List.lookup_cons, elsewhere, ih]

theorem alterIn_self {change : Option Entry → Option Entry} {name : String}
    {entries : List (String × Entry)} (same : change (entries.lookup name) = entries.lookup name) :
    alterIn change name entries = entries := by
  induction entries with
  | nil =>
    rw [List.lookup_nil] at same
    simp [alterIn, same]
  | cons head rest ih =>
    obtain ⟨first, entry⟩ := head
    by_cases here : name = first
    · subst here
      rw [List.lookup_cons_self] at same
      simp [alterIn, same]
    · have elsewhere : (name == first) = false := beq_eq_false_iff_ne.mpr here
      have later : change (rest.lookup name) = rest.lookup name := by
        simpa only [List.lookup_cons, elsewhere] using same
      simp [alterIn, here, ih later]

theorem alterIn_alterIn (first : Option Entry → Option Entry) {second : Option Entry → Option Entry}
    (keeps : Keeps second) (name : String) (entries : List (String × Entry)) :
    alterIn first name (alterIn second name entries) = alterIn (first ∘ second) name entries := by
  induction entries with
  | nil => cases found : second none <;> simp [alterIn, found]
  | cons head rest ih =>
    obtain ⟨other, entry⟩ := head
    by_cases here : name = other
    · subst here
      obtain ⟨changed, found⟩ := Option.isSome_iff_exists.mp (keeps entry)
      simp [alterIn, found]
    · simp [alterIn, here, ih]

def within (change : Option Entry → Option Entry) : List String → Option Entry → Option Entry
  | [] => change
  | name :: names => Option.map (alter change (name :: names))

theorem keeps_within {change : Option Entry → Option Entry} (keeps : Keeps change)
    (names : List String) : Keeps (within change names) := by
  cases names with
  | nil => exact keeps
  | cons name names => exact keeps_map _

theorem alter_folder (change : Option Entry → Option Entry) (name : String) (names : List String)
    (entries : List (String × Entry)) :
    alter change (name :: names) (folder entries) =
      folder (alterIn (within change names) name entries) := by
  cases names <;> rfl

theorem alter_self {change : Option Entry → Option Entry} {names : List String} {entry : Entry}
    (same : change (entry.get? names) = entry.get? names) : alter change names entry = entry := by
  induction names generalizing entry with
  | nil => rfl
  | cons name names ih =>
    cases entry with
    | file content mode => rfl
    | folder entries =>
      rw [alter_folder, alterIn_self]
      cases names with
      | nil => simpa [get?, within] using same
      | cons next names =>
        cases found : entries.lookup name with
        | none => rfl
        | some inner =>
          simp only [get?, found, Option.bind_some] at same
          rw [within, Option.map_some, ih same]

theorem alter_alter (first : Option Entry → Option Entry) {second : Option Entry → Option Entry}
    (keeps : Keeps second) (names : List String) (entry : Entry) :
    alter first names (alter second names entry) = alter (first ∘ second) names entry := by
  induction names generalizing entry with
  | nil => rfl
  | cons name names ih =>
    cases entry with
    | file content mode => rfl
    | folder entries =>
      rw [alter_folder, alter_folder, alter_folder, alterIn_alterIn _ (keeps_within keeps names)]
      cases names with
      | nil => rfl
      | cons next names =>
        have composed : alter first (next :: names) ∘ alter second (next :: names) =
            alter (first ∘ second) (next :: names) :=
          funext ih
        rw [within, within, within, Option.map_comp_map, composed]

theorem get?_append (entry : Entry) (names rest : List String) :
    entry.get? (names ++ rest) = (entry.get? names).bind (·.get? rest) := by
  induction names generalizing entry with
  | nil => rfl
  | cons name names ih =>
    cases entry with
    | file content mode => rfl
    | folder entries =>
      simp only [List.cons_append, get?]
      cases entries.lookup name with
      | none => rfl
      | some inner => exact ih inner

/-- In a folder, the entry at a location becomes what the change makes of it. -/
theorem get?_alter {change : Option Entry → Option Entry} (keeps : Keeps change)
    {names : List String} {name : String} {entry : Entry} {entries : List (String × Entry)}
    (inFolder : entry.get? names = some (folder entries)) :
    (alter change (names ++ [name]) entry).get? (names ++ [name]) =
      change (entry.get? (names ++ [name])) := by
  induction names generalizing entry with
  | nil =>
    rw [get?, Option.some_inj] at inFolder
    subst inFolder
    rw [List.nil_append, alter_folder, get?, lookup_alterIn (keeps_within keeps [])]
    simp [get?, within]
  | cons first names ih =>
    cases entry with
    | file content mode => simp [get?] at inFolder
    | folder outer =>
      rw [get?] at inFolder
      obtain ⟨inner, found, reached⟩ := Option.bind_eq_some_iff.mp inFolder
      rw [List.cons_append, alter_folder, get?, lookup_alterIn (keeps_within keeps _), get?, found]
      cases more : names ++ [name] with
      | nil => simp at more
      | cons next rest =>
        rw [← more]
        simpa [within, more] using ih reached

def Hollow (entry : Entry) : Prop :=
  ∀ name names, entry.get? (name :: names) = none

theorem hollow_file (content : Bytes) (mode : Nat) : Hollow (file content mode) :=
  fun _ _ => rfl

theorem hollow_folder : Hollow (folder []) :=
  fun _ _ => rfl

/-- Elsewhere everything shows as before when a hollow entry is put in a folder in the place of
nothing or of a file. -/
theorem status_alter_of_ne {made : Entry} (hollow : made.Hollow) {names other : List String}
    {name : String} {entry : Entry} {entries : List (String × Entry)}
    (inFolder : entry.get? names = some (folder entries))
    (noFolder : ∀ inside, entry.get? (names ++ [name]) ≠ some (folder inside))
    (elsewhere : other ≠ names ++ [name]) :
    ((alter (fun _ => some made) (names ++ [name]) entry).get? other).map status =
      (entry.get? other).map status := by
  induction names generalizing entry other with
  | nil =>
    rw [get?, Option.some_inj] at inFolder
    subst inFolder
    rw [List.nil_append, alter_folder]
    cases other with
    | nil => rfl
    | cons first rest =>
      rw [get?, get?]
      -- What is asked for is the new entry, below it, or beside it.
      by_cases here : first = name
      · subst here
        rw [lookup_alterIn (keeps_within (keeps_const _) [])]
        cases rest with
        | nil => exact absurd rfl elsewhere
        | cons second rest =>
          -- No folder was in this place, so nothing was below it.
          have nothing : (entries.lookup first).bind (·.get? (second :: rest)) = none := by
            cases found : entries.lookup first with
            | none => rfl
            | some old =>
              cases old with
              | file oldContent oldMode => rfl
              | folder inside => exact absurd (by simp [get?, found]) (noFolder inside)
          rw [nothing]
          exact congrArg (Option.map status) (hollow second rest)
      · rw [lookup_alterIn_of_ne _ here]
  | cons first names ih =>
    cases entry with
    | file oldContent oldMode => simp [get?] at inFolder
    | folder outer =>
      rw [get?] at inFolder
      obtain ⟨inner, found, reached⟩ := Option.bind_eq_some_iff.mp inFolder
      rw [List.cons_append, alter_folder]
      cases other with
      | nil => rfl
      | cons second rest =>
        rw [get?, get?]
        by_cases here : second = first
        · subst here
          rw [lookup_alterIn (keeps_within (keeps_const _) _), found]
          have stillNoFolder : ∀ inside, inner.get? (names ++ [name]) ≠ some (folder inside) := by
            intro inside same
            exact noFolder inside (by rw [List.cons_append, get?, found, Option.bind_some, same])
          have inElsewhere : rest ≠ names ++ [name] := by
            rintro rfl
            exact elsewhere rfl
          cases more : names ++ [name] with
          | nil => simp at more
          | cons next last =>
            rw [within, Option.map_some, Option.bind_some, Option.bind_some, ← more]
            exact ih reached stillNoFolder inElsewhere
        · rw [lookup_alterIn_of_ne _ here]

end Entry

namespace Disk

def status? (disk : Disk) (location : List String) : Option Status :=
  (disk.at? location).map Entry.status

theorem status?_eq_folder_iff {disk : Disk} {location : List String} :
    disk.status? location = some .folder ↔ ∃ entries, disk.at? location = some (.folder entries) := by
  unfold status?
  rcases disk.at? location with _ | ⟨content, mode⟩ | entries <;> simp [Entry.status]

theorem status?_of_at? {disk : Disk} {location : List String} {content : Bytes} {mode : Nat}
    (found : disk.at? location = some (.file content mode)) :
    disk.status? location = some (.file content (Entry.permissionsOf mode)) := by
  rw [status?, found]
  rfl

/-- There is room for a file: in a folder, and not where a folder is. -/
structure Room (disk : Disk) (folder : List String) (name : String) : Prop where
  inFolder : disk.status? folder = some .folder
  noFolder : disk.status? (folder ++ [name]) ≠ some .folder

namespace Room

variable {disk : Disk} {folder : List String} {name : String} (room : disk.Room folder name)

include room

theorem at?_put (entry : Entry) :
    (disk.put (folder ++ [name]) entry).at? (folder ++ [name]) = some entry := by
  obtain ⟨entries, inFolder⟩ := status?_eq_folder_iff.mp room.inFolder
  exact Entry.get?_alter (Entry.keeps_const entry) inFolder

theorem status?_put_of_ne {entry : Entry} (hollow : entry.Hollow) {other : List String}
    (elsewhere : other ≠ folder ++ [name]) :
    (disk.put (folder ++ [name]) entry).status? other = disk.status? other := by
  obtain ⟨entries, inFolder⟩ := status?_eq_folder_iff.mp room.inFolder
  exact Entry.status_alter_of_ne hollow inFolder
    (fun inside found => room.noFolder (status?_eq_folder_iff.mpr ⟨inside, found⟩)) elsewhere

theorem status?_put (content : Bytes) (mode : Nat) (other : List String) :
    (disk.put (folder ++ [name]) (.file content mode)).status? other =
      if other = folder ++ [name] then some (.file content (Entry.permissionsOf mode))
      else disk.status? other := by
  split
  next here =>
    subst here
    exact status?_of_at? (room.at?_put _)
  next elsewhere => exact room.status?_put_of_ne (Entry.hollow_file content mode) elsewhere

theorem status?_put_folder {entry : Entry} (hollow : entry.Hollow) {other : List String}
    (isFolder : disk.status? other = some .folder) :
    (disk.put (folder ++ [name]) entry).status? other = some .folder := by
  rw [room.status?_put_of_ne hollow]
  · exact isFolder
  · rintro rfl
    exact room.noFolder isFolder

end Room

@[simp]
theorem home_put (disk : Disk) (location : List String) (entry : Entry) :
    (disk.put location entry).home = disk.home :=
  rfl

@[simp]
theorem refusal_put (disk : Disk) (location : List String) (entry : Entry) :
    (disk.put location entry).refusal = disk.refusal :=
  rfl

theorem room_of_at? {disk : Disk} {folder : List String} {name : String} {content : Bytes}
    {mode : Nat} (found : disk.at? (folder ++ [name]) = some (.file content mode)) :
    disk.Room folder name := by
  refine ⟨?_, by rw [status?_of_at? found]; simp⟩
  have stepwise := found
  rw [at?, Entry.get?_append] at stepwise
  obtain ⟨parent, reached, inside⟩ := Option.bind_eq_some_iff.mp stepwise
  cases parent with
  | file content mode => simp [Entry.get?] at inside
  | folder entries => exact status?_eq_folder_iff.mpr ⟨entries, reached⟩

theorem put_put (disk : Disk) (location : List String) (first second : Entry) :
    (disk.put location first).put location second = disk.put location second :=
  congrArg (fun root => { disk with root })
    (Entry.alter_alter _ (Entry.keeps_const first) location disk.root)

theorem drop_put {disk : Disk} {location : List String} (entry : Entry)
    (absent : disk.at? location = none) : (disk.put location entry).drop location = disk := by
  have dropped : (disk.put location entry).drop location = disk.drop location :=
    congrArg (fun root => { disk with root })
      (Entry.alter_alter _ (Entry.keeps_const entry) location disk.root)
  have unchanged : disk.root.alter (fun _ => none) location = disk.root :=
    Entry.alter_self absent.symm
  rw [dropped, drop, unchanged]

theorem follow_cons_eq_ok {disk : Disk} {location names result : List String} {name : String} :
    disk.follow location (name :: names) = .ok result ↔
      disk.status? location = some .folder ∧
        ((name = ".." ∧ disk.follow location.dropLast names = .ok result) ∨
          (name ≠ ".." ∧ isLongName name = false ∧
            disk.follow (location ++ [name]) names = .ok result)) := by
  rw [follow]
  cases found : disk.at? location with
  | none => simp [status?, found]
  | some entry =>
    cases entry with
    | file content mode => simp [status?, found, Entry.status]
    | folder entries =>
      have isFolder : disk.status? location = some .folder := by simp [status?, found, Entry.status]
      simp only [isFolder, true_and, beq_iff_eq]
      by_cases up : name = ".."
      · simp [up]
      · by_cases long : isLongName name = true <;> simp [up, long]

theorem exists_middle_of_follow {disk : Disk} {location names rest result : List String}
    (followed : disk.follow location (names ++ rest) = .ok result) :
    ∃ middle, disk.follow location names = .ok middle ∧ disk.follow middle rest = .ok result := by
  induction names generalizing location with
  | nil => exact ⟨location, rfl, followed⟩
  | cons name names ih =>
    rw [List.cons_append, follow_cons_eq_ok] at followed
    obtain ⟨isFolder, ⟨up, further⟩ | ⟨down, short, further⟩⟩ := followed
    · obtain ⟨middle, first, second⟩ := ih further
      exact ⟨middle, follow_cons_eq_ok.mpr ⟨isFolder, Or.inl ⟨up, first⟩⟩, second⟩
    · obtain ⟨middle, first, second⟩ := ih further
      exact ⟨middle, follow_cons_eq_ok.mpr ⟨isFolder, Or.inr ⟨down, short, first⟩⟩, second⟩

/-- Names lead where they led as long as the folders are still there. -/
theorem follow_mono {before after : Disk}
    (kept : ∀ location, before.status? location = some .folder → after.status? location = some .folder)
    {location names result : List String} (followed : before.follow location names = .ok result) :
    after.follow location names = .ok result := by
  induction names generalizing location with
  | nil => exact followed
  | cons name names ih =>
    rw [follow_cons_eq_ok] at followed ⊢
    obtain ⟨isFolder, steps⟩ := followed
    refine ⟨kept location isFolder, ?_⟩
    rcases steps with ⟨up, rest⟩ | ⟨down, short, rest⟩
    · exact Or.inl ⟨up, ih rest⟩
    · exact Or.inr ⟨down, short, ih rest⟩

theorem origin_congr {before after : Disk} (sameHome : after.home = before.home) (path : Path) :
    after.origin path = before.origin path := by
  rw [origin, origin, sameHome]

theorem locate_eq_ok {disk : Disk} {path : Path} {location : List String} :
    disk.locate path = .ok location ↔
      path.hasNull = false ∧ path.text.utf8ByteSize ≤ maxPath ∧
        disk.follow (disk.origin path) path.names = .ok location := by
  unfold locate
  by_cases null : path.hasNull = true
  · simp [null]
  · by_cases long : maxPath < path.text.utf8ByteSize
    · simp [null, long, Nat.not_le.mpr long]
    · simp [null, long, Nat.not_lt.mp long]

theorem locate_mono {before after : Disk} (sameHome : after.home = before.home)
    (kept : ∀ location, before.status? location = some .folder → after.status? location = some .folder)
    {path : Path} {location : List String} (located : before.locate path = .ok location) :
    after.locate path = .ok location := by
  rw [locate_eq_ok] at located ⊢
  obtain ⟨clean, short, followed⟩ := located
  rw [origin_congr sameHome]
  exact ⟨clean, short, follow_mono kept followed⟩

theorem utf8ByteSize_text_le (root : String) (names : List String) (last : String) :
    (Path.text ⟨root, names⟩).utf8ByteSize ≤
      max 1 (Path.text ⟨root, names ++ [last]⟩).utf8ByteSize := by
  have beside : Path.text ⟨root, names ++ [last]⟩ = root ++ "/".intercalate (names ++ [last]) := by
    simp [Path.text]
  rw [beside]
  by_cases top : names = []
  · subst top
    by_cases relative : root = ""
    · have here : Path.text ⟨root, []⟩ = "." := by simp [Path.text, relative]
      rw [here]
      exact Nat.le_max_left 1 _
    · have here : Path.text ⟨root, []⟩ = root := by simp [Path.text, relative]
      rw [here, String.utf8ByteSize_append]
      omega
  · have above : Path.text ⟨root, names⟩ = root ++ "/".intercalate names := by
      simp [Path.text, top]
    rw [above, String.intercalate_append_of_ne_nil top (by simp)]
    simp only [String.utf8ByteSize_append]
    omega

/-- The folder that a path leads through last. -/
theorem exists_locate_of_concat {disk : Disk} {root name : String} {names location : List String}
    (located : disk.locate ⟨root, names ++ [name]⟩ = .ok location) :
    ∃ folder, disk.locate ⟨root, names⟩ = .ok folder ∧ disk.follow folder [name] = .ok location := by
  obtain ⟨clean, short, followed⟩ := locate_eq_ok.mp located
  obtain ⟨folder, reached, last⟩ := exists_middle_of_follow followed
  refine ⟨folder, locate_eq_ok.mpr ⟨?_, ?_, reached⟩, last⟩
  · simp only [Path.hasNull, List.any_append, Bool.or_eq_false_iff] at clean
    exact clean.1
  · have long : 1 ≤ maxPath := by decide
    exact Nat.le_trans (utf8ByteSize_text_le root names name) (Nat.max_le.mpr ⟨long, short⟩)

/-- Where names lead is what is left of them without `..`. -/
theorem settle_of_follow {disk : Disk} {start names location : List String}
    (followed : disk.follow start names = .ok location) : Path.settle start names = location := by
  induction names generalizing start with
  | nil => exact Except.ok.inj followed
  | cons name names ih =>
    obtain ⟨-, ⟨up, rest⟩ | ⟨down, -, rest⟩⟩ := follow_cons_eq_ok.mp followed
    · rw [← ih rest, Path.settle, List.foldl_cons, if_pos (beq_iff_eq.mpr up), Path.settle]
    · rw [← ih rest, Path.settle, List.foldl_cons, if_neg (by simpa using down), Path.settle]

theorem find_of_locate {disk : Disk} {path : Path} {location : List String}
    (located : disk.locate path = .ok location) :
    disk.find path = (disk.at? location).elim (.error .missing) .ok := by
  rw [find, located]
  cases found : disk.at? location <;> simp [found]

theorem find_eq_file {disk : Disk} {path : Path} {content : Bytes} {mode : Nat} :
    disk.find path = .ok (.file content mode) ↔
      ∃ location, disk.locate path = .ok location ∧
        disk.at? location = some (.file content mode) := by
  constructor
  · intro found
    cases located : disk.locate path with
    | error trouble => simp [find, located] at found
    | ok location =>
      rw [find_of_locate located] at found
      cases here : disk.at? location with
      | none => simp [here] at found
      | some entry =>
        rw [here] at found
        exact ⟨location, rfl, here.trans (congrArg some (Except.ok.inj found))⟩
  · rintro ⟨location, located, found⟩
    rw [find_of_locate located, found]
    rfl

theorem probe_eq_some {disk : Disk} {path : Path} {entry : Entry} :
    disk.probe path = .ok (some entry) ↔ disk.find path = .ok entry := by
  unfold probe
  rcases disk.find path with trouble | found
  · cases trouble <;> simp
  · simp

theorem read_eq_ok {disk : Disk} {path : Path} {content : Bytes} :
    disk.read path = .ok content ↔
      ∃ location mode, disk.locate path = .ok location ∧
        disk.at? location = some (.file content mode) ∧
        disk.refuses? .read location mode = none := by
  cases located : disk.locate path with
  | error trouble => simp [read, located]
  | ok location =>
    rcases found : disk.at? location with _ | ⟨old, mode⟩ | entries
    · simp [read, located, found]
    · cases refused : disk.refuses? .read location mode <;>
        simp [read, located, found, refused, and_assoc]
    · simp [read, located, found]

theorem find_of_read {disk : Disk} {path : Path} {content : Bytes}
    (readable : disk.read path = .ok content) :
    ∃ mode, disk.find path = .ok (.file content mode) := by
  obtain ⟨location, mode, located, found, -⟩ := read_eq_ok.mp readable
  exact ⟨mode, find_eq_file.mpr ⟨location, located, found⟩⟩

theorem probe_of_read {disk : Disk} {path : Path} {content : Bytes}
    (readable : disk.read path = .ok content) :
    ∃ mode, disk.probe path = .ok (some (.file content mode)) := by
  obtain ⟨mode, found⟩ := find_of_read readable
  exact ⟨mode, probe_eq_some.mpr found⟩

theorem mode?_eq_some {disk : Disk} {path : Path} {mode : Nat} :
    disk.mode? path = some mode ↔ ∃ content, disk.find path = .ok (.file content mode) := by
  unfold mode?
  rcases disk.find path with trouble | ⟨content', mode'⟩ | entries <;> simp

theorem write_eq_ok {disk written : Disk} {path : Path} {content : Bytes} :
    disk.write path content = .ok written ↔
      ∃ location, disk.locate path = .ok location ∧
        ((disk.at? location = none ∧ written = disk.put location (.file content newMode)) ∨
          ∃ old mode, disk.at? location = some (.file old mode) ∧
            disk.refuses? .write location mode = none ∧
            written = disk.put location (.file content mode)) := by
  cases located : disk.locate path with
  | error trouble => simp [write, located]
  | ok location =>
    rcases found : disk.at? location with _ | ⟨old, mode⟩ | entries
    · simp [write, located, found, eq_comm]
    · cases refused : disk.refuses? .write location mode <;>
        simp [write, located, found, refused, and_assoc, @eq_comm _ written]
    · simp [write, located, found]

end Disk

end Mutant
