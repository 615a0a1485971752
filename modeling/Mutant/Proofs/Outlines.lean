import Mutant.Proofs.Locations

/-!
What paths and searches depend on. Where names lead is a matter of which locations have a folder and
which a file; what the files hold, and who may do what with them, makes no difference. Whether a file
may be read or overwritten is a matter of its permissions, and not of what it holds either.
-/

namespace Mutant

namespace Status

def permissions? : Status → Option Nat
  | file _ permissions => some permissions
  | folder => none

def isFolder (status : Status) : Bool :=
  status.permissions?.isNone

def content? : Status → Option Bytes
  | file content _ => some content
  | folder => none

end Status

namespace Disk

def shape (disk : Disk) (location : List String) : Option Bool :=
  (disk.status? location).map Status.isFolder

def outline (disk : Disk) (location : List String) : Option (Option Nat) :=
  (disk.status? location).map Status.permissions?

def bytes? (disk : Disk) (location : List String) : Option Bytes :=
  (disk.status? location).bind Status.content?

def refusalAt (disk : Disk) (access : Access) (location : List String) : Option Trouble :=
  (disk.outline location).join.bind (disk.refusal access location)

/-- The file at a path may not be overwritten. -/
def Protects (disk : Disk) (path : Path) (trouble : Trouble) : Prop :=
  ∃ location, disk.locate path = .ok location ∧ disk.refusalAt .write location = some trouble

/-- There is a file with this content at a path, whether or not it may be read. -/
def Holds (disk : Disk) (path : Path) (content : Bytes) : Prop :=
  ∃ mode, disk.find path = .ok (.file content mode)

/-- Two disks on which paths lead to the same places and to things of the same kind. -/
structure SameShape (first second : Disk) : Prop where
  home : first.home = second.home
  shape : first.shape = second.shape

/-- Two disks that differ in nothing but what the files hold. -/
structure SameOutline (first second : Disk) : Prop where
  home : first.home = second.home
  refusal : first.refusal = second.refusal
  outline : first.outline = second.outline

theorem shape_eq_map_at? (disk : Disk) (location : List String) :
    disk.shape location = (disk.at? location).map Entry.isFolder := by
  rcases found : disk.at? location with _ | ⟨content, mode⟩ | entries <;>
    simp [shape, status?, found, Entry.status, Entry.isFolder, Status.isFolder, Status.permissions?]

variable {first second : Disk}

namespace SameOutline

theorem refl (disk : Disk) : SameOutline disk disk :=
  ⟨rfl, rfl, rfl⟩

theorem symm (same : SameOutline first second) : SameOutline second first :=
  ⟨same.home.symm, same.refusal.symm, same.outline.symm⟩

theorem trans {third : Disk} (one : SameOutline first second) (other : SameOutline second third) :
    SameOutline first third :=
  ⟨one.home.trans other.home, one.refusal.trans other.refusal, one.outline.trans other.outline⟩

theorem sameShape (same : SameOutline first second) : SameShape first second := by
  have shape_eq (disk : Disk) (location : List String) :
      disk.shape location = (disk.outline location).map Option.isNone :=
    (Option.map_map Option.isNone Status.permissions? _).symm
  refine ⟨same.home, funext fun location => ?_⟩
  rw [shape_eq, shape_eq, same.outline]

theorem refusalAt (same : SameOutline first second) (access : Access) (location : List String) :
    first.refusalAt access location = second.refusalAt access location := by
  rw [Disk.refusalAt, Disk.refusalAt, same.outline, same.refusal]

end SameOutline

theorem follow_cons (disk : Disk) (location : List String) (name : String) (names : List String) :
    disk.follow location (name :: names) =
      match disk.shape location with
      | none => .error .missing
      | some false => .error .notFolder
      | some true =>
          if name == ".." then disk.follow location.dropLast names
          else if isLongName name then .error .nameTooLong
          else disk.follow (location ++ [name]) names := by
  rw [follow, shape_eq_map_at?]
  rcases disk.at? location with _ | ⟨content, mode⟩ | entries <;> rfl

theorem follow_congr (same : first.shape = second.shape) (location names : List String) :
    first.follow location names = second.follow location names := by
  induction names generalizing location with
  | nil => rfl
  | cons name names ih => simp only [follow_cons, same, ih]

theorem locate_congr (same : SameShape first second) (path : Path) :
    first.locate path = second.locate path := by
  simp only [locate, follow_congr same.shape, origin_congr same.home]

theorem map_isFile_probe_congr (same : SameShape first second) (path : Path) :
    (first.probe path).map (Option.map Entry.isFile) =
      (second.probe path).map (Option.map Entry.isFile) := by
  unfold probe find
  rw [locate_congr same]
  rcases second.locate path with trouble | location
  · cases trouble <;> rfl
  · have here := congrFun same.shape location
    rw [shape_eq_map_at?, shape_eq_map_at?] at here
    cases found : first.at? location with
    | none =>
      rw [found, Option.map_none, eq_comm, Option.map_eq_none_iff] at here
      simp only [found, here]
    | some entry =>
      rw [found, Option.map_some, eq_comm, Option.map_eq_some_iff] at here
      obtain ⟨other, otherFound, kind⟩ := here
      simp only [found, otherFound]
      cases entry <;> cases other <;> first | rfl | exact absurd kind (by simp [Entry.isFolder])

theorem map_isFolder_find_congr (same : SameShape first second) (path : Path) :
    (first.find path).map Entry.isFolder = (second.find path).map Entry.isFolder := by
  unfold find
  rw [locate_congr same]
  rcases second.locate path with trouble | location
  · rfl
  · have here := congrFun same.shape location
    rw [shape_eq_map_at?, shape_eq_map_at?] at here
    dsimp only
    generalize first.at? location = one at here ⊢
    generalize second.at? location = two at here ⊢
    cases one <;> cases two <;> simp_all [Except.map]

theorem isFolder_congr (same : SameShape first second) (path : Path) :
    first.isFolder path = second.isFolder path := by
  have kinds := map_isFolder_find_congr same path
  unfold isFolder
  generalize first.find path = one at kinds ⊢
  generalize second.find path = two at kinds ⊢
  cases one <;> cases two <;> simp_all [Except.map]

theorem hasEntry_congr (same : SameShape first second) (path : Path) :
    first.hasEntry path = second.hasEntry path := by
  have kinds := map_isFolder_find_congr same path
  unfold hasEntry
  generalize first.find path = one at kinds ⊢
  generalize second.find path = two at kinds ⊢
  cases one <;> cases two <;> simp_all [Except.map, Except.isOk, Except.toBool]

theorem exists_at?_of_sameOutline (same : SameOutline first second) {location : List String}
    {content : Bytes} {mode : Nat} (found : first.at? location = some (.file content mode)) :
    ∃ otherContent otherMode, second.at? location = some (.file otherContent otherMode) ∧
      Entry.permissionsOf otherMode = Entry.permissionsOf mode := by
  have here := congrFun same.outline location
  rw [outline, status?_of_at? found, outline, status?] at here
  rcases otherFound : second.at? location with _ | ⟨otherContent, otherMode⟩ | entries
  · simp [otherFound] at here
  · simp only [otherFound, Option.map_some, Option.some_inj, Entry.status, Status.permissions?] at here
    exact ⟨otherContent, otherMode, rfl, here.symm⟩
  · simp [otherFound, Entry.status, Status.permissions?] at here

variable {disk : Disk} {folder : List String} {name : String} {content : Bytes} {mode : Nat}

theorem bytes?_eq_some {location : List String} :
    disk.bytes? location = some content ↔
      ∃ mode, disk.at? location = some (.file content mode) := by
  rw [bytes?, status?]
  rcases disk.at? location with _ | ⟨old, mode⟩ | entries <;>
    simp [Entry.status, Status.content?]

theorem holds_iff_bytes? {path : Path} :
    disk.Holds path content ↔
      ∃ location, disk.locate path = .ok location ∧ disk.bytes? location = some content := by
  simp only [Holds, find_eq_file, bytes?_eq_some]
  constructor
  · rintro ⟨mode, location, located, here⟩
    exact ⟨location, located, mode, here⟩
  · rintro ⟨location, located, mode, here⟩
    exact ⟨mode, location, located, here⟩

theorem refusalAt_of_at? {location : List String} (access : Access)
    (found : disk.at? location = some (.file content mode)) :
    disk.refusalAt access location = disk.refuses? access location mode := by
  rw [refusalAt, outline, status?_of_at? found]
  rfl

theorem read_eq_ok_iff {path : Path} :
    disk.read path = .ok content ↔
      ∃ location, disk.locate path = .ok location ∧ disk.bytes? location = some content ∧
        disk.refusalAt .read location = none := by
  simp only [read_eq_ok, bytes?_eq_some]
  constructor
  · rintro ⟨location, mode, located, here, allowed⟩
    exact ⟨location, located, ⟨mode, here⟩, (refusalAt_of_at? .read here).trans allowed⟩
  · rintro ⟨location, located, ⟨mode, here⟩, allowed⟩
    exact ⟨location, mode, located, here, (refusalAt_of_at? .read here).symm.trans allowed⟩

theorem shape_eq_some_false {location : List String} :
    disk.shape location = some false ↔ ∃ content, disk.bytes? location = some content := by
  rw [shape_eq_map_at?, bytes?, status?]
  rcases disk.at? location with _ | ⟨old, mode⟩ | entries <;>
    simp [Entry.status, Entry.isFolder, Status.content?]

theorem sameShape_put (found : disk.at? (folder ++ [name]) = some (.file content mode))
    (newContent : Bytes) (newMode : Nat) :
    SameShape (disk.put (folder ++ [name]) (.file newContent newMode)) disk := by
  refine ⟨rfl, funext fun other => ?_⟩
  rw [shape, (room_of_at? found).status?_put]
  split
  next here =>
    subst here
    rw [shape, status?_of_at? found]
    rfl
  next => rfl

/-- New content does not change the outline if the permissions are the old ones. -/
theorem sameOutline_put (found : disk.at? (folder ++ [name]) = some (.file content mode))
    (newContent : Bytes) {newMode : Nat}
    (permissions : Entry.permissionsOf newMode = Entry.permissionsOf mode) :
    SameOutline (disk.put (folder ++ [name]) (.file newContent newMode)) disk := by
  refine ⟨rfl, rfl, funext fun other => ?_⟩
  rw [outline, (room_of_at? found).status?_put]
  split
  next here =>
    rw [here, outline, status?_of_at? found, permissions]
    rfl
  next => rfl

end Disk

end Mutant
