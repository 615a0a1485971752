import Mathlib.Data.List.Nodup
import Mathlib.Data.List.Perm.Subperm
import Mutant.MutateFile
import Mutant.Proofs.Locations

/-!
Replacing a file in one step. The temporary file gets a name that nothing in the folder has, since
there are more such names than entries, so it comes and goes without a trace. What is left is that the
file has its new content and its old permissions, or that nothing happened.
-/

namespace Mutant.Disk

def temporaryName (path : Path) (number : Nat) : String :=
  s!".{path.name}.{eightDigits number}.tmp"

theorem toList_temporaryName (path : Path) (number : Nat) :
    (temporaryName path number).toList =
      '.' :: path.name.toList ++ '.' :: (eightDigits number).toList ++ ['.', 't', 'm', 'p'] := by
  simp [temporaryName, toString]

theorem temporaryName_ne_up (path : Path) (number : Nat) : temporaryName path number ≠ ".." := by
  intro same
  have lengths := congrArg (fun text => text.toList.length) same
  simp only [toList_temporaryName, List.length_append, List.length_cons] at lengths
  simp at lengths

theorem toList_pushn (count : Nat) : ("".pushn '0' count).toList = List.replicate count '0' := by
  rw [String.pushn_eq_repeat_push]
  induction count with
  | zero => rfl
  | succ count ih => simp [Nat.repeat, ih, ← List.replicate_succ']

theorem ofDigitChars_zeros (count : Nat) (digits : List Char) :
    Nat.ofDigitChars 10 (List.replicate count '0' ++ digits) 0 = Nat.ofDigitChars 10 digits 0 := by
  induction count with
  | zero => rfl
  | succ count ih =>
    rw [List.replicate_succ, List.cons_append, Nat.ofDigitChars_cons]
    exact ih

theorem ofDigitChars_eightDigits (number : Nat) :
    Nat.ofDigitChars 10 (eightDigits number).toList 0 = number := by
  rw [eightDigits, String.toList_append, toList_pushn, ofDigitChars_zeros, Nat.toString_eq_repr,
    Nat.toList_repr, Nat.ofDigitChars_ten_toDigits]

theorem temporaryName_injective (path : Path) : Function.Injective (temporaryName path) := by
  intro first second same
  have letters := congrArg String.toList same
  rw [toList_temporaryName, toList_temporaryName] at letters
  have digits : (eightDigits first).toList = (eightDigits second).toList := by
    simpa using letters
  rw [← ofDigitChars_eightDigits first, digits, ofDigitChars_eightDigits]

/-- A folder cannot have an entry under each of more names than it has entries. -/
theorem exists_lookup_eq_none {names : Nat → String} (injective : Function.Injective names)
    (entries : List (String × Entry)) :
    ∃ number ∈ List.range (entries.length + 1), entries.lookup (names number) = none := by
  -- Else the list of these names, all different, would be among the names of the entries.
  by_contra taken
  push Not at taken
  have among : (List.range (entries.length + 1)).map names ⊆ entries.map Prod.fst := by
    intro name member
    obtain ⟨number, inRange, rfl⟩ := List.mem_map.mp member
    obtain ⟨entry, found⟩ := Option.ne_none_iff_exists'.mp (taken number inRange)
    obtain ⟨before, after, rfl, _⟩ := List.lookup_eq_some_iff.mp found
    simp
  have fewer := ((List.nodup_range.map injective).subperm among).length_le
  simp only [List.length_map, List.length_range] at fewer
  omega

theorem locate_parent {disk : Disk} {path : Path} {number : Nat} {location : List String}
    (located : disk.locate (temporaryPath path number) = .ok location) :
    ∃ folder, disk.locate path.parent = .ok folder ∧ disk.status? folder = some .folder ∧
      location = folder ++ [temporaryName path number] := by
  obtain ⟨folder, parent, last⟩ := exists_locate_of_concat located
  obtain ⟨isFolder, ⟨up, _⟩ | ⟨_, _, rest⟩⟩ := follow_cons_eq_ok.mp last
  · exact absurd up (temporaryName_ne_up path number)
  · exact ⟨folder, parent, isFolder, (Except.ok.inj rest).symm⟩

theorem hasEntry_temporaryPath {disk : Disk} {path : Path} {number : Nat} {folder : List String}
    {entries : List (String × Entry)} (located : disk.locate path.parent = .ok folder)
    (isFolder : disk.at? folder = some (.folder entries))
    (absent : entries.lookup (temporaryName path number) = none) :
    disk.hasEntry (temporaryPath path number) = false := by
  have nowhere : disk.at? (folder ++ [temporaryName path number]) = none := by
    rw [at?] at isFolder ⊢
    rw [Entry.get?_append, isFolder, Option.bind_some, Entry.get?, absent]
    rfl
  cases temporary : disk.locate (temporaryPath path number) with
  | ok location =>
    obtain ⟨other, sameParent, _, rfl⟩ := locate_parent temporary
    obtain rfl : folder = other := Except.ok.inj (located.symm.trans sameParent)
    rw [hasEntry, find_of_locate temporary, nowhere]
    rfl
  | error trouble =>
    rw [hasEntry, find, temporary]
    rfl

theorem hasEntry_freeTemporary {disk : Disk} {path : Path} {folder : List String}
    {entries : List (String × Entry)} (located : disk.locate path.parent = .ok folder)
    (isFolder : disk.at? folder = some (.folder entries)) :
    disk.hasEntry (disk.freeTemporary path) = false := by
  have found : disk.find path.parent = .ok (.folder entries) := by
    rw [find_of_locate located, isFolder]
    rfl
  obtain ⟨number, inRange, absent⟩ := exists_lookup_eq_none (temporaryName_injective path) entries
  have free := hasEntry_temporaryPath located isFolder absent
  rw [freeTemporary, found]
  cases first : (List.range (entries.length + 1)).find?
      fun number => !disk.hasEntry (temporaryPath path number) with
  | none =>
    have taken := List.find?_eq_none.mp first number inRange
    simp [free] at taken
  | some chosen =>
    have chosenFree := List.find?_some first
    simpa [first] using chosenFree

theorem freeTemporary_eq (disk : Disk) (path : Path) :
    ∃ number, disk.freeTemporary path = temporaryPath path number :=
  ⟨_, rfl⟩

theorem write_freeTemporary {disk written : Disk} {path : Path} {content : Bytes}
    (wrote : disk.write (disk.freeTemporary path) content = .ok written) :
    ∃ folder name, disk.locate (disk.freeTemporary path) = .ok (folder ++ [name]) ∧
      disk.Room folder name ∧ disk.at? (folder ++ [name]) = none ∧
      written = disk.put (folder ++ [name]) (.file content newMode) := by
  obtain ⟨number, chosen⟩ := disk.freeTemporary_eq path
  obtain ⟨location, located, written⟩ := write_eq_ok.mp wrote
  have temporary := located
  rw [chosen] at temporary
  obtain ⟨folder, parent, isFolder, rfl⟩ := locate_parent temporary
  obtain ⟨entries, found⟩ := status?_eq_folder_iff.mp isFolder
  have absent : disk.at? (folder ++ [temporaryName path number]) = none := by
    have free := hasEntry_freeTemporary parent found
    rw [hasEntry, find_of_locate located] at free
    cases here : disk.at? (folder ++ [temporaryName path number]) with
    | none => rfl
    | some entry =>
      rw [here] at free
      simp [Except.isOk, Except.toBool] at free
  refine ⟨folder, temporaryName path number, located, ⟨isFolder, by simp [status?, absent]⟩, absent, ?_⟩
  rcases written with ⟨_, new⟩ | ⟨old, mode, present, _, _⟩
  · exact new
  · rw [absent] at present
    exact absurd present (by simp)

theorem setMode_of_at? {disk : Disk} {path : Path} {location : List String} {content : Bytes}
    {mode : Nat} (located : disk.locate path = .ok location)
    (found : disk.at? location = some (.file content mode)) (new : Nat) :
    disk.setMode path new = disk.put location (.file content new) := by
  simp only [setMode, located, found]

theorem remove_of_at? {disk : Disk} {path : Path} {location : List String} {content : Bytes}
    {mode : Nat} (located : disk.locate path = .ok location)
    (found : disk.at? location = some (.file content mode)) :
    disk.remove path = .ok (disk.drop location) := by
  simp only [remove, located, found]

theorem replace_of_at? {disk : Disk} {source target : Path} {origin location : List String}
    {content : Bytes} {mode : Nat} (sourceLocated : disk.locate source = .ok origin)
    (targetLocated : disk.locate target = .ok location)
    (found : disk.at? origin = some (.file content mode))
    (noFolder : disk.status? location ≠ some .folder) :
    disk.replace source target = .ok ((disk.drop origin).put location (.file content mode)) := by
  have sourceFound : disk.find source = .ok (.file content mode) :=
    find_eq_file.mpr ⟨origin, sourceLocated, found⟩
  simp only [replace, sourceFound, sourceLocated, targetLocated]
  split
  next entries isFolder => exact absurd (status?_eq_folder_iff.mpr ⟨entries, isFolder⟩) noFolder
  next => rfl

theorem exists_folder_of_file {disk : Disk} {folder location : List String} {content : Bytes}
    {mode : Nat} (isFolder : disk.status? folder = some .folder)
    (found : disk.at? location = some (.file content mode)) :
    ∃ parent name, location = parent ++ [name] := by
  rcases List.eq_nil_or_concat location with rfl | ⟨parent, name, rfl⟩
  · -- A file in the place of the whole tree leaves no room for a folder.
    have root : disk.root = .file content mode := Option.some_inj.mp found
    obtain ⟨entries, reached⟩ := status?_eq_folder_iff.mp isFolder
    rw [at?, root] at reached
    cases folder <;> simp [Entry.get?] at reached
  · exact ⟨parent, name, List.concat_eq_append⟩

theorem exists_folder_of_locate {disk : Disk} {path : Path} {location : List String} {content : Bytes}
    {mode : Nat} (located : disk.locate path = .ok location)
    (found : disk.at? location = some (.file content mode)) (named : path.names ≠ []) :
    ∃ parent name, location = parent ++ [name] := by
  obtain ⟨_, _, followed⟩ := locate_eq_ok.mp located
  obtain ⟨name, names, split⟩ := List.exists_cons_of_ne_nil named
  rw [split] at followed
  exact exists_folder_of_file (follow_cons_eq_ok.mp followed).1 found

/-- How replacing a file ends: the temporary file cannot be made, the move fails and nothing is left
of it, or the file has the new content and the old permissions. -/
theorem replaceContent_cases {disk : Disk} {path : Path} {original : Bytes} {mode : Nat}
    (found : disk.find path = .ok (.file original mode)) (fails : Bool) (content : Bytes) :
    (∃ failure, disk.replaceContent fails path content = .error failure) ∨
    (fails = true ∧ disk.replaceContent fails path content = .ok (false, disk)) ∨
    (fails = false ∧ ∃ folder name, disk.locate path = .ok (folder ++ [name]) ∧
      disk.at? (folder ++ [name]) = some (.file original mode) ∧
      disk.replaceContent fails path content =
        .ok (true, disk.put (folder ++ [name]) (.file content (Entry.permissionsOf mode)))) := by
  cases wrote : disk.write (disk.freeTemporary path) content with
  | error trouble =>
    exact Or.inl ⟨(trouble, disk.freeTemporary path), by simp only [replaceContent, wrote]⟩
  | ok written =>
    right
    obtain ⟨folder, name, located, room, absent, rfl⟩ := write_freeTemporary wrote
    obtain ⟨location, targetLocated, here⟩ := find_eq_file.mp found
    have oldMode : disk.mode? path = some mode := mode?_eq_some.mpr ⟨original, found⟩
    have kept : ∀ mode other, disk.status? other = some .folder →
        (disk.put (folder ++ [name]) (.file content mode)).status? other = some .folder :=
      fun mode _ => room.status?_put_folder (Entry.hollow_file content mode)
    have readied : (disk.put (folder ++ [name]) (.file content newMode)).setMode
        (disk.freeTemporary path) (((disk.mode? path).getD newMode) % 0o10000) =
          disk.put (folder ++ [name]) (.file content (Entry.permissionsOf mode)) := by
      rw [setMode_of_at? (locate_mono (home_put ..) (kept _) located) (room.at?_put _), put_put, oldMode]
      rfl
    have readyLocated := locate_mono (home_put ..) (kept (Entry.permissionsOf mode)) located
    have readyFound := room.at?_put (.file content (Entry.permissionsOf mode))
    cases fails with
    | true =>
      refine Or.inl ⟨rfl, ?_⟩
      -- The temporary file was new, so without it the disk is what it was.
      simp only [replaceContent, wrote, readied, if_true, remove_of_at? readyLocated readyFound,
        drop_put _ absent]
    | false =>
      obtain ⟨parent, last, rfl⟩ := exists_folder_of_file room.inFolder here
      have noFolder : (disk.put (folder ++ [name])
          (.file content (Entry.permissionsOf mode))).status? (parent ++ [last]) ≠ some .folder := by
        rw [room.status?_put, status?_of_at? here]
        split <;> simp
      have replaced :=
        replace_of_at? readyLocated (locate_mono (home_put ..) (kept _) targetLocated) readyFound
          noFolder
      refine Or.inr ⟨rfl, parent, last, targetLocated, here, ?_⟩
      simp only [replaceContent, wrote, readied, Bool.false_eq_true, if_false, replaced,
        drop_put _ absent]

end Mutant.Disk
