import Mutant.Proofs.Restoration

/-!
Writing backups back. If no backup leads to a folder, those of the same file agree about it and each
file may be overwritten, all are written. Then each file that is still there holds what its backup says,
and everything else shows what it did.
-/

namespace Mutant.Repository

/-- Backups that can all be written back: none leads to a folder or to a file that may not be
overwritten, and those that lead to the same file agree about it. -/
structure Writable (backups : List (Path × Bytes)) (disk : Disk) : Prop where
  rooted : disk.status? [] = some .folder
  noFolder : ∀ backup ∈ backups, disk.isFolder backup.1 = false
  permitted : ∀ backup ∈ backups, ∀ trouble, ¬disk.Protects backup.1 trouble
  agree : ∀ first ∈ backups, ∀ second ∈ backups, ∀ location,
    disk.locate first.1 = .ok location → disk.locate second.1 = .ok location → first.2 = second.2

/-- What it means that backups have been written back. -/
structure WrittenBack (backups : List (Path × Bytes)) (disk restored : Disk) : Prop where
  same : restored.SameOutline disk
  kept : ∀ backup ∈ backups, ∀ location, disk.locate backup.1 = .ok location →
    disk.shape location = some false → restored.bytes? location = some backup.2
  others : ∀ location, (∀ backup ∈ backups, disk.locate backup.1 ≠ .ok location) →
    restored.status? location = disk.status? location

theorem Writable.of_sameOutline {head : Path × Bytes} {rest : List (Path × Bytes)} {disk written : Disk}
    (writable : Writable (head :: rest) disk) (same : written.SameOutline disk)
    (rooted : written.status? [] = some .folder) : Writable rest written where
  rooted := rooted
  noFolder backup member := by
    rw [Disk.isFolder_congr same.sameShape]
    exact writable.noFolder backup (List.mem_cons_of_mem _ member)
  permitted backup member trouble := by
    rintro ⟨location, located, refused⟩
    rw [Disk.locate_congr same.sameShape] at located
    rw [same.refusalAt] at refused
    exact writable.permitted backup (List.mem_cons_of_mem _ member) trouble ⟨location, located, refused⟩
  agree first one second other location := by
    rw [Disk.locate_congr same.sameShape, Disk.locate_congr same.sameShape]
    exact writable.agree first (List.mem_cons_of_mem _ one) second (List.mem_cons_of_mem _ other)
      location

theorem WrittenBack.skip {head : Path × Bytes} {rest : List (Path × Bytes)} {disk restored : Disk}
    (absent : disk.hasEntry head.1 = false) (back : WrittenBack rest disk restored) :
    WrittenBack (head :: rest) disk restored where
  same := back.same
  kept := by
    refine List.forall_mem_cons.mpr ⟨fun location located isFile => ?_, back.kept⟩
    obtain ⟨content, bytes⟩ := Disk.shape_eq_some_false.mp isFile
    obtain ⟨mode, here⟩ := Disk.bytes?_eq_some.mp bytes
    rw [Disk.hasEntry, Disk.find_of_locate located, here] at absent
    exact absurd absent (by simp [Except.isOk, Except.toBool])
  others location elsewhere :=
    back.others location fun backup member => elsewhere backup (List.mem_cons_of_mem _ member)

theorem WrittenBack.cons {file : Path} {content : Bytes} {rest : List (Path × Bytes)}
    {disk written restored : Disk} {location : List String} {permissions : Nat}
    (writable : Writable ((file, content) :: rest) disk) (located : disk.locate file = .ok location)
    (same : written.SameOutline disk)
    (shows : ∀ other, written.status? other =
      if other = location then some (.file content permissions) else disk.status? other)
    (back : WrittenBack rest written restored) :
    WrittenBack ((file, content) :: rest) disk restored := by
  have shape := same.sameShape
  have others : ∀ other, (∀ backup ∈ rest, disk.locate backup.1 ≠ .ok other) →
      restored.status? other = written.status? other := fun other elsewhere =>
    back.others other fun backup member => by
      rw [Disk.locate_congr shape]
      exact elsewhere backup member
  have kept : ∀ backup ∈ rest, ∀ other, disk.locate backup.1 = .ok other →
      disk.shape other = some false → restored.bytes? other = some backup.2 := by
    intro backup member other
    rw [← Disk.locate_congr shape, ← shape.shape]
    exact back.kept backup member other
  refine ⟨back.same.trans same, List.forall_mem_cons.mpr ⟨?_, kept⟩, fun other elsewhere => ?_⟩
  · intro other leads isFile
    obtain rfl := Except.ok.inj (located.symm.trans leads)
    by_cases again : ∃ backup ∈ rest, disk.locate backup.1 = .ok location
    · -- A later backup of the same file says the same.
      obtain ⟨backup, member, leadsToo⟩ := again
      rw [kept backup member location leadsToo isFile]
      exact congrArg some (writable.agree _ (List.mem_cons_of_mem _ member) _ List.mem_cons_self
        location leadsToo located)
    · simp only [not_exists, not_and] at again
      rw [Disk.bytes?, others location again, shows, if_pos rfl]
      rfl
  · obtain ⟨notHere, notLater⟩ := List.forall_mem_cons.mp elsewhere
    rw [others other notLater, shows, if_neg]
    rintro rfl
    exact notHere located

theorem Writable.write {file : Path} {content : Bytes} {rest : List (Path × Bytes)} {disk : Disk}
    (writable : Writable ((file, content) :: rest) disk) (present : disk.hasEntry file = true) :
    ∃ location permissions written, disk.locate file = .ok location ∧
      disk.write file content = .ok written ∧ written.SameOutline disk ∧
      written.status? [] = some .folder ∧
      ∀ other, written.status? other =
        if other = location then some (.file content permissions) else disk.status? other := by
  have noFolder : disk.isFolder file = false := writable.noFolder _ List.mem_cons_self
  rw [Disk.hasEntry] at present
  rw [Disk.isFolder] at noFolder
  rcases found : disk.find file with trouble | ⟨old, mode⟩ | entries
  · exact absurd present (by simp [found, Except.isOk, Except.toBool])
  · obtain ⟨location, located, here⟩ := Disk.find_eq_file.mp found
    have below : location ≠ [] := by
      rintro rfl
      exact absurd (writable.rooted.symm.trans (Disk.status?_of_at? here)) (by simp)
    obtain ⟨folder, name, rfl⟩ := (List.eq_nil_or_concat location).resolve_left below
    rw [List.concat_eq_append] at located here
    have room := Disk.room_of_at? here
    have permitted : disk.refuses? .write (folder ++ [name]) mode = none := by
      rw [← Disk.refusalAt_of_at? .write here, Option.eq_none_iff_forall_ne_some]
      exact fun trouble refused =>
        writable.permitted _ List.mem_cons_self trouble ⟨_, located, refused⟩
    exact ⟨_, _, _, located,
      Disk.write_eq_ok.mpr ⟨_, located, Or.inr ⟨old, mode, here, permitted, rfl⟩⟩,
      Disk.sameOutline_put here content rfl,
      room.status?_put_folder (Entry.hollow_file content mode) writable.rooted,
      room.status?_put content mode⟩
  · exact absurd noFolder (by simp [found, Entry.isFolder])

theorem exists_writtenBack {backups : List (Path × Bytes)} {disk : Disk}
    (writable : Writable backups disk) :
    ∃ restored, writeBack disk backups = (restored, none) ∧ WrittenBack backups disk restored := by
  induction backups generalizing disk with
  | nil =>
    exact ⟨disk, rfl, .refl disk, fun _ member => absurd member List.not_mem_nil, fun _ _ => rfl⟩
  | cons head rest ih =>
    obtain ⟨file, content⟩ := head
    rw [writeBack]
    split
    next present =>
      obtain ⟨location, permissions, written, located, wrote, same, rooted, shows⟩ :=
        writable.write present
      obtain ⟨restored, wroteBack, back⟩ := ih (writable.of_sameOutline same rooted)
      rw [wrote]
      exact ⟨restored, wroteBack, .cons writable located same shows back⟩
    next absent =>
      obtain ⟨restored, wroteBack, back⟩ := ih (writable.of_sameOutline (.refl disk) writable.rooted)
      exact ⟨restored, wroteBack, back.skip (by simpa using absent)⟩

end Mutant.Repository
