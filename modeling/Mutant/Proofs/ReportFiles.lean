import Mutant.Proofs.Decoding
import Mutant.Proofs.JsonText
import Mutant.Proofs.Outlines
import Mutant.Report

/-!
Reports on disk. The file that a report is written to holds ASCII only, and whoever reads it as JSON
gets every field of the report back, those of the records inside it as well. So no two reports make
the same file.
-/

namespace Mutant

namespace Disk

variable {disk : Disk} {path : Path} {location : List String}

theorem status?_dropLast (isFolder : disk.status? location = some .folder) :
    disk.status? location.dropLast = some .folder := by
  rcases List.eq_nil_or_concat location with rfl | ⟨above, name, rfl⟩
  · exact isFolder
  · obtain ⟨entries, found⟩ := status?_eq_folder_iff.mp isFolder
    rw [List.concat_eq_append, at?, Entry.get?_append] at found
    obtain ⟨parent, reached, below⟩ := Option.bind_eq_some_iff.mp found
    rw [List.concat_eq_append, List.dropLast_concat]
    cases parent with
    | file content mode => exact absurd below (by simp [Entry.get?])
    | folder siblings => exact status?_eq_folder_iff.mpr ⟨siblings, reached⟩

theorem status?_root (isFolder : disk.status? location = some .folder) :
    disk.status? [] = some .folder := by
  obtain ⟨entries, found⟩ := status?_eq_folder_iff.mp isFolder
  refine status?_eq_folder_iff.mpr ?_
  rw [at?] at found ⊢
  generalize disk.root = root at found ⊢
  cases root with
  | file content mode => cases location <;> simp [Entry.get?] at found
  | folder outer => exact ⟨outer, rfl⟩

theorem status?_origin (housed : disk.status? disk.home = some .folder) (path : Path) :
    disk.status? (disk.origin path) = some .folder := by
  unfold origin
  split
  · exact status?_root housed
  · exact housed

/-- Where a path leads and no folder is, there is room for a file. -/
theorem exists_room (housed : disk.status? disk.home = some .folder)
    (located : disk.locate path = .ok location) (noFolder : disk.status? location ≠ some .folder) :
    ∃ folder name, location = folder ++ [name] ∧ disk.Room folder name := by
  obtain ⟨-, -, followed⟩ := locate_eq_ok.mp located
  -- Without names, or after a last `..`, one is at a folder.
  rcases List.eq_nil_or_concat path.names with none | ⟨above, name, shape⟩
  · rw [none, follow, Except.ok.injEq] at followed
    rw [← followed] at noFolder
    exact absurd (status?_origin housed path) noFolder
  · rw [shape, List.concat_eq_append] at followed
    obtain ⟨folder, -, last⟩ := exists_middle_of_follow followed
    obtain ⟨isFolder, ⟨-, rest⟩ | ⟨-, -, rest⟩⟩ := follow_cons_eq_ok.mp last
    · rw [← Except.ok.inj rest] at noFolder
      exact absurd (status?_dropLast isFolder) noFolder
    · obtain rfl := Except.ok.inj rest
      exact ⟨folder, name, rfl, isFolder, noFolder⟩

theorem holds_of_write {written : Disk} {content : Bytes}
    (housed : disk.status? disk.home = some .folder)
    (wrote : disk.write path content = .ok written) : written.Holds path content := by
  obtain ⟨location, located, placed⟩ := write_eq_ok.mp wrote
  have changed : ∃ mode, disk.status? location ≠ some .folder ∧
      written = disk.put location (.file content mode) := by
    rcases placed with ⟨absent, made⟩ | ⟨old, mode, present, -, made⟩
    · exact ⟨newMode, by simp [status?, absent], made⟩
    · exact ⟨mode, by simp [status?_of_at? present], made⟩
  obtain ⟨mode, noFolder, rfl⟩ := changed
  obtain ⟨folder, name, rfl, room⟩ := exists_room housed located noFolder
  have kept := locate_mono (home_put ..)
    (fun _ => room.status?_put_folder (Entry.hollow_file content mode)) located
  exact ⟨mode, find_eq_file.mpr ⟨_, kept, room.at?_put _⟩⟩

theorem refusal_write {written : Disk} {content : Bytes}
    (wrote : disk.write path content = .ok written) : written.refusal = disk.refusal := by
  obtain ⟨location, -, ⟨-, rfl⟩ | ⟨old, mode, -, -, rfl⟩⟩ := write_eq_ok.mp wrote <;> rfl

/-- A later state of a disk in which there may be more folders. -/
structure Extends (before after : Disk) : Prop where
  home : after.home = before.home
  refusal : after.refusal = before.refusal
  folders : ∀ location, before.status? location = some .folder →
    after.status? location = some .folder

namespace Extends

theorem refl (disk : Disk) : Extends disk disk :=
  ⟨rfl, rfl, fun _ isFolder => isFolder⟩

theorem trans {first second third : Disk} (one : Extends first second) (other : Extends second third) :
    Extends first third :=
  ⟨other.home.trans one.home, other.refusal.trans one.refusal, fun location isFolder =>
    other.folders location (one.folders location isFolder)⟩

theorem housed {after : Disk} (more : Extends disk after)
    (housed : disk.status? disk.home = some .folder) : after.status? after.home = some .folder := by
  rw [more.home]
  exact more.folders _ housed

end Extends

theorem extends_makeFolder {made : Disk} (housed : disk.status? disk.home = some .folder)
    (grew : disk.makeFolder path = .ok made) : Extends disk made := by
  unfold makeFolder at grew
  split at grew
  next => exact absurd grew (by simp)
  next location located =>
    split at grew
    next => exact absurd grew (by simp)
    next absent =>
      obtain ⟨folder, name, rfl, room⟩ := exists_room housed located (by simp [status?, absent])
      rw [← Except.ok.inj grew]
      exact ⟨rfl, rfl, fun _ => room.status?_put_folder Entry.hollow_folder⟩

theorem extends_makeFoldersFor {root : String} {names : List String} {made : Disk}
    (housed : disk.status? disk.home = some .folder)
    (grew : disk.makeFoldersFor root names = .ok made) : Extends disk made := by
  have settled : ∀ {disk made : Disk} {path : Path} {trouble : Trouble},
      (if disk.isFolder path then Except.ok disk else .error (trouble, path)) = .ok made →
        Extends disk made := by
    intro disk made path trouble settles
    split at settles
    · rw [← Except.ok.inj settles]
      exact .refl disk
    · exact absurd settles (by simp)
  induction names generalizing made with
  | nil =>
    rw [← Except.ok.inj grew]
    exact .refl disk
  | cons name above ih =>
    rw [makeFoldersFor] at grew
    split at grew
    next there =>
      rw [← Except.ok.inj grew]
      exact extends_makeFolder housed there
    next =>
      split at grew
      next => exact absurd grew (by simp)
      next grown below =>
        -- The folders above come first, and then the folder is tried once more.
        have lower := ih below
        split at grew
        next there =>
          rw [← Except.ok.inj grew]
          exact lower.trans (extends_makeFolder (lower.housed housed) there)
        next => exact absurd grew (by simp)
        next => exact lower.trans (settled grew)
    next => exact settled grew

end Disk

theorem Utf8.toText_ofString (text : String) : toText (ofString text) = text := by
  rw [toText, ofString, decodeLossy_encode, String.ofList_toList]

theorem Utf8.lt_of_mem_encode {characters : List Char} (ascii : Value.Ascii characters)
    {byte : UInt8} (member : byte ∈ encode characters) : byte.toNat < 0x80 := by
  obtain ⟨character, here, within⟩ := List.mem_flatMap.mp member
  have small := ascii character here
  rw [encodeChar, if_pos small, List.mem_singleton] at within
  rw [within, UInt8.toNat_ofNat']
  omega

namespace Value

def names : Value → List String
  | record members => members.map Prod.fst
  | _ => []

theorem plain_ofOption {α : Type} {encode : α → Value} {value : Option α}
    (plain : ∀ inner ∈ value, Plain (encode inner)) : Plain (ofOption encode value) := by
  cases value with
  | none => exact .null
  | some inner => exact plain inner rfl

theorem ofOption_injective {α : Type} {encode : α → Value} (injective : Function.Injective encode)
    (present : ∀ value, encode value ≠ null) : Function.Injective (ofOption encode) := by
  intro first second same
  cases first with
  | none =>
    cases second with
    | none => rfl
    | some value => exact absurd same.symm (present value)
  | some value =>
    cases second with
    | none => exact absurd same (present value)
    | some other => exact congrArg some (injective same)

theorem text_injective : Function.Injective text :=
  fun _ _ => text.inj

end Value

namespace Checked

variable {α β : Type}

@[simp] theorem map_fine (f : α → β) (value : α) : f <$> fine value = fine (f value) :=
  rfl

@[simp] theorem seq_fine (f : α → β) (value : α) : fine f <*> fine value = fine (f value) :=
  rfl

@[simp] theorem under_fine (name : String) (value : α) : (fine value).under name = fine value :=
  rfl

@[simp] theorem fine_andThen (value : α) (next : α → Checked β) :
    (fine value).andThen next = next value :=
  rfl

end Checked

namespace Reader

theorem optional_ofOption {α : Type} {reader : Reader α} {encode : α → Value} {value : Option α}
    (reads : ∀ inner ∈ value, reader (encode inner) = .fine inner)
    (present : ∀ inner, encode inner ≠ .null) :
    optional reader (Value.ofOption encode value) = .fine value := by
  cases value with
  | none => rfl
  | some inner =>
    have here : optional reader (encode inner) = (reader (encode inner)).map some := by
      unfold optional
      split
      next null => exact absurd null (present inner)
      next => rfl
    rw [Value.ofOption, here, reads inner rfl]
    rfl

@[simp] theorem optional_text (value : Option String) :
    optional text (Value.ofOption .text value) = .fine value :=
  optional_ofOption (fun _ _ => rfl) (fun _ => by simp)

@[simp] theorem list_text (values : List String) :
    list text (.list (values.map .text)) = .fine values := by
  have anywhere : ∀ position, itemsFrom text position (values.map .text) = .fine values := by
    induction values with
    | nil => exact fun _ => rfl
    | cons value rest ih =>
      intro position
      rw [List.map_cons, itemsFrom, ih]
      rfl
  exact anywhere 0

end Reader

namespace Mutation

theorem plain_toValue {mutation : Mutation} (short : Value.IsShort mutation.renamedUsages) :
    mutation.toValue.Plain := by
  have optional : ∀ value : Option String, (Value.ofOption .text value).Plain :=
    fun _ => Value.plain_ofOption fun inner _ => .text inner
  refine .record ?_
  simp only [List.forall_mem_cons]
  exact ⟨.text _, optional _, optional _, .bool _, optional _, optional _, .int short,
    List.forall_mem_nil _⟩

theorem toValue_injective : Function.Injective toValue := by
  have optional := Value.ofOption_injective Value.text_injective fun _ => by simp
  intro first second same
  simp only [toValue, Value.record.injEq, List.cons.injEq, Prod.mk.injEq, true_and, and_true,
    Value.text.injEq, Value.bool.injEq, Value.int.injEq, optional.eq_iff] at same
  cases first
  cases second
  simpa using same

theorem ofMembers_toValue (mutation : Mutation) :
    Reader.record ofMembers mutation.toValue = mutation.named := by
  simp [toValue, ofMembers, Reader.record, Reader.required, Reader.withDefault, List.lookup_cons,
    Reader.text, Reader.bool, Reader.int]

end Mutation

namespace BuildSummary

theorem plain_toValue {summary : BuildSummary} (short : Value.IsShort summary.exitCode) :
    summary.toValue.Plain := by
  have command : (Value.list (summary.command.map .text)).Plain := by
    refine .list fun item member => ?_
    obtain ⟨part, _, rfl⟩ := List.mem_map.mp member
    exact .text part
  refine .record ?_
  simp only [List.forall_mem_cons]
  exact ⟨.bool _, .int short, command, .text _, .text _, List.forall_mem_nil _⟩

theorem toValue_injective : Function.Injective toValue := by
  have command := List.map_injective_iff.mpr Value.text_injective
  intro first second same
  simp only [toValue, Value.record.injEq, List.cons.injEq, Prod.mk.injEq, true_and, and_true,
    Value.text.injEq, Value.bool.injEq, Value.int.injEq, Value.list.injEq, command.eq_iff] at same
  cases first
  cases second
  simpa using same

theorem ofMembers_toValue (summary : BuildSummary) :
    Reader.record ofMembers summary.toValue = .fine summary := by
  simp [toValue, ofMembers, Reader.record, Reader.required, Reader.withDefault, List.lookup_cons,
    Reader.text, Reader.bool, Reader.int]

end BuildSummary

theorem Verdict.ofName?_name (verdict : Verdict) : ofName? verdict.name = some verdict := by
  cases verdict <;> rfl

theorem Verdict.name_injective : Function.Injective name := by
  intro first second same
  rw [← Option.some_inj, ← ofName?_name, same, ofName?_name]

namespace Report

structure IsShort (report : Report) : Prop where
  mutation : ∀ mutation ∈ report.mutation, Value.IsShort mutation.renamedUsages
  baseline : ∀ summary ∈ report.baselineBuild, Value.IsShort summary.exitCode
  mutated : ∀ summary ∈ report.mutatedBuild, Value.IsShort summary.exitCode

def content (report : Report) : Bytes :=
  Utf8.ofString report.toValue.print

theorem IsShort.plain {report : Report} (short : report.IsShort) : report.toValue.Plain := by
  have mutation : (Value.ofOption Mutation.toValue report.mutation).Plain :=
    Value.plain_ofOption fun inner member => inner.plain_toValue (short.mutation inner member)
  have baseline : (Value.ofOption BuildSummary.toValue report.baselineBuild).Plain :=
    Value.plain_ofOption fun inner member => inner.plain_toValue (short.baseline inner member)
  have mutated : (Value.ofOption BuildSummary.toValue report.mutatedBuild).Plain :=
    Value.plain_ofOption fun inner member => inner.plain_toValue (short.mutated inner member)
  have diagnostics : (Value.ofOption .text report.diagnostics).Plain :=
    Value.plain_ofOption fun inner _ => .text inner
  refine .record ?_
  simp only [List.forall_mem_cons]
  exact ⟨.text _, .text _, .text _, .text _, mutation, baseline, mutated, diagnostics, .text _,
    .bool _, List.forall_mem_nil _⟩

theorem toValue_injective : Function.Injective toValue := by
  have text := Value.ofOption_injective Value.text_injective fun _ => by simp
  have mutation := Value.ofOption_injective Mutation.toValue_injective fun _ => by
    simp [Mutation.toValue]
  have summary := Value.ofOption_injective BuildSummary.toValue_injective fun _ => by
    simp [BuildSummary.toValue]
  intro first second same
  simp only [toValue, Value.record.injEq, List.cons.injEq, Prod.mk.injEq, true_and, and_true,
    Value.text.injEq, Value.bool.injEq, text.eq_iff, mutation.eq_iff, summary.eq_iff,
    Verdict.name_injective.eq_iff] at same
  cases first
  cases second
  simpa using same

theorem ofMembers_toValue {report : Report}
    (named : ∀ mutation ∈ report.mutation, mutation.named = .fine mutation) :
    Reader.record ofMembers report.toValue = .fine report := by
  have mutation : Reader.optional (Reader.record Mutation.ofMembers)
      (Value.ofOption Mutation.toValue report.mutation) = .fine report.mutation :=
    Reader.optional_ofOption
      (fun inner member => inner.ofMembers_toValue.trans (named inner member))
      fun _ => by simp [Mutation.toValue]
  have summary : ∀ value : Option BuildSummary,
      Reader.optional (Reader.record BuildSummary.ofMembers)
        (Value.ofOption BuildSummary.toValue value) = .fine value :=
    fun _ => Reader.optional_ofOption (fun inner _ => inner.ofMembers_toValue)
      fun _ => by simp [BuildSummary.toValue]
  simp [toValue, ofMembers, Reader.record, Reader.required, Reader.withDefault, List.lookup_cons,
    Reader.text, Reader.bool, verdictReader, Verdict.ofName?_name, mutation, summary]

theorem decode?_content {report : Report} (short : report.IsShort) :
    Value.decode? (Utf8.toText report.content) = some report.toValue := by
  rw [content, Utf8.toText_ofString, Value.decode?_print short.plain]

/-- A report that has been written is in its file, and it is read there by everyone who may. -/
theorem holds_of_write {report : Report} {disk after : Disk} {path : Path}
    (housed : disk.status? disk.home = some .folder) (written : report.write disk path = .ok after) :
    after.Holds path report.content ∧
      ((∀ location permissions, disk.refusal .read location permissions = none) →
        after.read path = .ok report.content) := by
  unfold write at written
  split at written
  next => exact absurd written (by simp)
  next grown grew =>
    split at written
    next => exact absurd written (by simp)
    next result wrote =>
      rw [← Except.ok.inj written]
      have more := Disk.extends_makeFoldersFor housed grew
      have holds := Disk.holds_of_write (more.housed housed) wrote
      refine ⟨holds, fun readable => ?_⟩
      obtain ⟨mode, found⟩ := holds
      obtain ⟨location, located, here⟩ := Disk.find_eq_file.mp found
      refine Disk.read_eq_ok.mpr ⟨location, mode, located, here, ?_⟩
      rw [Disk.refuses?, Disk.refusal_write wrote, more.refusal, readable]

/-- Where a report has been written, the file holds ASCII only, and read as JSON it gives the fields
of the report and of the records inside it, in the order of their declaration and with their values.
No other report makes the same file. -/
theorem content_reads_back {report : Report} (short : report.IsShort) :
    (∀ disk path after, disk.status? disk.home = some .folder →
      report.write disk path = .ok after → after.Holds path report.content ∧
        ((∀ location permissions, disk.refusal .read location permissions = none) →
          after.read path = .ok report.content)) ∧
    (∀ byte ∈ report.content, byte.toNat < 0x80) ∧
    Value.decode? (Utf8.toText report.content) = some report.toValue ∧
    report.toValue.names = ["repo", "language", "operation", "target_file", "mutation",
      "baseline_build", "mutated_build", "diagnostics", "verdict", "buildability_preserved"] ∧
    (∀ mutation : Mutation, mutation.toValue.names = ["file", "old_name", "new_name", "changed",
      "operation", "strategy", "renamed_usages"]) ∧
    (∀ summary : BuildSummary, summary.toValue.names =
      ["success", "exit_code", "command", "stdout_head", "stderr_head"]) ∧
    ((∀ mutation ∈ report.mutation, mutation.named = .fine mutation) →
      Reader.record ofMembers report.toValue = .fine report) ∧
    ∀ other : Report, other.IsShort → other.content = report.content → other = report := by
  refine ⟨fun _ _ _ => holds_of_write, ?_, decode?_content short, rfl, fun _ => rfl, fun _ => rfl,
    ofMembers_toValue, fun other otherShort same => ?_⟩
  · refine fun byte => Utf8.lt_of_mem_encode ?_
    rw [Value.print, String.toList_ofList]
    exact short.plain.ascii 0
  · refine toValue_injective (Option.some_inj.mp ?_)
    rw [← decode?_content otherShort, same, decode?_content short]

def failing : Report where
  repo := "/repo"
  operation := "flip-if"
  targetFile := "src/A.java"
  mutation := some
    { file := "A.java"
      oldName := some "if"
      newName := some "if_negated_swapped"
      changed := true }
  mutatedBuild := some
    { success := false
      exitCode := -9
      command := ["mvn", "-q"]
      stdoutHead := "\"C:\\\"\t\n\x7f\u2028" ++ String.singleton (Char.ofNat 0x1F600) }
  diagnostics := some ""
  verdict := .mutatedBuildFailed
  buildabilityPreserved := false

theorem failing_reads_back :
    ∃ after : Disk, failing.write {} ⟨"", ["out", "report.json"]⟩ = .ok after ∧
      after.read ⟨"", ["out", "report.json"]⟩ = .ok failing.content ∧
      Value.decode? (Utf8.toText failing.content) = some failing.toValue ∧
      Reader.record ofMembers failing.toValue = .fine failing := by
  have short : failing.IsShort := ⟨by decide, by decide, by decide⟩
  obtain ⟨reads, -, decoded, -, -, -, fields, -⟩ := content_reads_back short
  have named : ∀ mutation ∈ failing.mutation, mutation.named = .fine mutation := by
    rintro mutation ⟨⟩
    rfl
  have wrote : (failing.write {} ⟨"", ["out", "report.json"]⟩).isOk = true := by
    decide +kernel
  cases written : failing.write {} ⟨"", ["out", "report.json"]⟩ with
  | error failure => exact absurd wrote (by simp [written, Except.isOk, Except.toBool])
  | ok after => exact ⟨after, rfl, (reads _ _ after rfl written).2 fun _ _ => rfl, decoded, fields named⟩

end Report

end Mutant
