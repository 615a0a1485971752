import Mutant.Proofs.Backups
import Mutant.Proofs.GitCalls

/-!
Backups over any history of a repository without git. Others may change the disk at any time, files are
tracked, and work is taken up again now and then. What is kept is a matter of the history alone: what
each file held when it was first tracked as a file since work was taken up last. Taking work up again
gives each of these files that content back, as far as it is still there, and changes nothing else.
-/

namespace Mutant.Repository

/-- What can happen: work is set aside or taken up again, a file is tracked, or others change the
disk. -/
inductive Action where
  | ask (request : Request)
  | track (file : Path)
  | change (edit : Disk → Disk)

namespace Action

def write (file : Path) (content : Bytes) : Action :=
  .change fun disk => (disk.write file content).toOption.getD disk

def delete (file : Path) : Action :=
  .change fun disk => (disk.remove file).toOption.getD disk

end Action

def act (state : Repository × World) : Action → Repository × World
  | .ask request => answer state request
  | .track file => ((state.1.track state.2.disk file).toOption.getD state.1, state.2)
  | .change edit => (state.1, { state.2 with disk := edit state.2.disk })

def actAll (state : Repository × World) (actions : List Action) : Repository × World :=
  actions.foldl act state

theorem actAll_concat (state : Repository × World) (actions : List Action) (action : Action) :
    actAll state (actions ++ [action]) = act (actAll state actions) action :=
  List.foldl_append

/-- Since work was taken up last, the file was tracked after a history of which something holds. -/
def TrackedAfter (holds : List Action → Prop) (actions : List Action) (file : Path) : Prop :=
  ∃ earlier later, actions = earlier ++ .track file :: later ∧ .ask .restore ∉ later ∧ holds earlier

theorem not_trackedAfter_nil {holds : List Action → Prop} {file : Path} :
    ¬TrackedAfter holds [] file := by
  rintro ⟨earlier, later, split, -⟩
  exact absurd split (by simp)

theorem trackedAfter_concat_iff {holds : List Action → Prop} {actions : List Action}
    {action : Action} {file : Path} :
    TrackedAfter holds (actions ++ [action]) file ↔
      action ≠ .ask .restore ∧
        (TrackedAfter holds actions file ∨ action = .track file ∧ holds actions) := by
  constructor
  · rintro ⟨earlier, later, split, kept, held⟩
    rcases List.eq_nil_or_concat later with rfl | ⟨others, last, rfl⟩
    · obtain ⟨rfl, same⟩ := List.append_inj' split rfl
      obtain rfl := (List.cons.inj same).1
      exact ⟨by simp, Or.inr ⟨rfl, held⟩⟩
    · rw [List.concat_eq_append, ← List.cons_append, ← List.append_assoc] at split
      obtain ⟨rfl, same⟩ := List.append_inj' split rfl
      obtain rfl := (List.cons.inj same).1
      rw [List.concat_eq_append, List.mem_append, not_or, List.mem_singleton] at kept
      exact ⟨Ne.symm kept.2, Or.inl ⟨earlier, others, rfl, kept.1, held⟩⟩
  · rintro ⟨other, ⟨earlier, later, rfl, kept, held⟩ | ⟨rfl, held⟩⟩
    · refine ⟨earlier, later ++ [action], by simp, ?_, held⟩
      rw [List.mem_append, not_or, List.mem_singleton]
      exact ⟨kept, Ne.symm other⟩
    · exact ⟨actions, [], rfl, List.not_mem_nil, held⟩

section History

variable (start : Repository × World)

def Tracked (actions : List Action) (file : Path) (content : Bytes) : Prop :=
  TrackedAfter (fun earlier => (actAll start earlier).2.disk.read file = .ok content) actions file

/-- When the file was first tracked as a file since work was taken up last, it held this content. -/
def FirstTracked (actions : List Action) (file : Path) (content : Bytes) : Prop :=
  TrackedAfter (fun earlier => (actAll start earlier).2.disk.read file = .ok content ∧
    ∀ other, ¬Tracked start earlier file other) actions file

/-- Nothing is in the way when work is to be taken up: there is a tree of files, none that was tracked
has become a folder or may not be overwritten, and no two of them are the same file. -/
structure Clear (actions : List Action) : Prop where
  rooted : (actAll start actions).2.disk.status? [] = some .folder
  noFolder : ∀ file content, FirstTracked start actions file content →
    (actAll start actions).2.disk.isFolder file = false
  permitted : ∀ file content, FirstTracked start actions file content →
    ∀ trouble, ¬(actAll start actions).2.disk.Protects file trouble
  apart : ∀ first second content other location, FirstTracked start actions first content →
    FirstTracked start actions second other →
    (actAll start actions).2.disk.locate first = .ok location →
    (actAll start actions).2.disk.locate second = .ok location → first = second

variable {start} {actions : List Action} {file : Path} {content : Bytes}

theorem tracked_concat_iff {action : Action} :
    Tracked start (actions ++ [action]) file content ↔ action ≠ .ask .restore ∧
      (Tracked start actions file content ∨
        action = .track file ∧ (actAll start actions).2.disk.read file = .ok content) :=
  trackedAfter_concat_iff

theorem firstTracked_concat_iff {action : Action} :
    FirstTracked start (actions ++ [action]) file content ↔ action ≠ .ask .restore ∧
      (FirstTracked start actions file content ∨
        action = .track file ∧ (actAll start actions).2.disk.read file = .ok content ∧
          ∀ other, ¬Tracked start actions file other) :=
  trackedAfter_concat_iff

theorem FirstTracked.tracked (first : FirstTracked start actions file content) :
    Tracked start actions file content := by
  obtain ⟨earlier, later, split, kept, read, -⟩ := first
  exact ⟨earlier, later, split, kept, read⟩

theorem exists_firstTracked (tracked : Tracked start actions file content) :
    ∃ first, FirstTracked start actions file first := by
  induction actions using List.reverseRecOn generalizing content with
  | nil => exact absurd tracked not_trackedAfter_nil
  | append_singleton actions action ih =>
    obtain ⟨other, before | ⟨here, read⟩⟩ := tracked_concat_iff.mp tracked
    · obtain ⟨first, earlier⟩ := ih before
      exact ⟨first, firstTracked_concat_iff.mpr ⟨other, Or.inl earlier⟩⟩
    · by_cases before : ∃ old, Tracked start actions file old
      · obtain ⟨old, earlier⟩ := before
        obtain ⟨first, firstly⟩ := ih earlier
        exact ⟨first, firstTracked_concat_iff.mpr ⟨other, Or.inl firstly⟩⟩
      · exact ⟨content, firstTracked_concat_iff.mpr
          ⟨other, Or.inr ⟨here, read, not_exists.mp before⟩⟩⟩

theorem FirstTracked.unique {other : Bytes} (first : FirstTracked start actions file content)
    (second : FirstTracked start actions file other) : content = other := by
  induction actions using List.reverseRecOn with
  | nil => exact absurd first not_trackedAfter_nil
  | append_singleton actions action ih =>
    obtain ⟨-, before | ⟨-, read, fresh⟩⟩ := firstTracked_concat_iff.mp first
    · obtain ⟨-, beforeToo | ⟨-, -, freshToo⟩⟩ := firstTracked_concat_iff.mp second
      · exact ih before beforeToo
      · exact absurd before.tracked (freshToo content)
    · obtain ⟨-, beforeToo | ⟨-, readToo, -⟩⟩ := firstTracked_concat_iff.mp second
      · exact absurd beforeToo.tracked (fresh other)
      · exact Except.ok.inj (read.symm.trans readToo)

end History

theorem lookup_isSome_iff {backups : List (Path × Bytes)} {file : Path} :
    (backups.lookup file).isSome = true ↔ ∃ kept, (file, kept) ∈ backups := by
  rw [← Bool.not_eq_false, Option.isSome_eq_false_iff, Option.isNone_iff_eq_none,
    List.lookup_eq_none_iff]
  constructor
  · intro found
    by_contra absent
    refine found fun backup member => bne_iff_ne.mpr ?_
    rintro rfl
    exact absent ⟨backup.2, member⟩
  · rintro ⟨kept, member⟩ absent
    exact absurd rfl (bne_iff_ne.mp (absent _ member))

theorem mem_backups_track_iff {repository : Repository} (plain : repository.isGit = false)
    {disk : Disk} {file : Path} {backup : Path × Bytes} :
    backup ∈ ((repository.track disk file).toOption.getD repository).backups ↔
      backup ∈ repository.backups ∨ backup.1 = file ∧ disk.read file = .ok backup.2 ∧
        ∀ other, (file, other) ∉ repository.backups := by
  obtain ⟨path, content⟩ := backup
  rw [track, if_neg (by simp [plain])]
  split
  next failure probed =>
    refine (or_iff_left ?_).symm
    rintro ⟨-, reads, -⟩
    obtain ⟨mode, found⟩ := Disk.probe_of_read reads
    exact absurd (probed.symm.trans found) (by simp)
  next old mode probed =>
    split
    next kept =>
      obtain ⟨already, member⟩ := lookup_isSome_iff.mp kept
      refine (or_iff_left ?_).symm
      rintro ⟨-, -, fresh⟩
      exact fresh already member
    next new =>
      have fresh : ∀ other, (file, other) ∉ repository.backups :=
        not_exists.mp (mt lookup_isSome_iff.mpr new)
      rw [and_iff_left fresh]
      cases reads : disk.read file with
      | error trouble => simp [Except.toOption]
      | ok found => simp [Except.toOption, eq_comm]
  next entry noFile probed =>
    refine (or_iff_left ?_).symm
    rintro ⟨-, reads, -⟩
    obtain ⟨mode, found⟩ := Disk.probe_of_read reads
    exact noFile content mode (Except.ok.inj (probed.symm.trans found))

theorem isGit_act (state : Repository × World) (action : Action) :
    (act state action).1.isGit = state.1.isGit := by
  cases action with
  | ask request => exact isGit_answer state request
  | track file =>
    rw [act]
    rcases done : state.1.track state.2.disk file with failure | tracked
    · rfl
    · exact isGit_of_track done
  | change edit => rfl

theorem isGit_actAll (state : Repository × World) (actions : List Action) :
    (actAll state actions).1.isGit = state.1.isGit := by
  induction actions generalizing state with
  | nil => rfl
  | cons action rest ih => exact (ih _).trans (isGit_act state action)

theorem restore_of_writable {repository : Repository} (plain : repository.isGit = false)
    {world : World} (writable : Writable repository.backups world.disk) :
    ∃ disk, repository.restore world = ({ repository with backups := [] }, { world with disk }, none) ∧
      WrittenBack repository.backups world.disk disk := by
  obtain ⟨disk, wrote, back⟩ := exists_writtenBack writable
  refine ⟨disk, ?_, back⟩
  rw [restore, if_neg (by simp [plain]), wrote]

section Runs

variable {start : Repository × World} {actions : List Action}

theorem Clear.writable (clear : Clear start actions)
    (kept : ∀ backup, backup ∈ (actAll start actions).1.backups ↔
      FirstTracked start actions backup.1 backup.2) :
    Writable (actAll start actions).1.backups (actAll start actions).2.disk where
  rooted := clear.rooted
  noFolder backup member := clear.noFolder backup.1 backup.2 ((kept backup).mp member)
  permitted backup member := clear.permitted backup.1 backup.2 ((kept backup).mp member)
  agree first one second other location leads leadsToo := by
    have firstly := (kept first).mp one
    have secondly := (kept second).mp other
    rw [clear.apart _ _ _ _ location firstly secondly leads leadsToo] at firstly
    exact firstly.unique secondly

/-- What is kept is what the files held when they were first tracked. -/
theorem mem_backups_actAll_iff (plain : start.1.isGit = false) (fresh : start.1.backups = [])
    (clear : ∀ before after, actions = before ++ .ask .restore :: after → Clear start before)
    (backup : Path × Bytes) :
    backup ∈ (actAll start actions).1.backups ↔ FirstTracked start actions backup.1 backup.2 := by
  -- From the end, since the last action can add a backup or throw all of them away.
  induction actions using List.reverseRecOn generalizing backup with
  | nil =>
    rw [show actAll start [] = start from rfl, fresh]
    exact iff_of_false List.not_mem_nil not_trackedAfter_nil
  | append_singleton actions action ih =>
    have kept := ih fun before after split => clear before (after ++ [action]) (by simp [split])
    have stillPlain := (isGit_actAll start actions).trans plain
    rw [actAll_concat, firstTracked_concat_iff]
    cases action with
    | change edit => simpa [act] using kept backup
    | track file =>
      have never : (∀ other, ¬Tracked start actions file other) ↔
          ∀ other, (file, other) ∉ (actAll start actions).1.backups := by
        simp only [kept]
        constructor
        · exact fun none other first => none other first.tracked
        · intro none other tracked
          obtain ⟨first, firstly⟩ := exists_firstTracked tracked
          exact none first firstly
      have other : Action.track file ≠ .ask .restore := by simp
      rw [act, mem_backups_track_iff stillPlain, kept, ← never, and_iff_right other,
        Action.track.injEq]
      refine or_congr_right ?_
      constructor <;> rintro ⟨rfl, first⟩ <;> exact ⟨rfl, first⟩
    | ask request =>
      cases request with
      | snapshot =>
        have same : (act (actAll start actions) (.ask .snapshot)).1.backups =
            (actAll start actions).1.backups :=
          (snapshot_frame _ _).1
        rw [same, kept]
        simp
      | restore =>
        have writable := (clear actions [] rfl).writable kept
        obtain ⟨disk, restored, -⟩ := restore_of_writable stillPlain writable
        simp [act, answer, restored]

/-- What taking work up again does. Each file that was tracked and is still there holds again what it
held when it was first tracked as a file since work was taken up last. No file appears or vanishes, all
other places show what they did, and nothing is kept: to take work up once more changes nothing. -/
theorem restore_first_contents (plain : start.1.isGit = false) (fresh : start.1.backups = [])
    (clear : ∀ before after, actions ++ [.ask .restore] = before ++ .ask .restore :: after →
      Clear start before) :
    let found := actAll start actions
    let left := actAll start (actions ++ [.ask .restore])
    (found.1.restore found.2).2.2 = none ∧
      (∀ file content old, FirstTracked start actions file content →
        found.2.disk.Holds file old → left.2.disk.Holds file content) ∧
      (∀ file, left.2.disk.hasEntry file = found.2.disk.hasEntry file) ∧
      (∀ location, (∀ file content, FirstTracked start actions file content →
          found.2.disk.locate file ≠ .ok location) →
        left.2.disk.status? location = found.2.disk.status? location) ∧
      left.1.backups = [] ∧ actAll start (actions ++ [.ask .restore, .ask .restore]) = left := by
  intro found left
  have kept : ∀ backup, backup ∈ found.1.backups ↔ FirstTracked start actions backup.1 backup.2 :=
    mem_backups_actAll_iff plain fresh fun before after split =>
      clear before (after ++ [.ask .restore]) (by simp [split])
  have stillPlain : found.1.isGit = false := (isGit_actAll start actions).trans plain
  obtain ⟨disk, restored, back⟩ :=
    restore_of_writable stillPlain ((clear actions [] rfl).writable kept)
  have left_eq : left = ({ found.1 with backups := [] }, { found.2 with disk }) := by
    rw [show left = act found (.ask .restore) from actAll_concat start actions _, act, answer]
    rw [restored]
  -- To write contents moves no path.
  have shape := back.same.sameShape
  rw [restored, List.append_cons, actAll_concat, show actAll start _ = left from rfl, left_eq]
  refine ⟨rfl, fun file content old first holds => ?_, fun file => Disk.hasEntry_congr shape file,
    fun location elsewhere => back.others location fun backup member => ?_, rfl, ?_⟩
  · obtain ⟨location, located, bytes⟩ := Disk.holds_iff_bytes?.mp holds
    refine Disk.holds_iff_bytes?.mpr ⟨location, by rwa [Disk.locate_congr shape], ?_⟩
    exact back.kept (file, content) ((kept _).mpr first) location located
      (Disk.shape_eq_some_false.mpr ⟨old, bytes⟩)
  · exact elsewhere backup.1 backup.2 ((kept backup).mp member)
  · simp [act, answer, restore, stillPlain, writeBack]

end Runs

def pairFolder (mode : Nat) : Entry :=
  .folder [("A.java", .file [1] mode), ("B.java", .file [2] mode)]

def pair : Repository × World :=
  ({ path := {}, isGit := false }, { replying .absent with
    disk := { root := .folder [("work", pairFolder Disk.newMode)], home := ["work"] } })

def firstFile : Path := ⟨"", ["A.java"]⟩

def secondFile : Path := ⟨"", ["B.java"]⟩

def secondRound : List Action :=
  [.track firstFile, .ask .restore, .write firstFile [3], .track firstFile, .track secondFile,
    .write firstFile [4], .delete secondFile]

theorem firstTracked_firstRound_iff {file : Path} {content : Bytes} :
    FirstTracked pair [.track firstFile] file content ↔ file = firstFile ∧ content = [1] := by
  have backups : (actAll pair [.track firstFile]).1.backups = [(firstFile, [1])] := rfl
  rw [← mem_backups_actAll_iff rfl rfl (fun _ _ split => ?_) (file, content), backups]
  · simp
  · exact absurd split (by simp [List.cons_eq_append_iff])

theorem not_protects_pair (actions : List Action)
    (refusal : (actAll pair actions).2.disk.refusal = fun _ _ _ => none) {file : Path}
    (trouble : Trouble) : ¬(actAll pair actions).2.disk.Protects file trouble := by
  rintro ⟨location, -, refused⟩
  rw [Disk.refusalAt, refusal] at refused
  exact absurd refused (by simp)

theorem clear_firstRound : Clear pair [.track firstFile] where
  rooted := rfl
  noFolder file content first := by
    obtain ⟨rfl, -⟩ := firstTracked_firstRound_iff.mp first
    rfl
  permitted _ _ _ := not_protects_pair [.track firstFile] rfl
  apart one other content content' location first second located locatedToo := by
    obtain ⟨rfl, -⟩ := firstTracked_firstRound_iff.mp first
    exact (firstTracked_firstRound_iff.mp second).1.symm

theorem clear_before_secondRound {before after : List Action}
    (split : secondRound = before ++ .ask .restore :: after) : Clear pair before := by
  have first : before = [.track firstFile] ∧ after = secondRound.drop 2 := by
    simpa [secondRound, List.cons_eq_append_iff, Action.write, Action.delete] using split
  exact first.1 ▸ clear_firstRound

theorem firstTracked_secondRound_iff {file : Path} {content : Bytes} :
    FirstTracked pair secondRound file content ↔
      file = firstFile ∧ content = [3] ∨ file = secondFile ∧ content = [2] := by
  have backups : (actAll pair secondRound).1.backups = [(firstFile, [3]), (secondFile, [2])] := rfl
  rw [← mem_backups_actAll_iff rfl rfl (fun _ _ => clear_before_secondRound) (file, content), backups]
  simp

theorem clear_secondRound : Clear pair secondRound where
  rooted := rfl
  noFolder file content first := by
    obtain ⟨rfl, -⟩ | ⟨rfl, -⟩ := firstTracked_secondRound_iff.mp first <;> rfl
  permitted _ _ _ := not_protects_pair secondRound rfl
  apart one other content content' location first second located locatedToo := by
    have firstPlace : (actAll pair secondRound).2.disk.locate firstFile = .ok ["work", "A.java"] := rfl
    have secondPlace : (actAll pair secondRound).2.disk.locate secondFile = .ok ["work", "B.java"] := rfl
    obtain ⟨rfl, -⟩ | ⟨rfl, -⟩ := firstTracked_secondRound_iff.mp first <;>
      obtain ⟨rfl, -⟩ | ⟨rfl, -⟩ := firstTracked_secondRound_iff.mp second <;>
        simp_all

theorem secondRound_first_contents :
    let left := actAll pair (secondRound ++ [.ask .restore])
    left.2.disk.Holds firstFile [3] ∧ left.2.disk.hasEntry secondFile = false ∧
      left.1.backups = [] ∧ actAll pair (secondRound ++ [.ask .restore, .ask .restore]) = left := by
  have clear : ∀ before action after, secondRound ++ [.ask .restore] = before ++ action :: after →
      action = .ask .restore → Clear pair before := by
    refine forall_split_concat.mpr ⟨?_, fun _ => clear_secondRound⟩
    rintro before action after split rfl
    exact clear_before_secondRound split
  obtain ⟨-, contents, entries, -, emptied, again⟩ :=
    restore_first_contents rfl rfl fun before after split => clear before _ after split rfl
  have first := firstTracked_secondRound_iff.mpr (Or.inl ⟨rfl, rfl⟩)
  have restored := contents firstFile [3] [4] first ⟨Disk.newMode, rfl⟩
  exact ⟨restored, (entries secondFile).trans rfl, emptied, again⟩

def readOnlyPair : Repository × World :=
  ({ path := {}, isGit := false }, { replying .absent with
    disk :=
      { root := .folder [("work", pairFolder 0o444)]
        home := ["work"]
        refusal := Disk.ownerRefusal } })

def aliased : List Action :=
  [.track firstFile, .write firstFile [3], .track ⟨"/", ["work", "A.java"]⟩]

def replaced : List Action :=
  [.track firstFile, .change fun disk => disk.put ["work", "A.java"] (.file [3] 0o444)]

/-- A file with two backups is given the content of the later one. A file that may not be overwritten is
not given its content back, and its backup is kept. -/
theorem aliased_and_readOnly_not_restored :
    (FirstTracked pair aliased firstFile [1] ∧
      (actAll pair (aliased ++ [.ask .restore])).2.disk.read firstFile = .ok [3]) ∧
    (FirstTracked readOnlyPair replaced firstFile [1] ∧
      (actAll readOnlyPair (replaced ++ [.ask .restore])).2.disk.read firstFile = .ok [3] ∧
      (actAll readOnlyPair (replaced ++ [.ask .restore])).1.backups = [(firstFile, [1])]) := by
  have first : (firstFile, [1]) ∈ (actAll pair aliased).1.backups := List.mem_cons_self
  have second : (firstFile, [1]) ∈ (actAll readOnlyPair replaced).1.backups := List.mem_cons_self
  have noRestore : ∀ {start actions}, .ask .restore ∉ actions → ∀ before after,
      actions = before ++ .ask .restore :: after → Clear start before :=
    fun never _ _ split => absurd (by simp [split]) never
  refine ⟨⟨(mem_backups_actAll_iff rfl rfl (noRestore ?_) _).mp first, rfl⟩,
    (mem_backups_actAll_iff rfl rfl (noRestore ?_) _).mp second, rfl, rfl⟩
  · simp [aliased, Action.write]
  · simp [replaced]

end Mutant.Repository
