import Mutant.Proofs.HeaderLines

/-!
Reports in compiler output. The lines of a text divide into reports, each of which is a header on its
own or a header with the two lines after it, and lines that belong to none; the reader takes the
reports one after the other. As long as carets mark columns and nothing else, a header is passed over
only where it stands as the source line of another report.
-/

namespace Mutant

namespace Disk

/-- A path on the way of which a name is too long, or that is too long as a whole. -/
def rejects (disk : Disk) (path : Path) : Bool :=
  match disk.find path with
  | .error .nameTooLong => true
  | _ => false

theorem probe_cases (disk : Disk) (path : Path) :
    (disk.rejects path = true ∧ disk.probe path = .error (.nameTooLong, path)) ∨
    (disk.rejects path = false ∧ ∃ entry, disk.probe path = .ok entry ∧
      entry.isSome = disk.hasEntry path) := by
  unfold rejects probe hasEntry
  cases disk.find path with
  | ok entry => exact Or.inr ⟨rfl, some entry, rfl, rfl⟩
  | error trouble =>
    cases trouble with
    | nameTooLong => exact Or.inl ⟨rfl, rfl⟩
    | _ => exact Or.inr ⟨rfl, none, rfl, rfl⟩

end Disk

namespace Javac

/-- A header with the column it points at, and the lines that it takes. -/
structure Report where
  header : Header
  column : Option Nat
  raw : List (List Char)
deriving DecidableEq, Repr

namespace Report

def path (report : Report) : Path :=
  Path.ofText (String.ofList report.header.path)

def Readable (disk : Disk) (report : Report) : Prop :=
  report.header.digits.length ≤ Text.maxDigits ∧ disk.rejects report.path = false

def reading (disk : Disk) (report : Report) : CompileError where
  file := if disk.hasEntry report.path then some (String.ofList report.header.path) else none
  line := some (Text.ofDigits report.header.digits)
  column := report.column
  message := String.ofList report.header.message
  rawText := String.ofList (Text.joinLines report.raw)

def error (disk : Disk) (report : Report) : Except DiagnosticsError CompileError :=
  errorOf disk report.header report.column report.raw

theorem error_cases (disk : Disk) (report : Report) :
    (report.Readable disk ∧ report.error disk = .ok (report.reading disk)) ∨
      (¬report.Readable disk ∧ ∃ failure, report.error disk = .error failure) := by
  rcases disk.probe_cases report.path with ⟨long, probed⟩ | ⟨short, entry, probed, present⟩
  · have failed : report.error disk = .error (.disk .nameTooLong report.path) := by
      rw [error, errorOf]
      rw [path] at probed
      simp only [probed]
      rfl
    exact Or.inr ⟨fun readable => absurd (long.symm.trans readable.2) (by decide), _, failed⟩
  · by_cases digits : Text.maxDigits < report.header.digits.length
    · have failed : report.error disk =
          .error (.number ⟨report.header.digits.length⟩) := by
        rw [error, errorOf]
        rw [path] at probed
        simp only [probed, if_pos digits]
      exact Or.inr ⟨fun readable => absurd digits (Nat.not_lt.mpr readable.1), _, failed⟩
    · refine Or.inl ⟨⟨Nat.not_lt.mp digits, short⟩, ?_⟩
      rw [error, errorOf]
      rw [path] at probed
      simp only [probed, if_neg digits, reading, ← present]
      cases entry <;> rfl

theorem error_eq_ok_iff {disk : Disk} {report : Report} :
    report.error disk = .ok (report.reading disk) ↔ report.Readable disk := by
  rcases error_cases disk report with ⟨readable, taken⟩ | ⟨unreadable, failure, failed⟩
  · exact iff_of_true taken readable
  · rw [failed]
    exact iff_of_false (by simp) unreadable

theorem readable_of_error_eq_ok {disk : Disk} {report : Report} {error : CompileError}
    (taken : report.error disk = .ok error) : report.Readable disk := by
  rcases error_cases disk report with ⟨readable, _⟩ | ⟨_, failure, failed⟩
  · exact readable
  · rw [failed] at taken
    cases taken

end Report

def collect {ε α : Type} (results : List (Except ε α)) : Except ε (List α) :=
  results.foldr consOk (.ok [])

theorem collect_map_eq_ok_iff {ε α β : Type} {items : List β} {results : β → Except ε α}
    {values : β → α} :
    collect (items.map results) = .ok (items.map values) ↔
      ∀ item ∈ items, results item = .ok (values item) := by
  induction items with
  | nil => simp [collect]
  | cons item rest ih =>
    have later : collect (results item :: rest.map results) =
        consOk (results item) (collect (rest.map results)) := rfl
    rw [List.map_cons, List.map_cons, later, List.forall_mem_cons, ← ih]
    cases results item with
    | error failure => simp [consOk]
    | ok value =>
      cases collect (rest.map results) with
      | error failure => simp [consOk]
      | ok found => simp [consOk]

theorem exists_ok_of_collect {ε α : Type} {results : List (Except ε α)} {values : List α}
    (collected : collect results = .ok values) {result : Except ε α} (member : result ∈ results) :
    ∃ value, result = .ok value := by
  induction results generalizing values with
  | nil => exact absurd member List.not_mem_nil
  | cons first rest ih =>
    have later : collect (first :: rest) = consOk first (collect rest) := rfl
    rw [later] at collected
    cases first with
    | error failure => cases collected
    | ok value =>
      cases others : collect rest with
      | error failure =>
        rw [others] at collected
        cases collected
      | ok found =>
        rcases List.mem_cons.mp member with rfl | inRest
        · exact ⟨value, rfl⟩
        · exact ih others inRest

/-- How the lines of a text divide into reports and lines that belong to none. -/
inductive Divided : List (List Char) → List Report → Prop where
  | done : Divided [] []
  | other {line : List Char} {rest : List (List Char)} {reports : List Report} :
      header? line = none → Divided rest reports → Divided (line :: rest) reports
  | alone {line : List Char} {rest : List (List Char)} {reports : List Report} {header : Header} :
      header? line = some header →
      (∀ pointer, rest[1]? = some pointer → pointer.contains caret = false) →
      Divided rest reports → Divided (line :: rest) (⟨header, none, [line]⟩ :: reports)
  | pointed {line source pointer : List Char} {rest : List (List Char)} {reports : List Report}
      {header : Header} :
      header? line = some header → pointer.contains caret = true → Divided rest reports →
      Divided (line :: source :: pointer :: rest)
        (⟨header, some (caretColumn pointer), [line, source, pointer]⟩ :: reports)

theorem exists_divided (lines : List (List Char)) : ∃ reports, Divided lines reports := by
  -- A report takes up to three lines, so the induction is on the number of lines.
  induction count : lines.length using Nat.strongRecOn generalizing lines with
  | _ count ih =>
    subst count
    cases lines with
    | nil => exact ⟨[], .done⟩
    | cons line rest =>
      obtain ⟨later, divided⟩ := ih rest.length (Nat.lt_succ_self _) rest rfl
      cases found : header? line with
      | none => exact ⟨later, .other found divided⟩
      | some header =>
        by_cases pointed : ∃ pointer, rest[1]? = some pointer ∧ pointer.contains caret = true
        · obtain ⟨pointer, second, points⟩ := pointed
          match rest, second with
          | source :: _ :: others, rfl =>
            obtain ⟨later, divided⟩ := ih others.length (by simp only [List.length_cons]; omega) others rfl
            exact ⟨_, .pointed found points divided⟩
        · refine ⟨_, .alone found (fun pointer second => ?_) divided⟩
          rw [← Bool.not_eq_true]
          exact fun points => pointed ⟨pointer, second, points⟩

theorem Divided.unique {lines : List (List Char)} {first second : List Report}
    (one : Divided lines first) (two : Divided lines second) : first = second := by
  induction one generalizing second with
  | done =>
    cases two
    rfl
  | other unread _ ih =>
    cases two with
    | other _ rest => exact ih rest
    | alone found => simp [unread] at found
    | pointed found => simp [unread] at found
  | alone found plain _ ih =>
    cases two with
    | other unread => simp [unread] at found
    | alone again _ rest =>
      obtain rfl := Option.some_inj.mp (found.symm.trans again)
      rw [ih rest]
    | pointed _ points => exact absurd ((plain _ rfl).symm.trans points) (by decide)
  | pointed found points _ ih =>
    cases two with
    | other unread => simp [unread] at found
    | alone _ plain => exact absurd ((plain _ rfl).symm.trans points) (by decide)
    | pointed again _ rest =>
      obtain rfl := Option.some_inj.mp (found.symm.trans again)
      rw [ih rest]

theorem readLines_of_none {disk : Disk} {line : List Char} {rest : List (List Char)}
    (unread : header? line = none) : readLines disk (line :: rest) = readLines disk rest := by
  match rest with
  | [] => simp only [readLines, unread]
  | [_] => simp only [readLines, unread]
  | source :: pointer :: others => rw [readLines, unread]

theorem readLines_of_alone {disk : Disk} {line : List Char} {rest : List (List Char)}
    {header : Header} (found : header? line = some header)
    (alone : ∀ pointer, rest[1]? = some pointer → pointer.contains caret = false) :
    readLines disk (line :: rest) =
      consOk (errorOf disk header none [line]) (readLines disk rest) := by
  match rest with
  | [] => simp only [readLines, found]
  | [_] => simp only [readLines, found]
  | source :: pointer :: others =>
    have plain : pointer.contains caret = false := alone pointer rfl
    rw [readLines, found]
    simp only [plain, Bool.false_eq_true, if_false]

theorem readLines_eq_collect {lines : List (List Char)} {reports : List Report}
    (divided : Divided lines reports) (disk : Disk) :
    readLines disk lines = collect (reports.map (Report.error disk)) := by
  induction divided with
  | done => rfl
  | other unread _ ih => rw [readLines_of_none unread, ih]
  | alone found plain _ ih =>
    rw [readLines_of_alone found plain, ih]
    rfl
  | pointed found points _ ih =>
    rw [readLines, found]
    simp only [points, if_true, ih]
    rfl

theorem read_eq_ok_iff {disk : Disk} {text : List Char} {reports : List Report}
    (divided : Divided (Text.lines text) reports) :
    read disk text = .ok (reports.map (Report.reading disk)) ↔
      ∀ report ∈ reports, report.Readable disk := by
  rw [read, readLines_eq_collect divided, collect_map_eq_ok_iff]
  exact forall₂_congr fun report _ => Report.error_eq_ok_iff

theorem readable_of_read {disk : Disk} {text : List Char} {reports : List Report}
    {errors : List CompileError} (divided : Divided (Text.lines text) reports)
    (taken : read disk text = .ok errors) : ∀ report ∈ reports, report.Readable disk := by
  rw [read, readLines_eq_collect divided] at taken
  intro report member
  obtain ⟨error, single⟩ := exists_ok_of_collect taken (List.mem_map_of_mem member)
  exact Report.readable_of_error_eq_ok single

theorem Divided.append_empty {lines : List (List Char)} {reports : List Report}
    (divided : Divided lines reports) : Divided (lines ++ [[]]) reports := by
  induction divided with
  | done => exact .other rfl .done
  | other unread _ ih => exact .other unread ih
  | @alone line rest reports header found plain _ ih =>
    refine .alone found (fun pointer second => ?_) ih
    match rest, plain with
    | [], _ => exact absurd second (by simp)
    | [_], _ =>
      obtain rfl := Option.some_inj.mp second
      rfl
    | _ :: _ :: _, plain => exact plain pointer second
  | pointed found points _ ih => exact .pointed found points ih

theorem readLines_append_empty (disk : Disk) (lines : List (List Char)) :
    readLines disk (lines ++ [[]]) = readLines disk lines := by
  obtain ⟨reports, divided⟩ := exists_divided lines
  rw [readLines_eq_collect divided.append_empty, readLines_eq_collect divided]

theorem read_joinLines {parts : List (List Char)}
    (inner : ∀ part ∈ parts, ∀ character ∈ part, Text.isLineEnd character = false) (disk : Disk) :
    read disk (Text.joinLines parts) = readLines disk parts := by
  rw [read]
  rcases Text.lines_joinLines inner with same | longer
  · rw [← same]
  · rw [← readLines_append_empty, ← longer]

end Javac

end Mutant
