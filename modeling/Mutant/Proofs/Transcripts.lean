import Mutant.Proofs.Reports

/-!
Printed diagnostics are read back. A diagnostic is printed as a header, the source line and a caret
line; whatever the source line looks like, the three lines are one report. So a transcript gives back
its diagnostics in order, exactly when none of their paths is too long to be looked up.
-/

namespace Mutant.Javac

inductive Severity where
  | error | warning
deriving DecidableEq, Repr

def Severity.text : Severity → List Char
  | error => "error".toList
  | warning => "warning".toList

structure Diagnostic where
  stem : List Char
  line : Nat
  severity : Severity
  message : List Char
  source : List Char
  /-- How many spaces stand before the caret. -/
  indent : Nat
  stem_ne_nil : stem ≠ []
  short : (Nat.toDigits 10 line).length ≤ Text.maxDigits
  firm : ∀ character ∈ message.head?, Text.isBlank character = false
  unmarked : ¬pathMark <:+: message
  inner : ∀ character ∈ stem ++ message ++ source, Text.isLineEnd character = false

def caretLine (indent : Nat) : List Char :=
  List.replicate indent ' ' ++ [caret]

namespace Diagnostic

def path (diagnostic : Diagnostic) : List Char :=
  diagnostic.stem ++ ".java".toList

def digits (diagnostic : Diagnostic) : List Char :=
  Nat.toDigits 10 diagnostic.line

def label (diagnostic : Diagnostic) : List Char :=
  diagnostic.severity.text ++ ':' :: ' ' :: diagnostic.message

def headerLine (diagnostic : Diagnostic) : List Char :=
  diagnostic.path ++ ':' :: (diagnostic.digits ++ ':' :: ' ' :: diagnostic.label)

def lines (diagnostic : Diagnostic) : List (List Char) :=
  [diagnostic.headerLine, diagnostic.source, caretLine diagnostic.indent]

def report (diagnostic : Diagnostic) : Report where
  header := ⟨diagnostic.path, diagnostic.digits, diagnostic.message⟩
  column := some (diagnostic.indent + 1)
  raw := diagnostic.lines

def expected (disk : Disk) (diagnostic : Diagnostic) : CompileError where
  file := if disk.hasEntry (Path.ofText (String.ofList diagnostic.path)) then
    some (String.ofList diagnostic.path) else none
  line := some diagnostic.line
  column := some (diagnostic.indent + 1)
  message := String.ofList diagnostic.message
  rawText := String.ofList (Text.joinLines diagnostic.lines)

variable (diagnostic : Diagnostic)

theorem reading_report (disk : Disk) :
    diagnostic.report.reading disk = diagnostic.expected disk := by
  have number : Text.ofDigits diagnostic.digits = diagnostic.line :=
    Text.ofDigits_toDigits diagnostic.line
  rw [Report.reading, expected, ← number]
  rfl

theorem readable_report_iff (disk : Disk) :
    diagnostic.report.Readable disk ↔
      disk.rejects (Path.ofText (String.ofList diagnostic.path)) = false :=
  and_iff_right diagnostic.short

theorem severity?_label : severity? diagnostic.label = some (' ' :: diagnostic.message) := by
  rw [severity?, label]
  cases diagnostic.severity with
  | error =>
    have colon : Severity.error.text ++ ':' :: ' ' :: diagnostic.message =
        "error:".toList ++ ' ' :: diagnostic.message := rfl
    rw [colon, after?_append]
    rfl
  | warning =>
    have colon : Severity.warning.text ++ ':' :: ' ' :: diagnostic.message =
        "warning:".toList ++ ' ' :: diagnostic.message := rfl
    have other : after? "error:".toList ("warning:".toList ++ ' ' :: diagnostic.message) = none :=
      rfl
    rw [colon, other, after?_append]
    rfl

theorem afterBlanks?_label : afterBlanks? (' ' :: diagnostic.label) = some diagnostic.label := by
  apply afterBlanks?_space
  intro character first
  rw [label] at first
  cases severity : diagnostic.severity with
  | error =>
    rw [severity] at first
    obtain rfl := Option.some_inj.mp first
    decide
  | warning =>
    rw [severity] at first
    obtain rfl := Option.some_inj.mp first
    decide

theorem position?_digits :
    position? (':' :: (diagnostic.digits ++ ':' :: ' ' :: diagnostic.label)) =
      some (diagnostic.digits, diagnostic.message) := by
  have nonempty : diagnostic.digits ≠ [] := Nat.toDigits_ne_nil
  rw [position?_eq nonempty fun digit member => Text.isDigit_of_mem_toDigits member,
    afterBlanks?_label, Option.bind_some, severity?_label, Option.bind_some,
    afterBlanks?_space diagnostic.firm]
  rfl

theorem not_mark_label : ¬pathMark <:+: diagnostic.digits ++ ':' :: ' ' :: diagnostic.label := by
  intro marked
  have divided : diagnostic.digits ++ ':' :: ' ' :: diagnostic.label =
      (diagnostic.digits ++ ':' :: ' ' :: (diagnostic.severity.text ++ [':', ' '])) ++
        diagnostic.message := by
    simp [label]
  have dotless : '.' ∉ diagnostic.digits ++ ':' :: ' ' :: (diagnostic.severity.text ++ [':', ' ']) := by
    intro dot
    rcases List.mem_append.mp dot with digit | rest
    · exact absurd (Text.isDigit_of_mem_toDigits digit) (by decide)
    · revert rest
      cases diagnostic.severity <;> decide
  rw [divided] at marked
  exact diagnostic.unmarked (infix_of_not_mem marked dotless)

theorem header?_headerLine :
    header? diagnostic.headerLine =
      some ⟨diagnostic.path, diagnostic.digits, diagnostic.message⟩ :=
  header?_eq_some diagnostic.stem_ne_nil diagnostic.not_mark_label diagnostic.position?_digits

theorem caretColumn_caretLine (indent : Nat) : caretColumn (caretLine indent) = indent + 1 := by
  have spaces : (caretLine indent).takeWhile (· != caret) = List.replicate indent ' ' := by
    rw [caretLine, List.takeWhile_append_of_pos, List.takeWhile_cons_of_neg, List.append_nil]
    · decide
    · intro character member
      rw [List.eq_of_mem_replicate member]
      decide
  rw [caretColumn, spaces, List.length_replicate]

theorem contains_caretLine (indent : Nat) : (caretLine indent).contains caret = true := by
  simp [caretLine]

theorem divided_lines_append {rest : List (List Char)} {reports : List Report}
    (divided : Divided rest reports) :
    Divided (diagnostic.lines ++ rest) (diagnostic.report :: reports) := by
  have column := caretColumn_caretLine diagnostic.indent
  rw [report, ← column]
  exact .pointed diagnostic.header?_headerLine (contains_caretLine diagnostic.indent) divided

theorem isLineEnd_of_mem_lines {part : List Char} (member : part ∈ diagnostic.lines) :
    ∀ character ∈ part, Text.isLineEnd character = false := by
  have inner := diagnostic.inner
  simp only [List.mem_append, or_imp, forall_and] at inner
  obtain ⟨⟨stem, message⟩, source⟩ := inner
  have digits : ∀ digit ∈ diagnostic.digits, Text.isLineEnd digit = false :=
    fun digit printed => Text.isLineEnd_of_isDigit
      (Nat.isDigit_of_mem_toDigits (by decide) (by decide) printed)
  have severity : ∀ character ∈ diagnostic.severity.text, Text.isLineEnd character = false := by
    apply Text.isLineEnd_of_all
    cases diagnostic.severity <;> decide
  have ending : ∀ character ∈ ".java".toList, Text.isLineEnd character = false :=
    Text.isLineEnd_of_all (by decide)
  have marks : Text.isLineEnd ':' = false ∧ Text.isLineEnd ' ' = false := by decide
  simp only [lines, List.mem_cons, List.not_mem_nil, or_false] at member
  rcases member with rfl | rfl | rfl
  · simp only [headerLine, path, label, List.forall_mem_append, List.forall_mem_cons]
    exact ⟨⟨stem, ending⟩, marks.1, digits, marks.1, marks.2, severity, marks.1, marks.2, message⟩
  · exact source
  · rw [caretLine, List.forall_mem_append, List.forall_mem_singleton]
    refine ⟨fun character space => ?_, by decide⟩
    rw [List.eq_of_mem_replicate space]
    exact marks.2

end Diagnostic

/-- A line of a transcript that is no header. -/
structure Noise where
  line : List Char
  unread : header? line = none
  inner : ∀ character ∈ line, Text.isLineEnd character = false

inductive Piece where
  | aside (noise : Noise)
  | printed (diagnostic : Diagnostic)

namespace Piece

def lines : Piece → List (List Char)
  | aside noise => [noise.line]
  | printed diagnostic => diagnostic.lines

def diagnostic? : Piece → Option Diagnostic
  | aside _ => none
  | printed diagnostic => some diagnostic

theorem isLineEnd_of_mem_lines {piece : Piece} {part : List Char} (member : part ∈ piece.lines) :
    ∀ character ∈ part, Text.isLineEnd character = false := by
  cases piece with
  | aside noise =>
    obtain rfl := List.mem_singleton.mp member
    exact noise.inner
  | printed diagnostic => exact diagnostic.isLineEnd_of_mem_lines member

theorem divided_flatMap (transcript : List Piece) :
    Divided (transcript.flatMap lines)
      ((transcript.filterMap diagnostic?).map Diagnostic.report) := by
  induction transcript with
  | nil => exact .done
  | cons piece rest ih =>
    rw [List.flatMap_cons]
    cases piece with
    | aside noise => exact .other noise.unread ih
    | printed diagnostic => exact diagnostic.divided_lines_append ih

end Piece

theorem read_transcript (disk : Disk) (transcript : List Piece) :
    read disk (Text.joinLines (transcript.flatMap Piece.lines)) =
      collect ((transcript.filterMap Piece.diagnostic?).map
        fun diagnostic => diagnostic.report.error disk) := by
  have inner : ∀ part ∈ transcript.flatMap Piece.lines, ∀ character ∈ part,
      Text.isLineEnd character = false := by
    intro part member
    obtain ⟨piece, _, printed⟩ := List.mem_flatMap.mp member
    exact Piece.isLineEnd_of_mem_lines printed
  rw [read_joinLines inner, readLines_eq_collect (Piece.divided_flatMap transcript), List.map_map]
  rfl

theorem error_report_eq_ok_iff {disk : Disk} {diagnostic : Diagnostic} :
    diagnostic.report.error disk = .ok (diagnostic.expected disk) ↔
      disk.rejects (Path.ofText (String.ofList diagnostic.path)) = false := by
  rw [← diagnostic.reading_report, Report.error_eq_ok_iff, diagnostic.readable_report_iff]

theorem flatMap_printed (diagnostic : Diagnostic) :
    [Piece.printed diagnostic].flatMap Piece.lines = diagnostic.lines :=
  List.flatMap_singleton ..

theorem read_lines_iff (disk : Disk) (diagnostic : Diagnostic) :
    read disk (Text.joinLines diagnostic.lines) = .ok [diagnostic.expected disk] ↔
      disk.rejects (Path.ofText (String.ofList diagnostic.path)) = false := by
  have reads : read disk (Text.joinLines diagnostic.lines) =
      collect ([diagnostic].map fun diagnostic => diagnostic.report.error disk) := by
    rw [← flatMap_printed, read_transcript]
    rfl
  have single : [diagnostic.expected disk] = [diagnostic].map (Diagnostic.expected disk) := rfl
  rw [reads, single, collect_map_eq_ok_iff, List.forall_mem_singleton, error_report_eq_ok_iff]

/-- A transcript of diagnostics, with other lines around them, is read back as these diagnostics in
their order, exactly when no path in it is too long to be looked up. -/
theorem read_transcript_iff (disk : Disk) (transcript : List Piece) :
    let diagnostics := transcript.filterMap Piece.diagnostic?
    read disk (Text.joinLines (transcript.flatMap Piece.lines)) =
        .ok (diagnostics.map (Diagnostic.expected disk)) ↔
      ∀ diagnostic ∈ diagnostics,
        disk.rejects (Path.ofText (String.ofList diagnostic.path)) = false := by
  intro diagnostics
  rw [read_transcript, collect_map_eq_ok_iff]
  exact forall₂_congr fun diagnostic _ => error_report_eq_ok_iff

def quoting : Diagnostic where
  stem := "a.java:1/B".toList
  line := 7
  severity := .error
  message := "missing ;".toList
  source := "f(); // C.java:2: error: y ^ z".toList
  indent := 3
  stem_ne_nil := by decide
  short := by decide
  firm := by
    rintro _ ⟨rfl⟩
    decide
  unmarked := by decide
  inner := Text.isLineEnd_of_all (by decide)

theorem quoting_read :
    read {} (Text.joinLines quoting.lines) = .ok [quoting.expected {}] := by
  rw [← flatMap_printed]
  exact (read_transcript_iff {} [.printed quoting]).mpr (by decide +kernel)

/-- Its name has more than 255 bytes, so the disk refuses to look it up. -/
def overlong : Diagnostic where
  stem := List.replicate 251 'a'
  line := 7
  severity := .error
  message := ['x']
  source := [' ', 'y']
  indent := 2
  stem_ne_nil := by decide
  short := by decide
  firm := by
    rintro _ ⟨rfl⟩
    decide
  unmarked := by decide
  inner := Text.isLineEnd_of_all (by decide +kernel)

theorem rejects_overlong : Disk.rejects {} (Path.ofText (String.ofList overlong.path)) = true := by
  have single : Path.ofText (String.ofList overlong.path) = ⟨"", [String.ofList overlong.path]⟩ := by
    rw [Path.ofText, String.toList_ofList]
    decide +kernel
  have whole : (Path.mk "" [String.ofList overlong.path]).hasNull = false := by
    rw [Path.hasNull, List.any_cons, String.toList_ofList]
    decide +kernel
  have long : Disk.isLongName (String.ofList overlong.path) = true := by decide +kernel
  have inner : (String.ofList overlong.path == "..") = false := by decide +kernel
  have start : Disk.origin {} (Path.mk "" [String.ofList overlong.path]) = [] := rfl
  have folder : Disk.at? {} [] = some (.folder []) := rfl
  rw [single, Disk.rejects, Disk.find, Disk.locate, whole, start]
  by_cases far : Disk.maxPath < (Path.mk "" [String.ofList overlong.path]).text.utf8ByteSize
  · simp only [far, if_true, Bool.false_eq_true, if_false]
  · simp only [far, Disk.follow, folder, inner, long, if_true, Bool.false_eq_true, if_false]

theorem overlong_not_read :
    read {} (Text.joinLines overlong.lines) ≠ .ok [overlong.expected {}] := by
  intro done
  have accepted := (read_lines_iff {} overlong).mp done
  rw [rejects_overlong] at accepted
  cases accepted

end Mutant.Javac
