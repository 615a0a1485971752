import Mathlib.Data.List.Induction
import Mutant.Proofs.Decoding
import Mutant.Proofs.Tree
import Mutant.Source

/-!
Which bytes are accepted as a source file. A file is accepted exactly when its bytes are a text and
its tree holds no fault. A refusal names where the text breaks off, or the line and column of the
fault that comes first in the document.
-/

namespace Mutant

namespace Node

mutual

def preorder : Node → List Node
  | mk kind field span named missing children =>
      mk kind field span named missing children :: preorderAll children

def preorderAll : List Node → List Node
  | [] => []
  | node :: rest => preorder node ++ preorderAll rest

end

/-- What the parser leaves in a tree where the source does not follow the grammar. -/
def Faulty (node : Node) : Prop :=
  node.kind = .error ∨ node.missing = true

instance (node : Node) : Decidable node.Faulty :=
  inferInstanceAs (Decidable (_ ∨ _))

theorem preorder_eq (node : Node) : node.preorder = node :: preorderAll node.children := by
  cases node
  rw [preorder, children]

theorem preorderAll_eq_flatMap (nodes : List Node) : preorderAll nodes = nodes.flatMap preorder := by
  induction nodes with
  | nil => rw [preorderAll, List.flatMap_nil]
  | cons node rest ih => rw [preorderAll, List.flatMap_cons, ih]

end Node

theorem Cursor.walk_map_node (cursor : Cursor) : cursor.walk.map node = cursor.node.preorder := by
  -- By induction on the size of the tree: the walk is not recursive on it, but takes fuel.
  induction height : cursor.node.size using Nat.strongRecOn generalizing cursor with
  | _ size ih =>
    have below : ∀ child ∈ cursor.node.children,
        (cursor.down child).walk.map node = child.preorder := by
      intro child member
      apply ih child.size
      · have smaller := Node.size_le_sizeAll member
        have whole := Node.size_eq cursor.node
        omega
      · rfl
    rw [walk_eq, List.map_cons, List.map_flatMap, Node.preorder_eq, Node.preorderAll_eq_flatMap,
      children, List.flatMap_map, List.flatMap_congr below]

/-- The place at an offset: one line for every newline before it and one more, and as many columns
as there are bytes behind the last of these newlines, and one more. -/
def StandsAt (source : Bytes) (offset line column : Nat) : Prop :=
  ∃ lines rest, source.take offset = lines ++ rest ∧
    (lines = [] ∨ ∃ before, lines = before ++ [newline]) ∧ newline ∉ rest ∧
    line = 1 + (source.take offset).count newline ∧ column = 1 + rest.length

theorem takeWhile_reverse_append {lines rest : Bytes}
    (ended : lines = [] ∨ ∃ before, lines = before ++ [newline]) (within : newline ∉ rest) :
    ((lines ++ rest).reverse.takeWhile (· != newline)).length = rest.length := by
  have passes : ∀ byte ∈ rest.reverse, (byte != newline) = true := by
    intro byte member
    rw [bne_iff_ne]
    rintro rfl
    exact within (List.mem_reverse.mp member)
  rw [List.reverse_append, List.takeWhile_append_of_pos passes]
  rcases ended with rfl | ⟨before, rfl⟩
  · simp
  · simp

theorem exists_last_newline (bytes : Bytes) :
    ∃ lines rest, bytes = lines ++ rest ∧
      (lines = [] ∨ ∃ before, lines = before ++ [newline]) ∧ newline ∉ rest := by
  induction bytes using List.reverseRecOn with
  | nil => exact ⟨[], [], rfl, Or.inl rfl, List.not_mem_nil⟩
  | append_singleton bytes byte ih =>
    by_cases ends : byte = newline
    · exact ⟨bytes ++ [byte], [], by simp, Or.inr ⟨bytes, by rw [ends]⟩, List.not_mem_nil⟩
    · obtain ⟨lines, rest, rfl, ended, within⟩ := ih
      refine ⟨lines, rest ++ [byte], List.append_assoc .., ended, ?_⟩
      simp [within, Ne.symm ends]

/-- Every offset has one place, which is the line and column that are counted for it. -/
theorem standsAt_iff {source : Bytes} {offset line column : Nat} :
    StandsAt source offset line column ↔
      line = lineAt source offset ∧ column = columnAt source offset := by
  rw [lineAt, columnAt, Nat.add_comm _ 1, Nat.add_comm _ 1]
  constructor
  · rintro ⟨lines, rest, divided, ended, within, rfl, rfl⟩
    rw [divided, takeWhile_reverse_append ended within]
    exact ⟨rfl, rfl⟩
  · rintro ⟨rfl, rfl⟩
    obtain ⟨lines, rest, divided, ended, within⟩ := exists_last_newline (source.take offset)
    refine ⟨lines, rest, divided, ended, within, rfl, ?_⟩
    rw [divided, takeWhile_reverse_append ended within]

namespace ParseError

theorem message_encoding (path : Path) (offset : Nat) :
    message ⟨path, .encoding offset⟩ =
      s!"Failed to parse {path.text}: not valid UTF-8 (byte {offset})" := by
  have joined : ": " ++ "not valid UTF-8 (byte " = ": not valid UTF-8 (byte " := rfl
  change "Failed to parse " ++ path.text ++ ": " ++
      ("not valid UTF-8 (byte " ++ toString offset ++ ")") =
    "Failed to parse " ++ path.text ++ ": not valid UTF-8 (byte " ++ toString offset ++ ")"
  rw [← joined]
  simp only [String.append_assoc]

theorem message_grammar (path : Path) (line column : Nat) :
    message ⟨path, .grammar line column⟩ =
      s!"Failed to parse {path.text}: syntax error at line {line}, column {column}" := by
  have joined : ": " ++ "syntax error at line " = ": syntax error at line " := rfl
  change "Failed to parse " ++ path.text ++ ": " ++
      ("syntax error at line " ++ toString line ++ ", column " ++ toString column) =
    "Failed to parse " ++ path.text ++ ": syntax error at line " ++ toString line ++
      ", column " ++ toString column
  rw [← joined]
  simp only [String.append_assoc]

end ParseError

namespace SourceFile

theorem isError_iff {cursor : Cursor} : isError cursor = true ↔ cursor.node.Faulty := by
  simp [isError, Node.Faulty, Cursor.kind]

theorem errors_map_node (tree : Node) :
    (errors tree).map Cursor.node = tree.preorder.filter Node.Faulty := by
  have same : isError = (fun node => decide node.Faulty) ∘ Cursor.node := by
    funext cursor
    rw [Function.comp_apply, Bool.eq_iff_iff, isError_iff, decide_eq_true_iff]
  rw [errors, same, ← List.filter_map, Cursor.walk_map_node]

theorem errors_eq_nil_iff {tree : Node} :
    errors tree = [] ↔ ∀ node ∈ tree.preorder, ¬node.Faulty := by
  rw [← List.map_eq_nil_iff, errors_map_node, List.filter_eq_nil_iff]
  simp only [decide_eq_true_eq]

theorem errors_of_first_fault {tree node : Node} {before after : List Node}
    (divided : tree.preorder = before ++ node :: after) (clean : ∀ other ∈ before, ¬other.Faulty)
    (faulty : node.Faulty) : ∃ first rest, errors tree = first :: rest ∧ first.node = node := by
  have nodes := errors_map_node tree
  have skipped : before.filter Node.Faulty = [] := by
    rw [List.filter_eq_nil_iff]
    simpa only [decide_eq_true_eq] using clean
  rw [divided, List.filter_append, skipped, List.nil_append,
    List.filter_cons, if_pos (decide_eq_true faulty)] at nodes
  obtain ⟨first, rest, found, same, -⟩ := List.map_eq_cons_iff.mp nodes
  exact ⟨first, rest, found, same⟩

variable {grammar : Grammar} {path : Path} {source : Bytes}

theorem parse_of_not_valid (invalid : ¬Utf8.Valid source) :
    ∃ length, Utf8.LongestValid source length ∧
      parse grammar path source = .error ⟨path, .encoding length⟩ := by
  cases read : Utf8.decode source with
  | ok text => exact absurd (Utf8.valid_iff.mpr ⟨text, read⟩) invalid
  | error malformed =>
    refine ⟨malformed.start, Utf8.longestValid_of_decode read, ?_⟩
    rw [parse, read]

theorem parse_of_errors_eq_nil (valid : Utf8.Valid source) (clean : errors (grammar source) = []) :
    parse grammar path source = .ok ⟨path, source, grammar source⟩ := by
  obtain ⟨text, read⟩ := Utf8.valid_iff.mp valid
  simp only [parse, read, clean]

theorem parse_of_errors_eq_cons (valid : Utf8.Valid source) {first : Cursor} {rest : List Cursor}
    (found : errors (grammar source) = first :: rest) :
    parse grammar path source =
      .error ⟨path, .grammar (lineAt source first.start) (columnAt source first.start)⟩ := by
  obtain ⟨text, read⟩ := Utf8.valid_iff.mp valid
  simp only [parse, read, found]

theorem parse_of_first_fault (valid : Utf8.Valid source) {node : Node} {before after : List Node}
    (divided : (grammar source).preorder = before ++ node :: after)
    (clean : ∀ other ∈ before, ¬other.Faulty) (faulty : node.Faulty) :
    ∃ line column, StandsAt source node.start line column ∧
      parse grammar path source = .error ⟨path, .grammar line column⟩ := by
  obtain ⟨first, rest, found, rfl⟩ := errors_of_first_fault divided clean faulty
  exact ⟨_, _, standsAt_iff.mpr ⟨rfl, rfl⟩, parse_of_errors_eq_cons valid found⟩

theorem parse_eq_ok_iff {file : SourceFile} :
    parse grammar path source = .ok file ↔
      (Utf8.Valid source ∧ ∀ node ∈ (grammar source).preorder, ¬node.Faulty) ∧
        file = ⟨path, source, grammar source⟩ := by
  by_cases valid : Utf8.Valid source
  · rw [← errors_eq_nil_iff]
    cases found : errors (grammar source) with
    | nil => simp [parse_of_errors_eq_nil valid found, valid, eq_comm]
    | cons first rest => simp [parse_of_errors_eq_cons valid found]
  · obtain ⟨length, -, refused⟩ := @parse_of_not_valid grammar path source valid
    simp [refused, valid]

theorem render_draft (file : SourceFile) : file.draft.render = file.source := by
  rw [Draft.render, draft, Edit.sort, List.mergeSort_nil, Draft.renderFrom, List.drop_zero]

/-- A file is accepted just when its bytes are a text and no node of its tree is faulty, and then it
renders to these bytes. Otherwise the refusal names the length of the longest beginning that is a
text, or else the place of the first faulty node. -/
theorem parse_gate (grammar : Grammar) (path : Path) (source : Bytes) :
    ((∃ file, parse grammar path source = .ok file) ↔
      Utf8.Valid source ∧ ∀ node ∈ (grammar source).preorder, ¬node.Faulty) ∧
    (∀ file, parse grammar path source = .ok file →
      file = ⟨path, source, grammar source⟩ ∧ file.draft.render = source) ∧
    (¬Utf8.Valid source → ∃ length, Utf8.LongestValid source length ∧
      parse grammar path source = .error ⟨path, .encoding length⟩ ∧
      ParseError.message ⟨path, .encoding length⟩ =
        s!"Failed to parse {path.text}: not valid UTF-8 (byte {length})") ∧
    (Utf8.Valid source → ∀ before node after,
      (grammar source).preorder = before ++ node :: after →
      (∀ other ∈ before, ¬other.Faulty) → node.Faulty →
      ∃ line column, StandsAt source node.start line column ∧
        parse grammar path source = .error ⟨path, .grammar line column⟩ ∧
        ParseError.message ⟨path, .grammar line column⟩ =
          s!"Failed to parse {path.text}: syntax error at line {line}, column {column}") := by
  refine ⟨?_, ?_, ?_, ?_⟩
  · simp only [parse_eq_ok_iff, exists_and_left, exists_eq, and_true]
  · intro file accepted
    obtain ⟨-, rfl⟩ := parse_eq_ok_iff.mp accepted
    exact ⟨rfl, render_draft _⟩
  · intro invalid
    obtain ⟨length, longest, refused⟩ := @parse_of_not_valid grammar path source invalid
    exact ⟨length, longest, refused, ParseError.message_encoding path length⟩
  · intro valid before node after divided clean faulty
    obtain ⟨line, column, stands, refused⟩ :=
      @parse_of_first_fault grammar path source valid node before after divided clean faulty
    exact ⟨line, column, stands, refused, ParseError.message_grammar path line column⟩

/-- A surrogate is no character, so the text breaks off in front of it. -/
example (grammar : Grammar) (path : Path) :
    parse grammar path [0x61, 0xED, 0xA0, 0x80] = .error ⟨path, .encoding 1⟩ :=
  rfl

end SourceFile

end Mutant
