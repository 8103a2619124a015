import CoverageNote.Proofs.Table

/-!
# The cells of a table

A table is read line by line, and a line by its pipes : the cells stand between them, with blank characters around
them that do not count (`Text.cells`). A pipe behind a backslash separates nothing and stands for a pipe.

The fields of a row go into its line as they are. So its cells are the pieces of the file, those of the function and
the percentage (`Row.ReadFrom.cells_tableLine`), and a field is one cell and the same text exactly if it holds no
pipe and has no blank character at either end. Backslashes do nothing else : a field has a space on either side, so
none stands before a pipe of the table. `Summary.body_cells` says this of the body of a comment, and that the rows
are read back from it if each of them is intact.
-/

namespace CoverageNote

/-! ## The pieces of a text -/

theorem exists_of_modifyHead_eq_singleton {α : Type} {f : α → α} {as : List α} {b : α}
    (h : as.modifyHead f = [b]) : ∃ a, as = [a] ∧ f a = b := by
  cases as with
  | nil => cases h
  | cons a as =>
    rw [List.modifyHead_cons, List.cons.injEq] at h
    exact ⟨a, h.2 ▸ rfl, h.1⟩

namespace Text

/-- The pieces of a text between its pipes. A pipe behind a backslash stands for a pipe, without the backslash. -/
def pieces : Text → List Text
  | [] => [[]]
  | '\\' :: '|' :: t => (pieces t).modifyHead ('|' :: ·)
  | '|' :: t => [] :: pieces t
  | c :: t => (pieces t).modifyHead (c :: ·)

/-- A character that is no pipe, and no backslash before one, is part of the first piece. -/
theorem pieces_cons {c : Char} {t : Text} (pipe : c ≠ '|') (escape : c ≠ '\\' ∨ t.head? ≠ some '|') :
    pieces (c :: t) = (pieces t).modifyHead (c :: ·) := by
  refine pieces.eq_4 c t (fun rest backslash behind => ?_) pipe
  rcases escape with other | other
  · exact other backslash
  · exact other (behind ▸ rfl)

theorem pieces_ne_nil (t : Text) : pieces t ≠ [] := by
  fun_induction pieces t with
  | case1 | case3 => exact List.cons_ne_nil _ _
  | case2 t ih | case4 c t _ _ ih => rwa [Ne, List.modifyHead_eq_nil_iff]

theorem pieces_eq_singleton {t : Text} (pipe : '|' ∉ t) : pieces t = [t] := by
  induction t with
  | nil => rfl
  | cons c t ih =>
    rw [List.mem_cons, not_or] at pipe
    have next : t.head? ≠ some '|' := fun first => pipe.2 (List.mem_of_head? first)
    rw [pieces_cons (Ne.symm pipe.1) (.inr next), ih pipe.2, List.modifyHead_cons]

/-- If a text has one piece, then it is no longer than the text, and shorter if there are pipes. -/
theorem length_of_pieces_eq_singleton {t piece : Text} (h : pieces t = [piece]) :
    piece.length ≤ t.length ∧ (piece.length = t.length → '|' ∉ t) := by
  fun_induction pieces t generalizing piece with
  | case1 =>
    cases h
    exact ⟨le_rfl, fun _ => List.not_mem_nil⟩
  | case2 t ih =>
    obtain ⟨rest, single, rfl⟩ := exists_of_modifyHead_eq_singleton h
    have short := (ih single).1
    simp only [List.length_cons]
    exact ⟨by omega, fun same => by omega⟩
  | case3 t ih => exact absurd (List.cons.inj h).2 (pieces_ne_nil t)
  | case4 c t escape pipe ih =>
    obtain ⟨rest, single, rfl⟩ := exists_of_modifyHead_eq_singleton h
    obtain ⟨short, absent⟩ := ih single
    simp only [List.length_cons, List.mem_cons, not_or]
    exact ⟨by omega, fun same => ⟨fun first => pipe first.symm, absent (by omega)⟩⟩

/-! ### One text behind another -/

/-- The pieces of two texts are put together, the last of the one and the first of the other being one piece. -/
def Meets (ps qs whole : List Text) : Prop :=
  ∃ front last, ps = front ++ [last] ∧ whole = front ++ qs.modifyHead (last ++ ·)

theorem Meets.modifyHead {ps qs whole : List Text} (h : Meets ps qs whole) (c : Char) :
    Meets (ps.modifyHead (c :: ·)) qs (whole.modifyHead (c :: ·)) := by
  obtain ⟨front, last, rfl, rfl⟩ := h
  cases front with
  | nil => exact ⟨[], c :: last, rfl, by simp [List.modifyHead_modifyHead, Function.comp_def]⟩
  | cons p front => exact ⟨(c :: p) :: front, last, rfl, rfl⟩

theorem Meets.cons {ps qs whole : List Text} (h : Meets ps qs whole) (p : Text) :
    Meets (p :: ps) qs (p :: whole) := by
  obtain ⟨front, last, rfl, rfl⟩ := h
  exact ⟨p :: front, last, rfl, rfl⟩

/-- Unless a pipe comes to stand behind a backslash, the pieces of two texts are those of the texts. -/
theorem meets_pieces (t : Text) {u : Text} (apart : t.getLast? ≠ some '\\' ∨ u.head? ≠ some '|') :
    Meets (pieces t) (pieces u) (pieces (t ++ u)) := by
  have inner (c : Char) (t : Text) (apart : (c :: t).getLast? ≠ some '\\' ∨ u.head? ≠ some '|') :
      t.getLast? ≠ some '\\' ∨ u.head? ≠ some '|' :=
    apart.imp_left getLast?_ne_of_cons
  fun_induction pieces t with
  | case1 => exact ⟨[], [], rfl, (congrFun List.modifyHead_id _).symm⟩
  | case2 t ih => exact (ih (inner _ _ (inner _ _ apart))).modifyHead '|'
  | case3 t ih => exact (ih (inner _ _ apart)).cons []
  | case4 c t escape pipe ih =>
    have whole : pieces (c :: (t ++ u)) = (pieces (t ++ u)).modifyHead (c :: ·) := by
      refine pieces_cons pipe (or_iff_not_imp_left.mpr fun backslash => ?_)
      cases t with
      | nil => exact apart.resolve_left (not_not.mpr (congrArg some (not_not.mp backslash)))
      | cons d t =>
        intro first
        exact escape t (not_not.mp backslash) (congrArg (· :: t) (Option.some.inj first))
    rw [List.cons_append, whole]
    exact (ih (inner _ _ apart)).modifyHead c

/-- A pipe behind a space separates. -/
theorem pieces_append_pipe {t : Text} (last : t.getLast? ≠ some '\\') (u : Text) :
    pieces (t ++ '|' :: u) = pieces t ++ pieces u := by
  obtain ⟨front, piece, split, whole⟩ := meets_pieces t (.inl last : _ ∨ ('|' :: u).head? ≠ some '|')
  rw [whole, split, pieces, List.modifyHead_cons, List.append_nil, List.append_assoc]
  rfl

/-- A text with a space on either side. -/
def spaced (t : Text) : Text :=
  ' ' :: (t ++ [' '])

theorem getLast?_spaced (t : Text) : t.spaced.getLast? ≠ some '\\' := by
  rw [spaced, ← List.cons_append, List.getLast?_concat]
  decide

/-- The spaces around a text are part of its first and its last piece. -/
theorem map_trim_pieces_spaced (t : Text) : (pieces t.spaced).map trim = (pieces t).map trim := by
  have behind : (pieces (t ++ [' '])).map trim = (pieces t).map trim := by
    obtain ⟨front, last, split, whole⟩ := meets_pieces t (.inr (by decide) : _ ∨ [' '].head? ≠ some '|')
    have space : pieces [' '] = [[' ']] := rfl
    rw [whole, split, space, List.modifyHead_cons, List.map_append, List.map_append, List.map_singleton,
      List.map_singleton, trim_append_of_isAllBlank last (show isAllBlank [' '] = true by decide)]
  have before : pieces t.spaced = (pieces (t ++ [' '])).modifyHead (' ' :: ·) :=
    pieces_cons (by decide) (.inl (by decide))
  obtain ⟨first, rest, split⟩ := List.exists_cons_of_ne_nil (pieces_ne_nil (t ++ [' ']))
  have outer : trim (' ' :: first) = trim first :=
    trim_append_left_of_isAllBlank (show isAllBlank [' '] = true by decide) first
  rw [before, ← behind, split, List.modifyHead_cons, List.map_cons, List.map_cons, outer]

/-- A text is its one piece, trimmed, exactly if it holds no pipe and is trimmed. -/
theorem map_trim_pieces_eq_singleton_iff {t : Text} : (pieces t).map trim = [t] ↔ '|' ∉ t ∧ t.IsTrimmed := by
  constructor
  · intro single
    obtain ⟨piece, split, same⟩ := List.map_eq_singleton_iff.mp single
    obtain ⟨short, absent⟩ := length_of_pieces_eq_singleton split
    have long : t.length ≤ piece.length := same ▸ (trim_isInfix piece).length_le
    exact ⟨absent (le_antisymm short long), same ▸ piece.isTrimmed_trim⟩
  · rintro ⟨pipe, trimmed⟩
    rw [pieces_eq_singleton pipe, List.map_singleton, trimmed.trim_eq]

/-! ## Cells -/

/-- The pieces without the one before the first pipe and the one behind the last, where these are blank. -/
def unframed (ps : List Text) : List Text :=
  let behind := if ps.head?.any isAllBlank then ps.tail else ps
  if behind.getLast?.any isAllBlank then behind.dropLast else behind

/-- The cells of a line of a table. -/
def cells (line : Text) : List Text :=
  (unframed (pieces line)).map trim

theorem unframed_framed (ps : List Text) : unframed ([] :: (ps ++ [[]])) = ps := by
  have first : (([] : Text) :: (ps ++ [[]])).head?.any isAllBlank = true := rfl
  have last : (ps ++ [([] : Text)]).getLast?.any isAllBlank = true := by
    rw [List.getLast?_concat]
    rfl
  rw [unframed, if_pos first, List.tail_cons, if_pos last, List.dropLast_concat]

end Text

/-! ## The line of a row, cell by cell -/

/-- Two lists that are not empty have one element each where there are two in all. -/
theorem append_eq_pair_iff {α : Type} {as bs : List α} (filled : as ≠ []) (filled' : bs ≠ []) {a b : α} :
    as ++ bs = [a, b] ↔ as = [a] ∧ bs = [b] := by
  constructor
  · intro whole
    obtain ⟨first, rest, rfl⟩ := List.exists_cons_of_ne_nil filled
    rw [List.cons_append, List.cons.injEq] at whole
    obtain ⟨rfl, whole⟩ := whole
    rcases List.append_eq_singleton_iff.mp whole with ⟨rfl, rfl⟩ | ⟨-, none⟩
    · exact ⟨rfl, rfl⟩
    · exact absurd none filled'
  · rintro ⟨rfl, rfl⟩
    rfl

namespace Row

open Text

theorem tableLine_eq (row : Row) : row.tableLine =
    '|' :: (row.file.spaced ++ '|' :: (row.function.spaced ++ '|' :: (row.percent.spaced ++ ['|']))) := by
  have left : "| ".toList = ['|', ' '] := rfl
  have middle : " | ".toList = [' ', '|', ' '] := rfl
  have right : " |".toList = [' ', '|'] := rfl
  unfold tableLine spaced
  rw [left, middle, right]
  simp only [List.append_assoc, List.cons_append, List.nil_append]

/-- The cells of a row are the pieces of its fields. -/
theorem cells_tableLine (row : Row) :
    row.tableLine.cells = (row.file.pieces ++ row.function.pieces ++ row.percent.pieces).map trim := by
  have split : pieces row.tableLine =
      [] :: (row.file.spaced.pieces ++ row.function.spaced.pieces ++ row.percent.spaced.pieces ++ [[]]) := by
    rw [tableLine_eq, pieces, pieces_append_pipe (getLast?_spaced _), pieces_append_pipe (getLast?_spaced _),
      pieces_append_pipe (getLast?_spaced _), pieces]
    simp only [List.append_assoc]
  rw [cells, split, unframed_framed]
  simp only [List.map_append, map_trim_pieces_spaced]

/-- An escaped pipe is part of its cell, without the backslash. -/
example : (Row.tableLine ⟨"a.go".toList, "f\\|g".toList, "1%".toList⟩).cells =
    ["a.go".toList, "f|g".toList, "1%".toList] := by decide

/-- The fields of the row can be told apart in its line, and the line in the table. -/
structure IsIntact (row : Row) : Prop where
  file_pipe : '|' ∉ row.file
  function_pipe : '|' ∉ row.function
  file_return : '\r' ∉ row.file
  function_return : '\r' ∉ row.function
  function_trimmed : row.function.IsTrimmed

section Read

variable {line : Text} {row : Row} (read : ReadFrom line row)
include read

theorem ReadFrom.pieces_percent : row.percent.pieces.map trim = [row.percent] := by
  have pipe : '|' ∉ row.percent := fun inside =>
    absurd (isDigit_of_mem_percentage read.percent inside) (by decide)
  have solid {c : Char} (inside : c ∈ row.percent) : isBlank c = false :=
    isBlank_of_mem_percentage read.percent inside
  have trimmed : row.percent.IsTrimmed :=
    ⟨fun c first => solid (List.mem_of_head? first), fun c last => solid (List.mem_of_getLast? last)⟩
  exact map_trim_pieces_eq_singleton_iff.mpr ⟨pipe, trimmed⟩

/-- The cells of a row are those that its file and its function give, and the percentage. -/
theorem ReadFrom.cells_tableLine :
    row.tableLine.cells = (row.file.pieces ++ row.function.pieces).map trim ++ [row.percent] := by
  rw [Row.cells_tableLine, List.map_append, read.pieces_percent]

theorem ReadFrom.return_not_mem_iff : '\r' ∉ row.tableLine ↔ '\r' ∉ row.file ∧ '\r' ∉ row.function := by
  have percent : '\r' ∉ row.percent := fun inside =>
    absurd (isDigit_of_mem_percentage read.percent inside) (by decide)
  rw [tableLine_eq]
  simp [spaced, percent]

/-- The line of a row is one line with the fields for its cells exactly if the row is intact. -/
theorem ReadFrom.isIntact_iff :
    '\r' ∉ row.tableLine ∧ row.tableLine.cells = [row.file, row.function, row.percent] ↔ row.IsIntact := by
  have fields : row.tableLine.cells = [row.file, row.function, row.percent] ↔
      '|' ∉ row.file ∧ '|' ∉ row.function ∧ row.function.IsTrimmed := by
    have split : [row.file, row.function, row.percent] = [row.file, row.function] ++ [row.percent] := rfl
    rw [read.cells_tableLine, split, List.append_left_inj, List.map_append,
      append_eq_pair_iff (by simpa using pieces_ne_nil _) (by simpa using pieces_ne_nil _),
      map_trim_pieces_eq_singleton_iff, map_trim_pieces_eq_singleton_iff]
    exact ⟨fun h => ⟨h.1.1, h.2⟩, fun h => ⟨⟨h.1, read.file_trimmed⟩, h.2⟩⟩
  rw [read.return_not_mem_iff, fields]
  exact ⟨fun h => ⟨h.2.1, h.2.2.1, h.1.1, h.1.2, h.2.2.2⟩,
    fun h => ⟨⟨h.file_return, h.function_return⟩, h.file_pipe, h.function_pipe, h.function_trimmed⟩⟩

end Read

/-- The row with these cells, if there are three. -/
def ofCells? : List Text → Option Row
  | [file, function, percent] => some ⟨file, function, percent⟩
  | _ => none

/-- What a line of the table shows of a row. -/
structure ShownBy (row : Row) (line : Text) : Prop where
  feed : '\n' ∉ line
  /-- The pipes of the file and of the function make cells as those of the table do. -/
  cells_eq : line.cells = (row.file.pieces ++ row.function.pieces).map trim ++ [row.percent]
  isIntact_iff : '\r' ∉ line ∧ line.cells = [row.file, row.function, row.percent] ↔ row.IsIntact

theorem shownBy_tableLine {report : Text} {row : Row} (h : row ∈ ofReport report) : row.ShownBy row.tableLine := by
  obtain ⟨line, feed, read⟩ := exists_readFrom_of_mem_ofReport h
  exact ⟨read.not_mem_tableLine feed, read.cells_tableLine, read.isIntact_iff⟩

end Row

/-! ## The rows of a table, read back -/

/-- The rows that the lines of a table show below the head. The ellipsis is none of them. -/
def rowsOfTable (table : Text) : List Row :=
  (((Text.fields '\n' table).drop 2).filter (· ≠ ellipsisLine)).filterMap fun line => Row.ofCells? line.cells

/-- If the rows that are shown are intact, then they are read back from the table. -/
theorem rowsOfTable_joined {report : Text} (intact : ∀ row ∈ (Row.ofReport report).take 300, row.IsIntact) :
    rowsOfTable (Text.joined ['\n'] (tableLines (Row.ofReport report))) = (Row.ofReport report).take 300 := by
  have below : (tableLines (Row.ofReport report)).drop 2 =
      ((Row.ofReport report).take 300).map Row.tableLine ++
        if 300 < (Row.ofReport report).length then [ellipsisLine] else [] := rfl
  have shown : (((Row.ofReport report).take 300).map Row.tableLine).filter (· ≠ ellipsisLine) =
      ((Row.ofReport report).take 300).map Row.tableLine := by
    refine List.filter_eq_self.mpr (List.forall_mem_map.mpr fun row inside => decide_eq_true ?_)
    exact tableLine_ne_ellipsisLine_of_mem row (List.mem_of_mem_take inside)
  have others : (if 300 < (Row.ofReport report).length then [ellipsisLine] else []).filter (· ≠ ellipsisLine) = [] := by
    split <;> rfl
  rw [rowsOfTable, fields_tableLines, below, List.filter_append, shown, others, List.append_nil, List.filterMap_map]
  have read : ∀ row ∈ (Row.ofReport report).take 300, Row.ofCells? row.tableLine.cells = some row := by
    intro row inside
    have cells := ((Row.shownBy_tableLine (List.mem_of_mem_take inside)).isIntact_iff.mpr (intact row inside)).2
    rw [cells]
    rfl
  exact (List.filterMap_congr read).trans (List.filterMap_some)

namespace Summary

/-- Where the details have rows, each line of the table in the body shows its row by the pieces of its fields, and as
it is exactly if the row is intact. If all rows that are shown are, then they are read back from the table. -/
theorem body_cells {summary : Summary} (h : Row.ofReport summary.details ≠ []) :
    ∃ table, summary.body =
        summary.header ++ "\n\n<details>\n<summary>Coverage details</summary>\n\n".toList ++ table ++
          "\n</details>".toList ∧
      (∀ k < min (Row.ofReport summary.details).length 300, ∃ row line,
        (Row.ofReport summary.details)[k]? = some row ∧ (Text.fields '\n' table)[2 + k]? = some line ∧
          row.ShownBy line) ∧
      ((∀ row ∈ (Row.ofReport summary.details).take 300, row.IsIntact) →
        rowsOfTable table = (Row.ofReport summary.details).take 300) := by
  refine ⟨_, body_of_rows h, fun k shown => ?_, rowsOfTable_joined⟩
  have inside : k < (Row.ofReport summary.details).length := shown.trans_le (min_le_left _ _)
  refine ⟨_, _, List.getElem?_eq_getElem inside, ?_, Row.shownBy_tableLine (List.getElem_mem inside)⟩
  rw [(shows_ofReport summary.details).line_eq k shown, List.getElem?_eq_getElem inside]
  rfl

/-- A backslash at the end of a name does not reach the pipe behind it. -/
theorem body_cells_backslash :
    let summary : Summary := ⟨some "1".toList, "80".toList, "a.go:1: f\\ 1%\n\\b:2: g 2.5%".toList⟩
    Row.ofReport summary.details ≠ [] ∧ ∃ table, summary.body =
        summary.header ++ "\n\n<details>\n<summary>Coverage details</summary>\n\n".toList ++ table ++
          "\n</details>".toList ∧
      (∃ line, (Text.fields '\n' table)[2 + 0]? = some line ∧
        Row.ShownBy ⟨"a.go".toList, "f\\".toList, "1%".toList⟩ line) ∧
      rowsOfTable table = [⟨"a.go".toList, "f\\".toList, "1%".toList⟩, ⟨"\\b".toList, "g".toList, "2.5%".toList⟩] := by
  intro summary
  have rows : Row.ofReport summary.details =
      [⟨"a.go".toList, "f\\".toList, "1%".toList⟩, ⟨"\\b".toList, "g".toList, "2.5%".toList⟩] := by decide
  have filled : Row.ofReport summary.details ≠ [] := rows ▸ List.cons_ne_nil _ _
  obtain ⟨table, body, lines, back⟩ := body_cells filled
  have intact : ∀ row ∈ (Row.ofReport summary.details).take 300, row.IsIntact := by
    rw [rows]
    intro row inside
    simp only [List.take_succ_cons, List.take_nil, List.mem_cons, List.not_mem_nil, or_false] at inside
    rcases inside with rfl | rfl <;> exact ⟨by decide, by decide, by decide, by decide, by decide⟩
  obtain ⟨row, line, at_zero, shown, shows⟩ := lines 0 (by rw [rows]; decide)
  rw [rows] at at_zero
  cases at_zero
  rw [rows] at back
  exact ⟨filled, table, body, ⟨line, shown, shows⟩, back (rows ▸ intact)⟩

/-- A pipe in a name makes a cell more, a carriage return ends the line, and a blank character at the end of a name is
not seen in its cell. Two reports with different rows can have one body. -/
theorem body_cells_broken :
    (∃ row ∈ Row.ofReport "a.go:1: f|g 1%".toList, row.tableLine.cells.length = 4) ∧
      (∃ row ∈ Row.ofReport "a.go:1: f\rg 1%".toList, '\r' ∈ row.tableLine) ∧
      (∃ row ∈ Row.ofReport "a.go:1: f : 1%".toList, row.tableLine.cells ≠ [row.file, row.function, row.percent]) ∧
      ∃ summary other : Summary, Row.ofReport summary.details ≠ [] ∧ summary.body = other.body ∧
        Row.ofReport summary.details ≠ Row.ofReport other.details := by
  have pipe : Row.ofReport "a.go:1: f|g 1%".toList = [⟨"a.go".toList, "f|g".toList, "1%".toList⟩] := by decide
  have back : Row.ofReport "a.go:1: f\rg 1%".toList = [⟨"a.go".toList, "f\rg".toList, "1%".toList⟩] := by decide
  have space : Row.ofReport "a.go:1: f : 1%".toList = [⟨"a.go".toList, "f ".toList, "1%".toList⟩] := by decide
  refine ⟨?_, ?_, ?_, ⟨none, [], "a.go:1: f | g 1%".toList⟩, ⟨none, [], "a.go | f:1: g 1%".toList⟩,
    by decide, by decide +kernel, by decide⟩
  · exact pipe ▸ ⟨_, List.mem_singleton_self _, by decide⟩
  · exact back ▸ ⟨_, List.mem_singleton_self _, by decide⟩
  · exact space ▸ ⟨_, List.mem_singleton_self _, by decide⟩

end Summary

end CoverageNote
