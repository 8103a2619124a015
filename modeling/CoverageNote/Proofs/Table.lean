import CoverageNote.Proofs.Fields
import CoverageNote.Report.Body

/-!
# The table of the rows

The details of a report that has rows are laid out as a table, whose lines are joined by line feeds. No field
of a row that was read from a report holds a line feed, so the lines of the table can be told apart again; and
no percentage is an ellipsis, so the line that stands for the rows left out is none of the others.

`Shows` says which lines a table has for some rows, and `Summary.body_shows_rows` that the body of a comment has
them for the rows of its details : 300 at most, and with them the ellipsis exactly if there are more. So the
body does not depend on what the rows behind them are.
-/

namespace CoverageNote

/-! ## The line of a row -/

namespace Row

/-- A field of a row holds no line feed, so its line in the table holds none. -/
theorem ReadFrom.not_mem_tableLine {line : Text} {row : Row} (h : ReadFrom line row)
    (feed : '\n' ∉ line) : '\n' ∉ row.tableLine := by
  have file : '\n' ∉ row.file := fun inside => feed (h.file_isInfix.subset inside)
  have function : '\n' ∉ row.function := fun inside => feed (h.function_isInfix.subset inside)
  have percent : '\n' ∉ row.percent := fun inside =>
    feed (Text.mem_of_mem_trim (h.percent_isSuffix.subset inside))
  unfold tableLine
  simp only [List.mem_append, not_or]
  exact ⟨⟨⟨⟨⟨⟨by decide, file⟩, by decide⟩, function⟩, by decide⟩, percent⟩, by decide⟩

/-- The percentage of a row is a number, and no ellipsis. -/
theorem ReadFrom.tableLine_ne_ellipsisLine {line : Text} {row : Row} (h : ReadFrom line row) :
    row.tableLine ≠ ellipsisLine := by
  obtain ⟨number, percent, -⟩ := isPercentage_iff.mp h.percent
  intro same
  have sign : ['%'] ++ " |".toList = "% |".toList := by decide
  have front : row.tableLine = ("| ".toList ++ row.file ++ " | ".toList ++ row.function ++
      " | ".toList ++ number) ++ "% |".toList := by
    unfold tableLine
    rw [percent, ← sign]
    simp only [List.append_assoc]
  have ellipsis : ellipsisLine = "| … | … | ".toList ++ "… |".toList := by decide
  rw [front, ellipsis] at same
  exact absurd (List.append_inj_right' same rfl) (by decide)

theorem exists_readFrom_of_mem_ofReport {report : Text} {row : Row} (h : row ∈ ofReport report) :
    ∃ line, '\n' ∉ line ∧ ReadFrom line row := by
  obtain ⟨line, inside, read⟩ := List.mem_filterMap.mp h
  have feed := Text.not_mem_of_mem_lines inside
  exact ⟨line, feed, readFrom_of_ofLine? feed read⟩

end Row

/-! ## The lines of a table -/

/-- The lines that a table has for some rows. -/
structure Shows (rows : List Row) (lines : List Text) : Prop where
  head_eq : lines.take 2 = tableHead
  length_eq : lines.length = 2 + min rows.length 300 + if 300 < rows.length then 1 else 0
  /-- The rows are shown in order. -/
  line_eq : ∀ k < min rows.length 300, lines[2 + k]? = rows[k]?.map Row.tableLine
  row_ne_ellipsis : ∀ row ∈ rows, row.tableLine ≠ ellipsisLine
  ellipsis_iff : ellipsisLine ∈ lines ↔ 300 < rows.length
  ellipsis_last : ellipsisLine ∈ lines → ∃ front, lines = front ++ [ellipsisLine] ∧ ellipsisLine ∉ front

theorem not_mem_of_mem_tableLines {rows : List Row} (h : ∀ row ∈ rows, '\n' ∉ row.tableLine) :
    ∀ line ∈ tableLines rows, '\n' ∉ line := by
  intro line inside
  rw [tableLines, List.mem_append, List.mem_append] at inside
  rcases inside with (inside | inside) | inside
  · exact (show ∀ head ∈ tableHead, '\n' ∉ head by decide) line inside
  · obtain ⟨row, shown, rfl⟩ := List.mem_map.mp inside
    exact h row (List.mem_of_mem_take shown)
  · split at inside
    · rw [List.mem_singleton.mp inside]
      decide
    · cases inside

/-- The lines of a table up to the last row that it shows. -/
def shownLines (rows : List Row) : List Text :=
  tableHead ++ (rows.take 300).map Row.tableLine

theorem tableLines_eq (rows : List Row) :
    tableLines rows = shownLines rows ++ if 300 < rows.length then [ellipsisLine] else [] := rfl

/-- Two lines of the head are shown, and a line for each of the first 300 rows. -/
theorem length_shownLines (rows : List Row) : (shownLines rows).length = 2 + min rows.length 300 := by
  have head : tableHead.length = 2 := rfl
  rw [shownLines, List.length_append, head, List.length_map, List.length_take, Nat.min_comm]

/-- Behind the head the rows are shown in their order. -/
theorem getElem?_shownLines {rows : List Row} {k : Nat} (h : k < 300) :
    (shownLines rows)[2 + k]? = rows[k]?.map Row.tableLine := by
  have head : tableHead.length = 2 := rfl
  rw [shownLines, List.getElem?_append_right (head ▸ Nat.le_add_right 2 k), head,
    Nat.add_sub_cancel_left, List.getElem?_map, List.getElem?_take_of_lt h]

/-- Neither the lines above the rows nor those of the rows are the ellipsis. -/
theorem ellipsisLine_not_mem_shownLines {rows : List Row}
    (h : ∀ row ∈ rows, row.tableLine ≠ ellipsisLine) : ellipsisLine ∉ shownLines rows := by
  rw [shownLines, List.mem_append, not_or]
  refine ⟨by decide, fun inside => ?_⟩
  obtain ⟨row, shown, same⟩ := List.mem_map.mp inside
  exact h row (List.mem_of_mem_take shown) same

theorem shows_tableLines {rows : List Row} (h : ∀ row ∈ rows, row.tableLine ≠ ellipsisLine) :
    Shows rows (tableLines rows) where
  head_eq := rfl
  length_eq := by
    rw [tableLines_eq, List.length_append, length_shownLines]
    split <;> rfl
  line_eq := by
    intro k hk
    have inside : 2 + k < (shownLines rows).length := by
      rw [length_shownLines]
      omega
    rw [tableLines_eq, List.getElem?_append_left inside, getElem?_shownLines (by omega)]
  row_ne_ellipsis := h
  ellipsis_iff := by
    have shown := ellipsisLine_not_mem_shownLines h
    rw [tableLines_eq, List.mem_append]
    split
    · next more => exact iff_of_true (.inr (List.mem_singleton_self ellipsisLine)) more
    · next all => exact iff_of_false (not_or.mpr ⟨shown, List.not_mem_nil⟩) all
  ellipsis_last := by
    have shown := ellipsisLine_not_mem_shownLines h
    rw [tableLines_eq]
    split
    · exact fun _ => ⟨shownLines rows, rfl, shown⟩
    · intro inside
      rw [List.append_nil] at inside
      exact absurd inside shown

/-! ## The table in the body -/

/-- The lines of a table are told apart again where the table is split at its line feeds. -/
theorem fields_tableLines (report : Text) :
    Text.fields '\n' (Text.joined ['\n'] (tableLines (Row.ofReport report))) = tableLines (Row.ofReport report) := by
  have feeds : ∀ row ∈ Row.ofReport report, '\n' ∉ row.tableLine := by
    intro row inside
    obtain ⟨line, feed, read⟩ := Row.exists_readFrom_of_mem_ofReport inside
    exact read.not_mem_tableLine feed
  have filled : tableLines (Row.ofReport report) ≠ [] := List.cons_ne_nil _ _
  exact Text.fields_joined filled (not_mem_of_mem_tableLines feeds)

theorem tableLine_ne_ellipsisLine_of_mem {report : Text} :
    ∀ row ∈ Row.ofReport report, row.tableLine ≠ ellipsisLine := by
  intro row inside
  obtain ⟨line, -, read⟩ := Row.exists_readFrom_of_mem_ofReport inside
  exact read.tableLine_ne_ellipsisLine

/-- The table of a report shows its rows. -/
theorem shows_ofReport (report : Text) :
    Shows (Row.ofReport report)
      (Text.fields '\n' (Text.joined ['\n'] (tableLines (Row.ofReport report)))) := by
  rw [fields_tableLines]
  exact shows_tableLines tableLine_ne_ellipsisLine_of_mem

namespace Summary

/-- A body with rows is its header and the table between the marks of the details. -/
theorem body_of_rows {summary : Summary} (h : Row.ofReport summary.details ≠ []) :
    summary.body = summary.header ++ "\n\n<details>\n<summary>Coverage details</summary>\n\n".toList ++
      Text.joined ['\n'] (tableLines (Row.ofReport summary.details)) ++ "\n</details>".toList := by
  have table : summary.detailsSection = Text.joined ['\n'] (tableLines (Row.ofReport summary.details)) :=
    if_neg (by simpa using h)
  rw [body, table]

end Summary

end CoverageNote
