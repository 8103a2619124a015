import CoverageNote.Report.Body
import Mathlib.Data.List.TakeWhile

/-!
# The details in a code block

Details without a row go into a code block as they are, between two fences of three backticks. A code block is read
line by line, and it ends at the first line that closes a fence : one with at most three spaces, then three or more
backticks, and nothing but white space behind them (`Text.closesFence_iff`). So the block holds all of the details,
and nothing of them stands behind it, exactly if none of their lines closes a fence (`Summary.body_fences_details`).
If one does, then the block ends there, and the lines of the details behind it are read as Markdown.

Also a lone carriage return ends a line of Markdown, which is no line end for the rows. So the lines here are not
those that the rows are read from (`Text.markdownLines`). What counts as white space is left open, as all of this
holds for any class of characters.
-/

namespace CoverageNote

namespace Text

/-! ## Lines of Markdown -/

/-- The lines of a text in Markdown. A line ends at a line feed, at a carriage return, or at a carriage return with a
line feed behind it, and what follows the last line end is a line. -/
def markdownLines : Text → List Text
  | [] => [[]]
  | '\r' :: '\n' :: t => [] :: markdownLines t
  | c :: t => if c = '\n' ∨ c = '\r' then [] :: markdownLines t else (markdownLines t).modifyHead (c :: ·)

theorem markdownLines_ne_nil (t : Text) : t.markdownLines ≠ [] := by
  fun_induction markdownLines t with
  | case1 | case2 | case3 => exact List.cons_ne_nil _ _
  | case4 c t _ _ ih => rwa [Ne, List.modifyHead_eq_nil_iff]

/-- A carriage return that no line feed follows ends a line by itself. -/
theorem markdownLines_cons {c : Char} {t : Text} (apart : c ≠ '\r' ∨ t.head? ≠ some '\n') :
    markdownLines (c :: t) =
      if c = '\n' ∨ c = '\r' then [] :: markdownLines t else (markdownLines t).modifyHead (c :: ·) := by
  refine markdownLines.eq_3 c t fun rest back behind => ?_
  rcases apart with other | other
  · exact other back
  · exact other (behind ▸ rfl)

/-- If a line end follows, then the lines of a text are complete, unless the two are put together at a carriage return
and a line feed. -/
theorem markdownLines_append (t : Text) {u : Text} {rest : List Text} (ended : u.markdownLines = [] :: rest)
    (apart : t.getLast? ≠ some '\r' ∨ u.head? ≠ some '\n') :
    markdownLines (t ++ u) = t.markdownLines ++ rest := by
  have inner (c : Char) (t : Text) (apart : (c :: t).getLast? ≠ some '\r' ∨ u.head? ≠ some '\n') :
      t.getLast? ≠ some '\r' ∨ u.head? ≠ some '\n' :=
    apart.imp_left getLast?_ne_of_cons
  have next (c : Char) (t : Text) (lone : ∀ rest, c = '\r' → t = '\n' :: rest → False)
      (apart : (c :: t).getLast? ≠ some '\r' ∨ u.head? ≠ some '\n') : c ≠ '\r' ∨ (t ++ u).head? ≠ some '\n' := by
    refine or_iff_not_imp_left.mpr fun back => ?_
    cases t with
    | nil => exact apart.resolve_left (not_not.mpr (congrArg some (not_not.mp back)))
    | cons d t => exact fun first => lone t (not_not.mp back) (congrArg (· :: t) (Option.some.inj first))
  fun_induction markdownLines t with
  | case1 => exact ended
  | case2 t ih =>
    rw [List.cons_append, List.cons_append, markdownLines, ih (inner _ _ (inner _ _ apart)), List.cons_append]
  | case3 c t lone line_end ih =>
    rw [List.cons_append, markdownLines_cons (next c t lone apart), if_pos line_end, ih (inner c t apart),
      List.cons_append]
  | case4 c t lone inside ih =>
    obtain ⟨first, others, split⟩ := List.exists_cons_of_ne_nil (markdownLines_ne_nil t)
    rw [List.cons_append, markdownLines_cons (next c t lone apart), if_neg inside, ih (inner c t apart), split,
      List.cons_append, List.modifyHead_cons, List.modifyHead_cons, List.cons_append]

/-- A line feed ends a line together with the carriage return before it. -/
theorem markdownLines_line_feed (t u : Text) :
    markdownLines (t ++ '\n' :: u) = t.dropReturn.markdownLines ++ u.markdownLines := by
  have feed : markdownLines ('\n' :: u) = [] :: u.markdownLines := markdownLines_cons (.inl (by decide))
  have both : markdownLines ('\r' :: '\n' :: u) = [] :: u.markdownLines := markdownLines.eq_2 u
  rcases t.dropReturn_cases with back | ⟨same, last⟩
  · have whole : t ++ '\n' :: u = t.dropReturn ++ '\r' :: '\n' :: u := by simpa using congrArg (· ++ '\n' :: u) back
    rw [whole]
    exact markdownLines_append t.dropReturn both (.inr nofun)
  · rw [← same]
    exact markdownLines_append t feed (.inl last)

/-! ## Code blocks -/

/-- The line closes a fence, `white` being the white space that can stand behind one. -/
def closesFence (white : Char → Bool) (line : Text) : Bool :=
  let fence := line.dropWhile (· == ' ')
  let behind := fence.dropWhile (· == '\x60')
  decide (line.length ≤ fence.length + 3) && decide (behind.length + 3 ≤ fence.length) && behind.all white

/-- What is left of a text without the run of a character at its beginning. -/
theorem exists_replicate_append_dropWhile (c : Char) (t : Text) :
    ∃ n, t = List.replicate n c ++ t.dropWhile (· == c) := by
  have run : t.takeWhile (· == c) = List.replicate (t.takeWhile (· == c)).length c :=
    List.eq_replicate_of_mem fun d inside => by simpa using List.mem_takeWhile_imp inside
  refine ⟨(t.takeWhile (· == c)).length, ?_⟩
  rw [← run, List.takeWhile_append_dropWhile]

theorem dropWhile_replicate_append (c : Char) (n : Nat) (t : Text) :
    (List.replicate n c ++ t).dropWhile (· == c) = t.dropWhile (· == c) := by
  refine List.dropWhile_append_of_pos fun d inside => ?_
  rw [List.eq_of_mem_replicate inside]
  exact beq_self_eq_true c

/-- A line closes a fence if it is at most three spaces, then three or more backticks, and then white space. -/
theorem closesFence_iff {white : Char → Bool} {line : Text} : line.closesFence white = true ↔
    ∃ spaces ticks behind, line = List.replicate spaces ' ' ++ (List.replicate ticks '\x60' ++ behind) ∧
      spaces ≤ 3 ∧ 3 ≤ ticks ∧ ∀ c ∈ behind, white c = true := by
  simp only [closesFence, Bool.and_eq_true, decide_eq_true_iff, List.all_eq_true]
  constructor
  · rintro ⟨⟨indent, long⟩, blank⟩
    obtain ⟨spaces, line_eq⟩ := exists_replicate_append_dropWhile ' ' line
    obtain ⟨ticks, fence_eq⟩ := exists_replicate_append_dropWhile '\x60' (line.dropWhile (· == ' '))
    have line_length := congrArg List.length line_eq
    have fence_length := congrArg List.length fence_eq
    rw [List.length_append, List.length_replicate] at line_length fence_length
    refine ⟨spaces, ticks, _, ?_, by omega, by omega, blank⟩
    rw [← fence_eq]
    exact line_eq
  · rintro ⟨spaces, ticks, behind, rfl, indent, long, blank⟩
    have fence : (List.replicate spaces ' ' ++ (List.replicate ticks '\x60' ++ behind)).dropWhile (· == ' ') =
        List.replicate ticks '\x60' ++ behind := by
      obtain ⟨more, rfl⟩ : ∃ more, ticks = more + 1 := ⟨ticks - 1, by omega⟩
      rw [dropWhile_replicate_append, List.replicate_succ, List.cons_append,
        List.dropWhile_cons_of_neg (by decide)]
    have kept : (behind.dropWhile (· == '\x60')).length ≤ behind.length :=
      (List.dropWhile_sublist _).length_le
    rw [fence, dropWhile_replicate_append]
    simp only [List.length_append, List.length_replicate]
    exact ⟨⟨by omega, by omega⟩, fun c inside => blank c ((List.dropWhile_sublist _).subset inside)⟩

/-- The lines of a code block, and those behind it, its opening fence being the line before the first. The line that
closes the fence is in neither, and without one the block holds all lines. -/
def codeBlock (white : Char → Bool) (lines : List Text) : List Text × List Text :=
  (lines.takeWhile (!closesFence white ·), (lines.dropWhile (!closesFence white ·)).tail)

section CodeBlock

variable {white : Char → Bool} {before after : List Text} {fence : Text}

theorem codeBlock_append (inside : ∀ line ∈ before, line.closesFence white = false)
    (closes : fence.closesFence white = true) : codeBlock white (before ++ fence :: after) = (before, after) := by
  have go_on : ∀ line ∈ before, (!closesFence white line) = true := fun line h => by rw [inside line h, Bool.not_false]
  have stop : ¬(!closesFence white fence) = true := by simp [closes]
  have block : (before ++ fence :: after).takeWhile (!closesFence white ·) = before := by
    rw [List.takeWhile_append_of_pos go_on, List.takeWhile_cons, if_neg stop, List.append_nil]
  have behind : (before ++ fence :: after).dropWhile (!closesFence white ·) = fence :: after := by
    rw [List.dropWhile_append_of_pos go_on, List.dropWhile_cons, if_neg stop]
  rw [codeBlock, block, behind, List.tail_cons]

/-- A line that closes a fence is in no code block. -/
theorem closesFence_of_mem_codeBlock {lines : List Text} {line : Text} (h : line ∈ (codeBlock white lines).1) :
    line.closesFence white = false := by
  simpa using List.mem_takeWhile_imp h

/-- A fence ends the block that it is meant to end exactly if no line of the block does. -/
theorem codeBlock_append_iff (closes : fence.closesFence white = true) :
    codeBlock white (before ++ fence :: after) = (before, after) ↔
      ∀ line ∈ before, line.closesFence white = false := by
  refine ⟨fun block line inside => ?_, fun inside => codeBlock_append inside closes⟩
  have member : line ∈ (codeBlock white (before ++ fence :: after)).1 := block.symm ▸ inside
  exact closesFence_of_mem_codeBlock member

end CodeBlock

end Text

/-! ## The code block of the details -/

namespace Summary

open Text

/-- Details without a row stand between two fences. -/
theorem body_of_no_rows {summary : Summary} (h : Row.ofReport summary.details = []) :
    summary.body = summary.header ++ "\n\n<details>\n<summary>Coverage details</summary>\n\n".toList ++
      ("```\n".toList ++ (summary.details ++ '\n' :: "```\n</details>".toList)) := by
  have block : summary.detailsSection = "```\n".toList ++ summary.details ++ "\n```".toList := if_pos (by simpa using h)
  have tail : "\n```".toList ++ "\n</details>".toList = '\n' :: "```\n</details>".toList := by decide
  rw [body, block]
  simp only [List.append_assoc, tail]

theorem closesFence_fence (white : Char → Bool) : closesFence white "```".toList = true :=
  closesFence_iff.mpr ⟨0, 3, [], rfl, by decide, by decide, nofun⟩

/-- Where the details have no row, the body holds their lines between two fences. They are the block that the first
fence opens, with nothing behind it but the end of the section, exactly if none of them closes a fence. Otherwise the
block ends at the first one that does, and those behind it are outside of the block. -/
theorem body_fences_details {summary : Summary} (h : Row.ofReport summary.details = []) (white : Char → Bool) :
    let lines := summary.details.dropReturn.markdownLines
    ∃ behind, summary.body =
        summary.header ++ "\n\n<details>\n<summary>Coverage details</summary>\n\n".toList ++
          ("```\n".toList ++ behind) ∧
      behind.markdownLines = lines ++ ["```".toList, "</details>".toList] ∧
      (codeBlock white behind.markdownLines = (lines, ["</details>".toList]) ↔
        ∀ line ∈ lines, line.closesFence white = false) ∧
      ∀ before fence after, lines = before ++ fence :: after → (∀ line ∈ before, line.closesFence white = false) →
        fence.closesFence white = true →
          codeBlock white behind.markdownLines = (before, after ++ ["```".toList, "</details>".toList]) := by
  intro lines
  have all : markdownLines (summary.details ++ '\n' :: "```\n</details>".toList) =
      lines ++ ["```".toList, "</details>".toList] := markdownLines_line_feed summary.details _
  refine ⟨_, body_of_no_rows h, all, ?_, fun before fence after split inside closes => ?_⟩
  · rw [all]
    exact codeBlock_append_iff (closesFence_fence white)
  · rw [all, split, List.append_assoc, List.cons_append]
    exact codeBlock_append inside closes

/-- Two backticks, and a line with three that goes on, close no fence. -/
theorem body_fences_details_go_on :
    let summary : Summary := ⟨none, "80".toList, "panic: oops\r\n  ``\r```go\n<b>".toList⟩
    Row.ofReport summary.details = [] ∧ ∃ behind, summary.body =
        summary.header ++ "\n\n<details>\n<summary>Coverage details</summary>\n\n".toList ++
          ("```\n".toList ++ behind) ∧
      codeBlock isBlank behind.markdownLines =
        (["panic: oops".toList, "  ``".toList, "```go".toList, "<b>".toList], ["</details>".toList]) := by
  intro summary
  have rows : Row.ofReport summary.details = [] := by decide
  obtain ⟨behind, body, -, block, -⟩ := body_fences_details rows isBlank
  exact ⟨rows, behind, body, block.mpr (by decide)⟩

/-- A line of three backticks in the details ends the block, and what follows it is no part of a code block. -/
theorem body_fences_details_early :
    ∃ summary : Summary, Row.ofReport summary.details = [] ∧ ∃ behind, summary.body =
        summary.header ++ "\n\n<details>\n<summary>Coverage details</summary>\n\n".toList ++
          ("```\n".toList ++ behind) ∧
      summary.details.dropReturn.markdownLines = ["```".toList, "<b>x</b>".toList] ∧ ∀ white,
        codeBlock white behind.markdownLines =
          ([], ["<b>x</b>".toList, "```".toList, "</details>".toList]) := by
  let summary : Summary := ⟨none, "80".toList, "```\n<b>x</b>".toList⟩
  have rows : Row.ofReport summary.details = [] := by decide
  have lines : summary.details.dropReturn.markdownLines = ["```".toList, "<b>x</b>".toList] := by decide
  have all : markdownLines (summary.details ++ '\n' :: "```\n</details>".toList) =
      [] ++ "```".toList :: ["<b>x</b>".toList, "```".toList, "</details>".toList] := by decide
  refine ⟨summary, rows, _, body_of_no_rows rows, lines, fun white => ?_⟩
  rw [all]
  exact codeBlock_append (by simp) (closesFence_fence white)

end Summary

end CoverageNote
