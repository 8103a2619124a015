import CoverageNote.Proofs.Report

/-!
# The layout of a report

A report is read line by line, and a line without the blank characters around it. So the rows of a report do
not depend on how its lines are laid out : with which line ends, with which blank characters before and behind
them, and with which lines between them that have no row. `Relaid` says what it is to lay out a text anew, by
what is done at each of its lines, and `Row.ofReport_line_local` that this makes no difference and that no row
depends on another line than its own.

The carriage return of a line end is the subtle case. It belongs to the line end only directly before a line
feed; at the end of a text it is a blank character at the end of the last line.
-/

namespace CoverageNote

/-! ## Laying out anew -/

/-- A line with blank characters around it, none of which is a line feed. -/
inductive Padded (line : Text) : Text → Prop
  | around {before behind : Text} (line_feed : '\n' ∉ line) (before_feed : '\n' ∉ before)
    (behind_feed : '\n' ∉ behind) (before_blank : before.isAllBlank = true)
    (behind_blank : behind.isAllBlank = true) : Padded line (before ++ line ++ behind)

/-- A line that has no row. -/
structure Rowless (line : Text) : Prop where
  feed : '\n' ∉ line
  row : Row.ofLine? line = none

/-- The second text is the first one with its lines laid out anew : any of them can be padded and any line end
written in either way, and lines without a row can be put before, between and behind them. -/
inductive Relaid : Text → Text → Prop
  /-- The last line. -/
  | last {line padded : Text} (h : Padded line padded) : Relaid line padded
  /-- The last line with a line end, and only new lines behind it. -/
  | ended {line padded t : Text} (e : LineEnd) (h : Padded line padded) (behind : Relaid [] t) :
    Relaid line (padded ++ e.text ++ t)
  /-- A line before others. -/
  | line {line padded s t : Text} (e e' : LineEnd) (h : Padded line padded) (rest : Relaid s t) :
    Relaid (line ++ e.text ++ s) (padded ++ e'.text ++ t)
  /-- A new line before others. -/
  | inserted {line s t : Text} (e : LineEnd) (h : Rowless line) (rest : Relaid s t) :
    Relaid s (line ++ e.text ++ t)
  /-- A new line behind the last line end. -/
  | final {line : Text} (h : Rowless line) : Relaid [] line

namespace Padded

variable {line padded : Text}

theorem feed (h : Padded line padded) : '\n' ∉ line ∧ '\n' ∉ padded := by
  obtain ⟨lineFeed, beforeFeed, behindFeed, -, -⟩ := h
  simpa using ⟨lineFeed, beforeFeed, lineFeed, behindFeed⟩

theorem ofLine?_eq (h : Padded line padded) : Row.ofLine? padded = Row.ofLine? line := by
  obtain ⟨-, -, -, beforeBlank, behindBlank⟩ := h
  refine Row.ofLine?_eq_of_trim_eq ?_
  rw [Text.trim_append_of_isAllBlank _ behindBlank, Text.trim_append_left_of_isAllBlank beforeBlank]

end Padded

namespace Row

theorem ofReport_nil : ofReport [] = [] := rfl

/-- New lines without a row, padded lines and other line ends leave the rows as they are. -/
theorem ofReport_relaid {s t : Text} (h : Relaid s t) : ofReport t = ofReport s := by
  induction h with
  | last h => rw [ofReport_line h.feed.1, ofReport_line h.feed.2, h.ofLine?_eq]
  | ended e h behind ih =>
    rw [ofReport_line_append h.feed.2, ofReport_line h.feed.1, h.ofLine?_eq, ih, ofReport_nil,
      List.append_nil]
  | line e e' h rest ih =>
    rw [ofReport_line_append h.feed.2, ofReport_line_append h.feed.1, h.ofLine?_eq, ih]
  | inserted e h rest ih => rw [ofReport_line_append h.feed, h.row, ih, Option.toList_none, List.nil_append]
  | final h => rw [ofReport_line h.feed, h.row, ofReport_nil, Option.toList_none]

/-- The rows of a report are those of its parts between line feeds, in order, and laying its lines out anew
leaves them as they are. -/
theorem ofReport_line_local :
    (∀ first rest, ofReport (first ++ '\n' :: rest) = ofReport first ++ ofReport rest) ∧
      ∀ s t, Relaid s t → ofReport t = ofReport s :=
  ⟨ofReport_append, fun _ _ => ofReport_relaid⟩

/-- Two lines with all that can be done to them, and a carriage return at the end of each part. -/
theorem ofReport_line_local_mixed :
    let first := "a.go:1: f 1%\r".toList
    let rest := "b.go:2: g 2%\r".toList
    let anew := "\u3000a.go:1: f 1%\t\r\n\nok\r\nb.go:2: g 2%\r\r\ntotal: 3%".toList
    Relaid (first ++ '\n' :: rest) anew ∧
      ofReport (first ++ '\n' :: rest) = ofReport first ++ ofReport rest ∧
        ofReport anew = ofReport (first ++ '\n' :: rest) := by
  intro first rest anew
  have start : Padded "a.go:1: f 1%".toList ("\u3000".toList ++ "a.go:1: f 1%".toList ++ "\t".toList) :=
    .around (by decide) (by decide) (by decide) (by decide) (by decide)
  have last : Padded "b.go:2: g 2%\r".toList ([] ++ "b.go:2: g 2%\r".toList ++ []) :=
    .around (by decide) (by decide) (by decide) (by decide) (by decide)
  have total : Relaid [] "total: 3%".toList := .final ⟨by decide, by decide⟩
  have empty : Rowless [] := ⟨by decide, by decide⟩
  have word : Rowless "ok".toList := ⟨by decide, by decide⟩
  have plain : first ++ '\n' :: rest =
      "a.go:1: f 1%".toList ++ LineEnd.returnFeed.text ++ "b.go:2: g 2%\r".toList := by decide
  have laid : anew = ("\u3000".toList ++ "a.go:1: f 1%".toList ++ "\t".toList) ++ LineEnd.returnFeed.text ++
      ([] ++ LineEnd.feed.text ++ ("ok".toList ++ LineEnd.returnFeed.text ++
        (([] ++ "b.go:2: g 2%\r".toList ++ []) ++ LineEnd.returnFeed.text ++ "total: 3%".toList))) := by
    decide
  have relaid : Relaid (first ++ '\n' :: rest) anew := by
    rw [plain, laid]
    exact .line .returnFeed .returnFeed start <| .inserted .feed empty <| .inserted .returnFeed word <|
      .ended .returnFeed last total
  exact ⟨relaid, ofReport_line_local.1 first rest, ofReport_line_local.2 _ _ relaid⟩

end Row

end CoverageNote
