import CoverageNote.Proofs.Comparison
import CoverageNote.Proofs.Report
import CoverageNote.Report.Command

/-!
# The bytes of a report

The report of a command is read from the bytes that it wrote. They need not be UTF-8, and a character can break
off right before a line feed. `Finished.output_rows_local` says that this stays in its line : the rows of the
report are those of the pieces of the output between its line feeds, each piece read for itself as one line, and
a piece that is the UTF-8 of a line is read as that line.

It comes down to two facts about the reader of bytes. Before a line feed it finishes the character it is in the
middle of, so it goes on afresh behind it (`Utf8.decodeLossy_append_lineFeed`), and it reads a line feed nowhere
else (`Utf8.lineFeed_not_mem_decodeLossy`).
-/

namespace CoverageNote

/-! ## Pieces between line feeds -/

namespace Utf8

/-- What holds of bytes without a line feed, and of such bytes before a line feed if it holds of what follows,
holds of all bytes. -/
theorem pieces_induction {P : List UInt8 → Prop} (single : ∀ piece, 0x0A ∉ piece → P piece)
    (more : ∀ piece rest, 0x0A ∉ piece → P rest → P (piece ++ 0x0A :: rest)) (bs : List UInt8) : P bs := by
  by_cases feed : 0x0A ∈ bs
  · obtain ⟨piece, rest, split, absent⟩ := List.eq_append_cons_of_mem feed
    rw [split]
    exact more piece rest absent (pieces_induction single more rest)
  · exact single bs feed
termination_by bs.length
decreasing_by
  rw [split, List.length_append, List.length_cons]
  omega

theorem lineFeed_not_mem_of_mem_splitOn {bs piece : List UInt8} (h : piece ∈ bs.splitOn 0x0A) :
    0x0A ∉ piece := by
  induction bs using pieces_induction with
  | single bs absent =>
    rw [List.splitOn_eq_singleton absent, List.mem_singleton] at h
    exact h ▸ absent
  | more first rest absent ih =>
    rw [List.splitOn_append_cons_self_of_not_mem absent] at h
    rcases List.mem_cons.mp h with rfl | h
    · exact absent
    · exact ih h

end Utf8

namespace Row

open Utf8

/-- The rows of bytes are those of their pieces. -/
theorem ofReport_decodeLossy (bs : List UInt8) : ofReport (decodeLossy bs) =
    (bs.splitOn 0x0A).flatMap fun piece => ofReport (decodeLossy piece) := by
  induction bs using pieces_induction with
  | single bs absent => rw [List.splitOn_eq_singleton absent, List.flatMap_singleton]
  | more first rest absent ih =>
    rw [decodeLossy_append_lineFeed, ofReport_append, ih, List.splitOn_append_cons_self_of_not_mem absent,
      List.flatMap_cons]

end Row

namespace Finished

/-- The report of a command that succeeded has the rows of the pieces of its output between the line feeds, in
order, and goes into the details of a run as it is. Of each piece at most one row is read, the one of the line
that its bytes are read as, and the bytes of a line are read as that line. -/
theorem output_rows_local {f : Finished} (succeeded : f.ending = .exit 0) (command : Text) :
    ∃ report, f.output command = .ok report ∧
      (∀ {σ ε : Type} (world : World σ ε) (s : σ), (world.answer .report s).1 = f.output command →
        ((Posting.details none).run world s).result = report) ∧
      Row.ofReport report =
        (f.stdout.splitOn 0x0A).flatMap (fun piece => Row.ofReport (Utf8.decodeLossy piece)) ∧
      ∀ piece ∈ f.stdout.splitOn 0x0A,
        Row.ofReport (Utf8.decodeLossy piece) = (Row.ofLine? (Utf8.decodeLossy piece)).toList ∧
        ∀ line, Utf8.encode line = piece → Utf8.decodeLossy piece = line := by
  have printed : f.output command = .ok (Utf8.decodeLossy f.stdout) := if_pos succeeded
  refine ⟨Utf8.decodeLossy f.stdout, printed, fun world s reported => ?_,
    Row.ofReport_decodeLossy f.stdout, fun piece inside => ⟨?_, fun line written => ?_⟩⟩
  · rw [Posting.run_details_of_empty (.inl rfl)]
    simp only [reported, printed]
  · exact Row.ofReport_line
      (Utf8.lineFeed_not_mem_decodeLossy (Utf8.lineFeed_not_mem_of_mem_splitOn inside))
  · rw [← written, Utf8.decodeLossy_encode]

/-- A character that breaks off at the end of a line spoils that line, and one that breaks off within a name only
the name. -/
theorem output_rows_local_broken :
    let f : Finished := ⟨Utf8.encode "a.go:1: f 1%".toList ++ [0xE2, 0x82, 0x0A] ++
      Utf8.encode "b.go:2: gü 2%\r\nc.go:3: h".toList ++ [0xF0, 0x9F, 0x98] ++ Utf8.encode " 3%".toList,
      [], .exit 0⟩
    f.ending = .exit 0 ∧ ∃ report, f.output reportCommand = .ok report ∧
      Row.ofReport report = [⟨"b.go".toList, "gü".toList, "2%".toList⟩,
        ⟨"c.go".toList, "h\uFFFD".toList, "3%".toList⟩] := by
  intro f
  have succeeded : f.ending = .exit 0 := rfl
  obtain ⟨report, printed, -, rows, -⟩ := output_rows_local succeeded reportCommand
  refine ⟨succeeded, report, printed, rows.trans ?_⟩
  decide +kernel

end Finished

end CoverageNote
