import CoverageNote.Text.Basic

/-!
# Lines

A line ends at a line feed, and one carriage return directly before the line feed belongs to the line
end. What follows the last line feed is a line only if it is not empty, and it keeps its carriage
return. No other character ends a line.
-/

namespace CoverageNote.Text

/-- A line without the carriage return of its line end. -/
def dropReturn (t : Text) : Text :=
  (t.dropTail? ['\r']).getD t

/-- The lines of a text. -/
def lines (t : Text) : List Text :=
  let parts := t.fields '\n'
  let ended := parts.dropLast.map dropReturn
  match parts.getLast? with
  | none | some [] => ended
  | some rest => ended ++ [rest]

/-- Only a text that ends in a carriage return is changed. -/
theorem dropReturn_cases (t : Text) : t = t.dropReturn ++ ['\r'] ∨ t = t.dropReturn ∧ t.getLast? ≠ some '\r' := by
  unfold dropReturn
  cases dropped : t.dropTail? ['\r'] with
  | some kept => exact .inl (dropTail?_eq_some_iff.mp dropped).symm
  | none =>
    refine .inr ⟨rfl, fun last => ?_⟩
    obtain ⟨front, split⟩ := List.getLast?_eq_some_iff.mp last
    rw [dropTail?_eq_some_iff.mpr split.symm] at dropped
    cases dropped

theorem dropReturn_isPrefix (t : Text) : t.dropReturn <+: t := by
  rcases t.dropReturn_cases with back | ⟨same, -⟩
  · exact ⟨['\r'], back.symm⟩
  · exact ⟨[], by rw [List.append_nil, ← same]⟩

/-- No line holds a line feed. -/
theorem not_mem_of_mem_lines {t line : Text} (h : line ∈ t.lines) : '\n' ∉ line := by
  have ended : ∀ part ∈ (t.fields '\n').dropLast.map dropReturn, '\n' ∉ part := by
    intro part inside
    obtain ⟨whole, found, rfl⟩ := List.mem_map.mp inside
    have absent := not_mem_of_mem_fields ((List.dropLast_sublist _).subset found)
    exact fun feed => absent ((dropReturn_isPrefix whole).subset feed)
  unfold lines at h
  dsimp only at h
  split at h
  · exact ended line h
  · exact ended line h
  · next last _ found =>
    rcases List.mem_append.mp h with h | h
    · exact ended line h
    · rw [List.mem_singleton.mp h]
      exact not_mem_of_mem_fields (List.mem_of_getLast? found)

end CoverageNote.Text
