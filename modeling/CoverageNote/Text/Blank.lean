import CoverageNote.Text.Basic

/-!
# Blank characters

The blank characters are those with the Unicode property `White_Space`. The property is stable : no
later edition of the standard has added a character to it for decades, so the ranges are written out.

`Text.trim` removes the blank characters on both sides of a text, and leaves a text that has none there
(`Text.IsTrimmed`) as it is.
-/

namespace CoverageNote

/-- The ranges of code points with the property `White_Space`. -/
def blankRanges : List (Nat × Nat) :=
  [(0x09, 0x0D), (0x20, 0x20), (0x85, 0x85), (0xA0, 0xA0), (0x1680, 0x1680), (0x2000, 0x200A),
    (0x2028, 0x2029), (0x202F, 0x202F), (0x205F, 0x205F), (0x3000, 0x3000)]

/-- A character with the property `White_Space`. -/
def isBlank (c : Char) : Bool :=
  blankRanges.any fun r => r.1 ≤ c.toNat && c.toNat ≤ r.2

/-- No blank character is a digit. -/
theorem isDigit_eq_false_of_isBlank {c : Char} (h : isBlank c = true) : c.isDigit = false := by
  simp only [isBlank, blankRanges, List.any_cons, List.any_nil, Bool.or_eq_true, Bool.and_eq_true,
    decide_eq_true_eq, Bool.false_eq_true, or_false, Char.toNat] at h
  refine Bool.eq_false_iff.mpr fun digit => ?_
  simp only [Char.isDigit, Bool.and_eq_true, decide_eq_true_eq, ge_iff_le,
    UInt32.le_iff_toNat_le] at digit
  change 48 ≤ c.val.toNat ∧ c.val.toNat ≤ 57 at digit
  omega

namespace Text

/-- The text from its first character that is not blank. -/
def trimStart (t : Text) : Text :=
  t.dropWhile isBlank

/-- The text up to its last character that is not blank. -/
def trimEnd (t : Text) : Text :=
  t.dropEndWhile isBlank

/-- The text without the blank characters on both sides. -/
def trim (t : Text) : Text :=
  (trimStart t).trimEnd

/-- A text with blank characters only, such as the empty one. -/
def isAllBlank (t : Text) : Bool :=
  t.all isBlank

/-- A text that neither begins nor ends with a blank character. -/
structure IsTrimmed (t : Text) : Prop where
  head : ∀ c ∈ t.head?, isBlank c = false
  last : ∀ c ∈ t.getLast?, isBlank c = false

theorem isTrimmed_iff {t : Text} :
    (t.head?.all (!isBlank ·) = true ∧ t.getLast?.all (!isBlank ·) = true) ↔ t.IsTrimmed := by
  simp only [Option.all_eq_true, Bool.not_eq_true']
  exact ⟨fun h => ⟨h.1, h.2⟩, fun h => ⟨h.head, h.last⟩⟩

instance (t : Text) : Decidable t.IsTrimmed :=
  decidable_of_iff _ isTrimmed_iff

/-- A text that does not end in a blank character is kept up to its end. -/
theorem trimEnd_eq_self {t : Text} (h : ∀ c ∈ t.getLast?, isBlank c = false) : t.trimEnd = t :=
  dropEndWhile_eq_self h

theorem trimEnd_append_of_isAllBlank (t : Text) {blanks : Text} (h : blanks.isAllBlank = true) :
    (t ++ blanks).trimEnd = t.trimEnd :=
  dropEndWhile_append_of_pos (List.all_eq_true.mp h) t

/-- What is removed at the end of a text is blank. -/
theorem exists_trimEnd_append (t : Text) : ∃ blanks, t = t.trimEnd ++ blanks ∧ blanks.isAllBlank = true := by
  obtain ⟨blanks, split, blank⟩ := exists_dropEndWhile_append isBlank t
  exact ⟨blanks, split, List.all_eq_true.mpr blank⟩

theorem isBlank_getLast?_trimEnd (t : Text) : ∀ c ∈ t.trimEnd.getLast?, isBlank c = false :=
  getLast?_dropEndWhile isBlank t

theorem isTrimmed_trim (t : Text) : t.trim.IsTrimmed where
  head := by
    intro c hc
    have first := List.head?_dropWhile_not isBlank t
    obtain ⟨blanks, split, -⟩ := exists_trimEnd_append t.trimStart
    change t.trimStart.trimEnd.head? = some c at hc
    have start : (t.dropWhile isBlank).head? = some c := by
      rw [← trimStart, split, List.head?_append, hc]
      rfl
    rw [start] at first
    exact first
  last := isBlank_getLast?_trimEnd t.trimStart

/-- What a trimmed text begins with is not blank. -/
theorem IsTrimmed.head_of_isPrefix {t front : Text} (h : t.IsTrimmed) (isPrefix : front <+: t) :
    ∀ c ∈ front.head?, isBlank c = false := by
  obtain ⟨rest, rfl⟩ := isPrefix
  intro c hc
  exact h.head c (by rw [List.head?_append, hc]; rfl)

/-- Around the trimmed text there are blank characters only. -/
theorem exists_trim_between (t : Text) : ∃ front back,
    t = front ++ t.trim ++ back ∧ front.isAllBlank = true ∧ back.isAllBlank = true := by
  obtain ⟨back, split, blank⟩ := exists_trimEnd_append t.trimStart
  refine ⟨t.takeWhile isBlank, back, ?_, List.all_takeWhile, blank⟩
  rw [List.append_assoc, trim, ← split, trimStart, List.takeWhile_append_dropWhile]

theorem trim_isInfix (t : Text) : t.trim <:+: t := by
  obtain ⟨front, back, split, -⟩ := exists_trim_between t
  exact ⟨front, back, split.symm⟩

/-- A text that does not begin with a blank character begins with its trimmed text. -/
theorem trim_isPrefix {t : Text} (h : ∀ c ∈ t.head?, isBlank c = false) : t.trim <+: t := by
  have start : t.trimStart = t := by
    cases t with
    | nil => rfl
    | cons c t => exact List.dropWhile_cons_of_neg (by simp [h c rfl])
  rw [trim, start]
  exact dropEndWhile_isPrefix isBlank t

theorem mem_of_mem_trim {c : Char} {t : Text} (h : c ∈ t.trim) : c ∈ t :=
  (trim_isInfix t).subset h

/-- What stands behind such a text is trimmed at its end only. -/
theorem IsTrimmed.trim_append {t : Text} (h : t.IsTrimmed) (hne : t ≠ []) (u : Text) :
    (t ++ u).trim = t ++ u.trimEnd := by
  have start : (t ++ u).trimStart = t ++ u := by
    obtain ⟨c, t, rfl⟩ := List.exists_cons_of_ne_nil hne
    exact List.dropWhile_cons_of_neg (by simp [h.head c rfl])
  have stop : t.reverse.dropWhile isBlank = t.reverse := by
    simpa [trimEnd, dropEndWhile] using congrArg List.reverse (trimEnd_eq_self h.last)
  unfold trim trimEnd dropEndWhile
  rw [start, List.reverse_append, List.dropWhile_append, stop]
  split
  · next all => simp [List.isEmpty_iff.mp all]
  · simp

theorem IsTrimmed.trim_eq {t : Text} (h : t.IsTrimmed) : t.trim = t := by
  by_cases hne : t = []
  · subst hne
    rfl
  · simpa [trimEnd, dropEndWhile] using h.trim_append hne []

/-- Blank characters behind a text make no difference. -/
theorem trim_append_of_isAllBlank (t : Text) {blanks : Text} (h : blanks.isAllBlank = true) :
    (t ++ blanks).trim = t.trim := by
  have blank : ∀ c ∈ blanks, isBlank c = true := by simpa [isAllBlank] using h
  unfold trim trimStart
  rw [List.dropWhile_append]
  split
  · next all =>
    have gone := @List.dropWhile_append_of_pos _ isBlank blanks [] blank
    rw [List.append_nil] at gone
    rw [gone, List.isEmpty_iff.mp all]
    rfl
  · exact trimEnd_append_of_isAllBlank _ h

/-- And neither do blank characters before it. -/
theorem trim_append_left_of_isAllBlank {blanks : Text} (h : blanks.isAllBlank = true) (t : Text) :
    (blanks ++ t).trim = t.trim := by
  have blank : ∀ c ∈ blanks, isBlank c = true := by simpa [isAllBlank] using h
  rw [trim, trim, trimStart, trimStart, List.dropWhile_append_of_pos blank]

/-- Nothing is left of a text of blank characters, and of no other. -/
theorem trim_eq_nil_iff {t : Text} : t.trim = [] ↔ t.isAllBlank = true := by
  constructor
  · intro empty
    obtain ⟨blanks, split, blank⟩ := exists_trimEnd_append t.trimStart
    rw [trim] at empty
    rw [empty, List.nil_append, trimStart] at split
    rw [← @List.takeWhile_append_dropWhile _ isBlank t, split, isAllBlank, List.all_append,
      List.all_takeWhile]
    exact blank
  · exact fun blank => trim_append_of_isAllBlank [] blank

theorem trim_ne_nil {t : Text} (ne : t ≠ []) (h : ∀ c ∈ t.head?, isBlank c = false) : t.trim ≠ [] := by
  obtain ⟨c, t, rfl⟩ := List.exists_cons_of_ne_nil ne
  have first : isBlank c = false := h c rfl
  simp [trim_eq_nil_iff, isAllBlank, first]

/-- A text trimmed at its start first is trimmed all the same. -/
theorem trim_trimStart (t : Text) : t.trimStart.trim = t.trim := by
  unfold trim
  refine congrArg trimEnd ?_
  unfold trimStart
  induction t with
  | nil => rfl
  | cons c t ih =>
    by_cases h : isBlank c
    · rw [List.dropWhile_cons_of_pos h, ih]
    · rw [List.dropWhile_cons_of_neg h, List.dropWhile_cons_of_neg h]

/-- And so is one trimmed at its end first. -/
theorem trim_trimEnd (t : Text) : t.trimEnd.trim = t.trim := by
  obtain ⟨blanks, split, blank⟩ := exists_trimEnd_append t
  rw [← trim_append_of_isAllBlank t.trimEnd blank, ← split]

end Text

end CoverageNote
