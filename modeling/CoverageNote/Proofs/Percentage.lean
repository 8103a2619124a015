import CoverageNote.Proofs.Line

/-!
# The ends of a line and of a name, searched from the left

The patterns for the percentage of a line read it from right to left. A line can also be searched from the left, for
the first place at which a pattern matches (`Pattern.search?`); then the percentage is `Row.percentToEnd`, and with
the blank characters before it `Row.spacedPercentToEnd`. Likewise the number at the end of a function's name is
`Row.numberToEnd` (`Row.number_cut_alike`).

`Row.percents_cut_alike` says that this makes no difference, and that with the blank characters and without them the
line is cut at the same place : if one of the patterns matches so do the others, up to the end of the line, and what
they cut off is the longest percentage there, with all blank characters before it or with none (`Row.EndsIn`). So
what a row takes for its percentage and what is left of the line for its names have no character in common, and all
that is lost between them is blank.

A search from the left could begin too early. It does not, because a match from an earlier place would be a longer
percentage, or else blank characters with a percentage behind them that is no longer than the longest
(`EndsIn.search?_spacedPercentToEnd`).
-/

namespace CoverageNote

namespace Pattern

/-! ## Searching -/

/-- What a search has found : a piece of a text with its groups, and what stands before it and behind it. -/
structure Found where
  before : Text
  piece : Text
  groups : List Text
  behind : Text
deriving Repr, DecidableEq

/-- The match at a place of a text, with what stands before that place. -/
def Match.found (m : Match) (before : Text) : Found :=
  ⟨before, m.matched, m.groups, m.rest⟩

/-- What is found at the end of a text, as a match there. -/
def Found.atEnd (f : Found) : Match :=
  ⟨f.piece, f.groups, f.before⟩

/-- Search a text from the left. The first place at which the pattern matches counts, and there the match that is
tried first. -/
def search? (a : Pattern) : Text → Option Found
  | [] => (a.matchStart? []).map (·.found [])
  | c :: t =>
    ((a.matchStart? (c :: t)).map (·.found [])).or
      ((search? a t).map fun f => { f with before := c :: f.before })

variable {a : Pattern} {t : Text}

theorem search?_eq_none (h : ∀ s, s <:+ t → a.matchStart? s = none) : a.search? t = none := by
  induction t with
  | nil => rw [search?, h [] List.suffix_rfl, Option.map_none]
  | cons c t ih =>
    have behind := ih fun s suffix => h s (suffix.trans (List.suffix_cons c t))
    rw [search?, h (c :: t) List.suffix_rfl, behind]
    rfl

/-- What is found is a piece of the text. -/
theorem before_append_of_search? {f : Found} (h : a.search? t = some f) : f.before ++ (f.piece ++ f.behind) = t := by
  induction t generalizing f with
  | nil =>
    obtain ⟨m, here, rfl⟩ := Option.map_eq_some_iff.mp h
    exact matched_append_rest here
  | cons c t ih =>
    rcases Option.or_eq_some_iff.mp h with first | ⟨-, later⟩
    · obtain ⟨m, here, rfl⟩ := Option.map_eq_some_iff.mp first
      exact matched_append_rest here
    · obtain ⟨g, found, rfl⟩ := Option.map_eq_some_iff.mp later
      exact congrArg (c :: ·) (ih found)

/-- The text without what a search finds. -/
def eraseFirst (a : Pattern) (t : Text) : Text :=
  match a.search? t with
  | some f => f.before ++ f.behind
  | none => t

/-- A pattern that matches at the end of a text what another one finds from the left erases the same. -/
theorem eraseEnd_eq_eraseFirst {b : Pattern} (alike : a.matchEnd? t = (b.search? t).map Found.atEnd) :
    a.eraseEnd t = b.eraseFirst t := by
  rw [eraseEnd, eraseFirst, alike]
  cases found : b.search? t with
  | none => rfl
  | some f =>
    -- Before the end the piece stands both times, so nothing stands behind it.
    rw [found] at alike
    have atEnd : f.before ++ f.piece = t := rest_append_matched alike
    have split := before_append_of_search? found
    rw [← List.append_assoc, atEnd, List.append_right_eq_self] at split
    show f.before = f.before ++ f.behind
    rw [split, List.append_nil]

/-- A match is found if there is none at an earlier place. -/
theorem search?_append {before : Text} {m : Match} (here : a.matchStart? t = some m)
    (earlier : ∀ front more, before = front ++ more → more ≠ [] → a.matchStart? (more ++ t) = none) :
    a.search? (before ++ t) = some (m.found before) := by
  induction before with
  | nil =>
    rw [List.nil_append]
    cases t <;> rw [search?, here] <;> rfl
  | cons c before ih =>
    have behind := ih fun front more split => earlier (c :: front) more (by rw [split]; rfl)
    have none_here : a.matchStart? (c :: (before ++ t)) = none :=
      earlier [] (c :: before) rfl (List.cons_ne_nil c before)
    rw [List.cons_append, search?, none_here, behind]
    rfl

end Pattern

namespace Row

open Pattern

/-! ## The patterns from left to right -/

/-- The sign of a percentage and blank characters up to the end of the text. -/
def signToEnd : Pattern :=
  Pattern.char '%' ++ (many isBlank ++ atEnd)

/-- A percentage that ends the text, with its number as a group, from left to right. -/
def percentToEnd : Pattern :=
  group percentNumber ++ signToEnd

/-- A percentage that ends the text, with the blank characters before it, from left to right. -/
def spacedPercentToEnd : Pattern :=
  many isBlank ++ (percentNumber ++ signToEnd)

/-- The line ends in the percentage with this number, which is the longest one there, and `blanks` are all the blank
characters before it. -/
structure EndsIn (line left blanks number : Text) : Prop where
  line_eq : line = left ++ (blanks ++ (number ++ ['%']))
  decimal : number.isDecimal = true
  longest : ∀ q, q <:+ line → isPercentage q = true → q.length ≤ (number ++ ['%']).length
  blank : blanks.isAllBlank = true
  left_last : ∀ c ∈ left.getLast?, isBlank c = false

/-! ## What a match from the left is -/

section Sound

variable {β : Type} {b : β} {t : Text} {k : Text → List Span → Option β}

/-- What is matched as the number of a percentage is a decimal number. -/
theorem exists_number_of_match? (h : percentNumber.match? t k = some b) :
    ∃ number rest : Text, t = number ++ rest ∧ number.isDecimal = true ∧ k rest [] = some b := by
  rw [percentNumber, match?_seq] at h
  obtain ⟨d, digits, rest, rfl, hdigits, behind⟩ := exists_run_of_many1 h
  have whole : Text.isNumeral (d :: digits) = true := Text.isNumeral_iff.mpr ⟨by simp, hdigits⟩
  rcases Option.or_eq_some_iff.mp behind with point | ⟨-, stop⟩
  · rw [match?_seq] at point
    obtain ⟨rest, rfl, digit⟩ := exists_rest_of_char point
    obtain ⟨e, more, rest, rfl, hmore, stop⟩ := exists_run_of_many1 digit
    have part : Text.isNumeral (e :: more) = true := Text.isNumeral_iff.mpr ⟨by simp, hmore⟩
    refine ⟨d :: digits ++ '.' :: (e :: more), rest, by simp, ?_, stop⟩
    exact Text.isDecimal_iff.mpr (.inr ⟨_, _, rfl, whole, part⟩)
  · exact ⟨d :: digits, rest, rfl, Text.isDecimal_iff.mpr (.inl whole), stop⟩

/-- Behind the sign nothing stands where the text does not end in a blank character. -/
theorem eq_of_signToEnd (ending : ∀ c ∈ t.getLast?, isBlank c = false) (h : signToEnd.match? t k = some b) :
    t = ['%'] := by
  rw [signToEnd, match?_seq] at h
  obtain ⟨rest, rfl, behind⟩ := exists_rest_of_char h
  rw [match?_seq] at behind
  obtain ⟨blanks, rest, rfl, blank, stop⟩ := exists_run_of_greedy behind
  cases rest with
  | cons c rest => cases stop
  | nil =>
    rw [List.append_nil] at ending ⊢
    rcases List.eq_nil_or_concat blanks with rfl | ⟨blanks, c, rfl⟩
    · rfl
    · have last := ending c (by rw [List.concat_eq_append, ← List.cons_append, List.getLast?_concat]; rfl)
      rw [blank c (by simp)] at last
      cases last

/-- A number and a sign up to the end of a trimmed text are a percentage. -/
theorem isPercentage_of_match? {k : Text → List Span → Text → List Span → Option β}
    (ending : ∀ c ∈ t.getLast?, isBlank c = false)
    (h : (percentNumber.match? t fun r gs => signToEnd.match? r (k r gs)) = some b) : isPercentage t = true := by
  obtain ⟨number, rest, rfl, decimal, sign⟩ := exists_number_of_match? h
  rw [List.getLast?_append] at ending
  obtain rfl : rest = ['%'] := by
    refine eq_of_signToEnd (fun c last => ending c ?_) sign
    rw [Option.mem_def.mp last]
    rfl
  exact isPercentage_iff.mpr ⟨number, rfl, decimal⟩

end Sound

/-- What stands behind something ends as the whole text does. -/
theorem ending_of_suffix {s t : Text} (suffix : s <:+ t) (ending : ∀ c ∈ t.getLast?, isBlank c = false) :
    ∀ c ∈ s.getLast?, isBlank c = false := by
  obtain ⟨front, rfl⟩ := suffix
  intro c last
  refine ending c ?_
  rw [List.getLast?_append, Option.mem_def.mp last]
  rfl

section Ending

variable {t : Text} (ending : ∀ c ∈ t.getLast?, isBlank c = false) {m : Match}
include ending

theorem isPercentage_of_percentToEnd (h : percentToEnd.matchStart? t = some m) : isPercentage t = true := by
  rw [matchStart?, percentToEnd, match?_seq, match?_group] at h
  exact isPercentage_of_match? ending h

/-- What the second search matches is a percentage behind blanks. -/
theorem exists_isPercentage_of_spacedPercentToEnd (h : spacedPercentToEnd.matchStart? t = some m) :
    ∃ blanks percent : Text, t = blanks ++ percent ∧ (∀ c ∈ blanks, isBlank c = true) ∧
      isPercentage percent = true := by
  rw [matchStart?, spacedPercentToEnd, match?_seq] at h
  obtain ⟨blanks, percent, rfl, blank, found⟩ := exists_run_of_greedy h
  beta_reduce at found
  rw [match?_seq] at found
  exact ⟨blanks, percent, rfl, blank, isPercentage_of_match? (ending_of_suffix (List.suffix_append _ _) ending) found⟩

end Ending

/-! ## A line with a percentage at its end -/

theorem isDecimal_reverse {t : Text} (h : t.isDecimal = true) : Text.isDecimal t.reverse = true := by
  have turned : ∀ {n : Text}, n.isNumeral = true → Text.isNumeral n.reverse = true := by
    intro n numeral
    rw [Text.isNumeral_iff] at numeral ⊢
    exact ⟨by simpa using numeral.1, by simpa using numeral.2⟩
  rcases Text.isDecimal_iff.mp h with numeral | ⟨whole, part, rfl, hwhole, hpart⟩
  · exact Text.isDecimal_iff.mpr (.inl (turned numeral))
  · exact Text.isDecimal_iff.mpr (.inr ⟨part.reverse, whole.reverse, by simp, turned hpart, turned hwhole⟩)

theorem prefers_signToEnd : Prefers signToEnd ['%'] [] [] :=
  .seq (.char '%' []) (.seq (.many_nil (by simp)) .atEnd)

/-- From left to right, too, the number of a percentage is taken as a whole. -/
theorem prefers_percentNumber_forward {number : Text} (decimal : number.isDecimal = true) :
    Prefers percentNumber (number ++ ['%']) ['%'] [] := by
  have turned := @prefers_percentNumber_of_apart number.reverse ['%'] (isDecimal_reverse decimal) (by simp)
  rwa [List.reverse_reverse] at turned

namespace EndsIn

variable {line left blanks number : Text} (h : EndsIn line left blanks number)
include h

theorem ending : ∀ c ∈ line.getLast?, isBlank c = false := by
  rw [h.line_eq]
  simp
  decide

theorem isPercentage : isPercentage (number ++ ['%']) = true :=
  isPercentage_iff.mpr ⟨number, rfl, h.decimal⟩

/-- The first search finds the percentage at the end of the line. -/
theorem search?_percentToEnd :
    percentToEnd.search? line = some ⟨left ++ blanks, number ++ ['%'], [number], []⟩ := by
  have here : Prefers percentToEnd (number ++ ['%']) [] _ :=
    (prefers_percentNumber_forward h.decimal).group.seq prefers_signToEnd
  have line_eq : line = left ++ blanks ++ (number ++ ['%']) := by rw [h.line_eq, List.append_assoc]
  have earlier : ∀ front more, left ++ blanks = front ++ more → more ≠ [] →
      percentToEnd.matchStart? (more ++ (number ++ ['%'])) = none := by
    intro front more split filled
    have suffix : more ++ (number ++ ['%']) <:+ line := ⟨front, by rw [line_eq, split, List.append_assoc]⟩
    refine Option.eq_none_iff_forall_ne_some.mpr fun m found => ?_
    have fit := isPercentage_of_percentToEnd (ending_of_suffix suffix h.ending) found
    have short := h.longest _ suffix fit
    have := List.length_pos_iff.mpr filled
    rw [List.length_append] at short
    omega
  have found := search?_append here.matchStart?_eq earlier
  rw [← line_eq] at found
  rw [found]
  simp [Match.found]

/-- The second search finds the percentage with all the blanks before it. -/
theorem search?_spacedPercentToEnd :
    spacedPercentToEnd.search? line = some ⟨left, blanks ++ (number ++ ['%']), [], []⟩ := by
  have run : Prefers (many isBlank) (blanks ++ (number ++ ['%'])) (number ++ ['%']) [] := by
    refine .many (List.all_eq_true.mp h.blank) fun c first => ?_
    exact isBlank_of_mem_percentage h.isPercentage (List.mem_of_head? first)
  have here : Prefers spacedPercentToEnd (blanks ++ (number ++ ['%'])) [] [] :=
    run.seq ((prefers_percentNumber_forward h.decimal).seq prefers_signToEnd)
  have earlier : ∀ front more, left = front ++ more → more ≠ [] →
      spacedPercentToEnd.matchStart? (more ++ (blanks ++ (number ++ ['%']))) = none := by
    intro front more split filled
    have suffix : more ++ (blanks ++ (number ++ ['%'])) <:+ line :=
      ⟨front, by rw [h.line_eq, split, List.append_assoc]⟩
    refine Option.eq_none_iff_forall_ne_some.mpr fun m found => ?_
    obtain ⟨blanks', percent, whole, blank, fit⟩ :=
      exists_isPercentage_of_spacedPercentToEnd (ending_of_suffix suffix h.ending) found
    -- The percentage is no longer than the longest, so all that stands before that one is blank here.
    have inside : percent <:+ more ++ (blanks ++ (number ++ ['%'])) := ⟨blanks', whole.symm⟩
    have short := h.longest percent (inside.trans suffix) fit
    have front_blank : more <+: blanks' := by
      refine List.prefix_of_prefix_length_le ⟨_, rfl⟩ ⟨percent, whole.symm⟩ ?_
      have lengths := congrArg List.length whole
      simp only [List.length_append] at lengths short
      omega
    obtain ⟨d, last⟩ := Option.isSome_iff_exists.mp (List.getLast?_isSome.mpr filled)
    have solid := h.left_last d (by rw [split, List.getLast?_append, last]; rfl)
    rw [blank d (front_blank.subset (List.mem_of_getLast? last))] at solid
    cases solid
  have found := search?_append here.matchStart?_eq earlier
  rw [← h.line_eq] at found
  rw [found]
  simp [Match.found]

/-- Read from right to left, the number is taken as far as it goes. -/
theorem taken : Prefers percentNumber (number.reverse ++ (left ++ blanks).reverse) (left ++ blanks).reverse [] := by
  have line_eq : line = left ++ blanks ++ (number ++ ['%']) := by rw [h.line_eq, List.append_assoc]
  exact prefers_percentNumber_of_longest h.decimal (line_eq ▸ h.longest)

end EndsIn

/-- Where a percentage ends the line, it is known what stands before it. -/
theorem exists_endsIn {line before percent : Text} (h : cutPercentage? line = some (before, percent)) :
    ∃ left blanks number, EndsIn line left blanks number := by
  obtain ⟨rfl, percentage, longest⟩ := cutPercentage?_eq_some h
  obtain ⟨number, rfl, decimal⟩ := isPercentage_iff.mp percentage
  obtain ⟨blanks, split, blank⟩ := before.exists_trimEnd_append
  refine ⟨before.trimEnd, blanks, number, ?_, decimal, longest, blank, before.isBlank_getLast?_trimEnd⟩
  conv_lhs => rw [split]
  rw [List.append_assoc]

section Absent

variable {line : Text} (ending : ∀ c ∈ line.getLast?, isBlank c = false)
  (absent : ∀ q, q <:+ line → isPercentage q = false)
include ending absent

theorem search?_percentToEnd_eq_none : percentToEnd.search? line = none := by
  refine search?_eq_none fun s suffix => Option.eq_none_iff_forall_ne_some.mpr fun m found => ?_
  have fit := isPercentage_of_percentToEnd (ending_of_suffix suffix ending) found
  rw [absent s suffix] at fit
  cases fit

/-- The second search finds nothing in a line without a percentage at its end. -/
theorem search?_spacedPercentToEnd_eq_none : spacedPercentToEnd.search? line = none := by
  refine search?_eq_none fun s suffix => Option.eq_none_iff_forall_ne_some.mpr fun m found => ?_
  obtain ⟨blanks, percent, rfl, -, fit⟩ :=
    exists_isPercentage_of_spacedPercentToEnd (ending_of_suffix suffix ending) found
  rw [absent percent ((List.suffix_append blanks percent).trans suffix)] at fit
  cases fit

end Absent

/-! ## All of them -/

/-- On a line without blank characters around it a search finds a percentage exactly if the line ends in one, and one
with the blank characters before it exactly then. The first is the longest percentage at the end of the line, the
second is the same percentage with all blank characters before it, and both reach to the end of the line. The patterns
that are read from right to left match what the searches find. -/
theorem percents_cut_alike {line : Text} (trimmed : line.IsTrimmed) :
    ((percentToEnd.search? line).isSome ↔ ∃ q, q <:+ line ∧ isPercentage q = true) ∧
    ((percentToEnd.search? line).isSome ↔ (spacedPercentToEnd.search? line).isSome) ∧
    (∀ found spaced, percentToEnd.search? line = some found → spacedPercentToEnd.search? line = some spaced →
      ∃ left blanks number, EndsIn line left blanks number ∧
        found = ⟨left ++ blanks, number ++ ['%'], [number], []⟩ ∧
        spaced = ⟨left, blanks ++ (number ++ ['%']), [], []⟩) ∧
    trailingPercent.matchEnd? line = (percentToEnd.search? line).map Found.atEnd ∧
    spacedPercent.matchEnd? line = (spacedPercentToEnd.search? line).map Found.atEnd := by
  cases cut : cutPercentage? line with
  | none =>
    have absent : ∀ q, q <:+ line → Row.isPercentage q = false := fun q => cutPercentage?_eq_none cut
    rw [search?_percentToEnd_eq_none trimmed.last absent, search?_spacedPercentToEnd_eq_none trimmed.last absent,
      matchEnd?_trailingPercent_eq_none trimmed.last absent, matchEnd?_spacedPercent_eq_none trimmed.last absent]
    refine ⟨iff_of_false (by simp) ?_, Iff.rfl, nofun, rfl, rfl⟩
    rintro ⟨q, suffix, fit⟩
    rw [absent q suffix] at fit
    cases fit
  | some parts =>
    obtain ⟨left, blanks, number, ends⟩ := exists_endsIn cut
    rw [ends.search?_percentToEnd, ends.search?_spacedPercentToEnd]
    refine ⟨iff_of_true rfl ⟨_, ?_, ends.isPercentage⟩, Iff.rfl, ?_, ?_, ?_⟩
    · exact ⟨left ++ blanks, by rw [ends.line_eq, List.append_assoc]⟩
    · rintro _ _ ⟨⟩ ⟨⟩
      exact ⟨left, blanks, number, ends, rfl, rfl⟩
    · have found := matchEnd?_trailingPercent ends.taken
      rwa [List.append_assoc, ← ends.line_eq] at found
    · have found := matchEnd?_spacedPercent ends.taken rfl ends.blank ends.left_last
      rwa [← ends.line_eq] at found

/-- A percentage within the line, digits and points before it that make no longer one, and blank characters of two
kinds before the last percentage. -/
theorem percents_cut_alike_glued :
    let line : Text := "a.go:3: 2.3.4%\u3000\t5.6%".toList
    line.IsTrimmed ∧ EndsIn line "a.go:3: 2.3.4%".toList "\u3000\t".toList "5.6".toList ∧
      trailingPercent.matchEnd? line = some ⟨"5.6%".toList, ["5.6".toList], "a.go:3: 2.3.4%\u3000\t".toList⟩ ∧
      spacedPercent.matchEnd? line = some ⟨"\u3000\t5.6%".toList, [], "a.go:3: 2.3.4%".toList⟩ := by
  intro line
  have trimmed : line.IsTrimmed := by decide
  have found : percentToEnd.search? line =
      some ⟨"a.go:3: 2.3.4%\u3000\t".toList, "5.6%".toList, ["5.6".toList], []⟩ := by decide
  have spaced : spacedPercentToEnd.search? line =
      some ⟨"a.go:3: 2.3.4%".toList, "\u3000\t5.6%".toList, [], []⟩ := by decide
  obtain ⟨-, -, cut, trailing, trailingSpaced⟩ := percents_cut_alike trimmed
  obtain ⟨left, blanks, number, ends, same, sameSpaced⟩ := cut _ _ found spaced
  rw [found] at trailing
  rw [spaced] at trailingSpaced
  refine ⟨trimmed, ?_, trailing, trailingSpaced⟩
  simp only [Found.mk.injEq, List.cons.injEq] at same sameSpaced
  obtain ⟨-, -, ⟨rfl, -⟩, -⟩ := same
  obtain ⟨rfl, piece, -, -⟩ := sameSpaced
  have whole : "\u3000\t".toList ++ ("5.6".toList ++ ['%']) = blanks ++ ("5.6".toList ++ ['%']) := piece
  exact List.append_cancel_right whole ▸ ends

/-! ## The number at the end of a name -/

/-- A number that ends the text, with the blank characters before it, from left to right. -/
def numberToEnd : Pattern :=
  many1 isBlank ++ (many1 Char.isDigit ++ atEnd)

/-- What is matched as a trailing number is a numeral behind blanks. -/
theorem exists_numeral_of_numberToEnd {t : Text} {m : Match} (h : numberToEnd.matchStart? t = some m) :
    ∃ blanks digits : Text, t = blanks ++ digits ∧ blanks ≠ [] ∧ (∀ c ∈ blanks, isBlank c = true) ∧
      digits.isNumeral = true := by
  rw [matchStart?, numberToEnd, match?_seq] at h
  obtain ⟨c, blanks, rest, rfl, blank, behind⟩ := exists_run_of_many1 h
  rw [match?_seq] at behind
  obtain ⟨d, digits, rest, rfl, numeral, stop⟩ := exists_run_of_many1 behind
  cases rest with
  | cons e rest => cases stop
  | nil =>
    refine ⟨c :: blanks, d :: digits, by simp, by simp, blank, Text.isNumeral_iff.mpr ⟨by simp, numeral⟩⟩

/-- The search begins at the first of the blank characters before the number. -/
theorem search?_numberToEnd {left blanks digits : Text} (gap : blanks ≠ []) (blank : blanks.isAllBlank = true)
    (left_last : ∀ c ∈ left.getLast?, isBlank c = false) (numeral : digits.isNumeral = true) :
    numberToEnd.search? (left ++ (blanks ++ digits)) = some ⟨left, blanks ++ digits, [], []⟩ := by
  obtain ⟨filled, hdigits⟩ := Text.isNumeral_iff.mp numeral
  have hblanks : ∀ c ∈ blanks, isBlank c = true := List.all_eq_true.mp blank
  have number : Prefers (many1 Char.isDigit) digits [] [] := by
    have run := @Prefers.many1 _ digits [] filled hdigits nofun
    rwa [List.append_nil] at run
  have here : Prefers numberToEnd (blanks ++ digits) [] [] := by
    refine Prefers.seq (.many1 gap hblanks fun c first => ?_) (number.seq .atEnd)
    refine Bool.eq_false_iff.mpr fun white => ?_
    have digit := hdigits c (List.mem_of_head? first)
    rw [isDigit_eq_false_of_isBlank white] at digit
    cases digit
  have earlier : ∀ front more, left = front ++ more → more ≠ [] →
      numberToEnd.matchStart? (more ++ (blanks ++ digits)) = none := by
    intro front more split nonempty
    refine Option.eq_none_iff_forall_ne_some.mpr fun m found => ?_
    obtain ⟨blanks', digits', whole, -, blank', numeral'⟩ := exists_numeral_of_numberToEnd found
    obtain ⟨d, last⟩ := Option.isSome_iff_exists.mp (List.getLast?_isSome.mpr nonempty)
    have solid := left_last d (by rw [split, List.getLast?_append, last]; rfl)
    -- Neither can the last character before the blank ones be blank, nor can these be digits.
    rcases List.append_eq_append_iff.mp whole with ⟨between, rfl, -⟩ | ⟨between, rfl, rest⟩
    · rw [blank' d (List.mem_append_left between (List.mem_of_getLast? last))] at solid
      cases solid
    · obtain ⟨c, inside⟩ := List.exists_mem_of_ne_nil blanks gap
      have number := (Text.isNumeral_iff.mp numeral').2 c (by rw [rest]; simp [inside])
      rw [isDigit_eq_false_of_isBlank (hblanks c inside)] at number
      cases number
  rw [search?_append here.matchStart?_eq earlier]
  simp [Match.found]

/-- Without a number behind a blank character nothing is found. -/
theorem search?_numberToEnd_eq_none {name : Text} (h : name.endsInNumber = false) : numberToEnd.search? name = none := by
  refine search?_eq_none fun s suffix => Option.eq_none_iff_forall_ne_some.mpr fun m found => ?_
  obtain ⟨blanks, digits, rfl, gap, blank, numeral⟩ := exists_numeral_of_numberToEnd found
  obtain ⟨front, rfl⟩ := suffix
  obtain ⟨before, c, rfl⟩ := (List.eq_nil_or_concat blanks).resolve_left gap
  have ends := @Text.endsInNumber_of_append (front ++ before) digits c (blank c (by simp)) numeral
  have whole : front ++ (before.concat c ++ digits) = front ++ before ++ c :: digits := by simp
  rw [← whole, h] at ends
  cases ends

/-- On any name a search finds what the pattern that is read from right to left matches, and what it leaves of the
name is what is left of it there. -/
theorem number_cut_alike (name : Text) :
    trailingNumber.matchEnd? name = (numberToEnd.search? name).map Found.atEnd ∧
      trailingNumber.eraseEnd name = numberToEnd.eraseFirst name := by
  have alike : trailingNumber.matchEnd? name = (numberToEnd.search? name).map Found.atEnd := by
    cases ends : name.endsInNumber with
    | false => rw [matchEnd?_trailingNumber_eq_none ends, search?_numberToEnd_eq_none ends, Option.map_none]
    | true =>
      obtain ⟨left, blanks, digits, rfl, gap, blank, left_last, numeral⟩ := exists_left_of_endsInNumber ends
      rw [matchEnd?_trailingNumber gap blank left_last numeral, search?_numberToEnd gap blank left_last numeral]
      rfl
  exact ⟨alike, eraseEnd_eq_eraseFirst alike⟩

/-- Of two numbers the last one is erased. -/
example : numberToEnd.eraseFirst "f 12 \t3".toList = "f 12".toList := by decide

end Row

end CoverageNote
