import CoverageNote.Report.Row
import Mathlib.Data.List.Infix

/-!
# Reports as they are written

A report has a line for each function (`FunctionLine`), and there may be blank lines and lines with a total
between them (`ReportLine`). `Row.ofReport_reportText` says that reading such a report gives back its rows :
one for each line of a function, in order, with the file, the function and the percentage as they are
written.

The parts of a line can hold almost anything : digits, points and percent signs, and in the name of the
function blanks and colons too. What they must not hold, so that each pattern stops where its part ends, is
listed in `FunctionLine.Proper`.
-/

namespace CoverageNote

/-! ## Lines -/

namespace Text

/-- At least one digit, and nothing else. -/
def isNumeral (t : Text) : Bool :=
  !t.isEmpty && t.all Char.isDigit

/-- Digits, or digits with a point and more digits. -/
def isDecimal (t : Text) : Bool :=
  t.isNumeral ||
    match t.cut? '.' with
    | some (whole, part) => isNumeral whole && isNumeral part
    | none => false

/-- Whether the text ends in a number with a blank character before it. -/
def endsInNumber (t : Text) : Bool :=
  t.tails.any fun
    | c :: digits => isBlank c && isNumeral digits
    | [] => false

end Text

/-- The line of a function, by its parts. -/
structure FunctionLine where
  file : Text
  /-- The number of the line in the file, if it is given. -/
  number : Option Text
  /-- What stands before the function. -/
  gap : Text
  function : Text
  /-- What stands before the percentage. -/
  space : Text
  /-- The percentage without its sign. -/
  coverage : Text
deriving Repr, DecidableEq

namespace FunctionLine

/-- The line number with its colon. -/
def numberText (l : FunctionLine) : Text :=
  match l.number with
  | some n => n ++ [':']
  | none => []

/-- The line up to its percentage. -/
def left (l : FunctionLine) : Text :=
  l.file ++ ':' :: (l.numberText ++ (l.gap ++ l.function))

/-- The line as it is written. -/
def text (l : FunctionLine) : Text :=
  l.left ++ (l.space ++ l.coverage ++ ['%'])

/-- What the line says. -/
def row (l : FunctionLine) : Row :=
  ⟨l.file, l.function, l.coverage ++ ['%']⟩

/-- The parts of the line are what they stand for. -/
structure Proper (l : FunctionLine) : Prop where
  file_ne_nil : l.file ≠ []
  file_line : '\n' ∉ l.file
  file_colon : ':' ∉ l.file
  file_trimmed : l.file.IsTrimmed
  file_ne_total : l.file ≠ "total".toList
  number : ∀ n ∈ l.number, n.isNumeral = true
  gap_line : '\n' ∉ l.gap
  gap_blank : l.gap.isAllBlank = true
  gap_ne_nil : l.number = none → l.gap ≠ []
  function_ne_nil : l.function ≠ []
  function_line : '\n' ∉ l.function
  function_trimmed : l.function.IsTrimmed
  function_colon : l.function.getLast? ≠ some ':'
  function_number : l.function.endsInNumber = false
  space_line : '\n' ∉ l.space
  space_blank : l.space.isAllBlank = true
  space_ne_nil : l.space ≠ []
  coverage : l.coverage.isDecimal = true

end FunctionLine

/-! ## Numbers -/

namespace Text

theorem isNumeral_iff {t : Text} :
    t.isNumeral = true ↔ t ≠ [] ∧ ∀ c ∈ t, c.isDigit = true := by
  simp [isNumeral]

theorem isDecimal_iff {t : Text} :
    t.isDecimal = true ↔ t.isNumeral = true ∨
      ∃ whole part : Text,
        t = whole ++ '.' :: part ∧ whole.isNumeral = true ∧ part.isNumeral = true := by
  have point : ∀ whole : Text, whole.isNumeral = true → '.' ∉ whole := by
    intro whole h point
    exact absurd ((isNumeral_iff.mp h).2 _ point) (by decide)
  unfold isDecimal
  rw [Bool.or_eq_true]
  refine or_congr_right ⟨fun h => ?_, ?_⟩
  · split at h
    · next whole part cut =>
      rw [Bool.and_eq_true] at h
      exact ⟨whole, part, (cut?_eq_some_iff.mp cut).1, h⟩
    · cases h
  · rintro ⟨whole, part, rfl, hwhole, hpart⟩
    rw [cut?_eq_some_iff.mpr ⟨rfl, point whole hwhole⟩]
    simp [hwhole, hpart]

theorem isDecimal_cons {c : Char} {t : Text} (digit : c.isDigit = true) (h : t.isDecimal = true) :
    isDecimal (c :: t) = true := by
  have more : ∀ {n : Text}, n.isNumeral = true → isNumeral (c :: n) = true := by
    intro n hn
    rw [isNumeral_iff] at hn ⊢
    exact ⟨by simp, List.forall_mem_cons.mpr ⟨digit, hn.2⟩⟩
  rcases isDecimal_iff.mp h with numeral | ⟨whole, part, rfl, hwhole, hpart⟩
  · exact isDecimal_iff.mpr (.inl (more numeral))
  · exact isDecimal_iff.mpr (.inr ⟨c :: whole, part, rfl, more hwhole, hpart⟩)

theorem isDecimal_point {c : Char} {t : Text} (digit : c.isDigit = true) (h : t.isNumeral = true) :
    isDecimal (c :: '.' :: t) = true :=
  isDecimal_iff.mpr (.inr ⟨[c], t, rfl, by simp [isNumeral, digit], h⟩)

theorem endsInNumber_of_append {before digits : Text} {c : Char} (hc : isBlank c = true)
    (hd : digits.isNumeral = true) : endsInNumber (before ++ c :: digits) = true := by
  refine List.any_eq_true.mpr ⟨c :: digits, (List.mem_tails _ _).mpr ⟨before, rfl⟩, ?_⟩
  simp [hc, hd]

theorem exists_of_endsInNumber {t : Text} (h : t.endsInNumber = true) :
    ∃ before c, ∃ digits : Text,
      t = before ++ c :: digits ∧ isBlank c = true ∧ digits.isNumeral = true := by
  obtain ⟨part, suffix, fit⟩ := List.any_eq_true.mp h
  obtain ⟨before, rfl⟩ := (List.mem_tails _ _).mp suffix
  cases part with
  | nil => cases fit
  | cons c digits =>
    rw [Bool.and_eq_true] at fit
    exact ⟨before, c, digits, rfl, fit⟩

end Text

/-! ## The patterns on a line -/

namespace Row

open Pattern

variable {left space coverage function rest : Text}

/-- The number of a percentage is taken as a whole, if nothing before it belongs to it. -/
theorem prefers_percentNumber (hcoverage : coverage.isDecimal = true)
    (stops : ∀ d ∈ rest.head?, d.isDigit = false)
    (apart : coverage.isNumeral = true → Fails (Pattern.char '.' ++ many1 Char.isDigit) rest) :
    Prefers percentNumber (coverage.reverse ++ rest) rest [] := by
  rcases Text.isDecimal_iff.mp hcoverage with numeral | ⟨whole, part, rfl, hwhole, hpart⟩
  · obtain ⟨hne, digits⟩ := Text.isNumeral_iff.mp numeral
    exact .seq (.many1 (by simpa using hne) (by simpa using digits) stops) (.absent (apart numeral))
  · obtain ⟨hwne, wholeDigits⟩ := Text.isNumeral_iff.mp hwhole
    obtain ⟨hpne, partDigits⟩ := Text.isNumeral_iff.mp hpart
    have reversed : (whole ++ '.' :: part).reverse ++ rest =
        part.reverse ++ '.' :: (whole.reverse ++ rest) := by simp
    rw [reversed]
    exact .seq (.many1 (by simpa using hpne) (by simpa using partDigits) (by simp))
      (.present (.seq (.char '.' _)
        (.many1 (by simpa using hwne) (by simpa using wholeDigits) stops)))

/-- A number is taken as a whole behind anything that is neither a digit nor a point. -/
theorem prefers_percentNumber_of_apart (hcoverage : coverage.isDecimal = true)
    (apart : ∀ d ∈ rest.head?, d.isDigit = false ∧ d ≠ '.') :
    Prefers percentNumber (coverage.reverse ++ rest) rest [] := by
  refine prefers_percentNumber hcoverage (fun d hd => (apart d hd).1) fun _ => ?_
  exact (Fails.one (by simpa using fun d hd => (apart d hd).2)).seq _

/-- A blank character does not belong to the number behind it. -/
theorem isApart_of_isBlank {c : Char} (hc : isBlank c = true) : c.isDigit = false ∧ c ≠ '.' := by
  refine ⟨isDigit_eq_false_of_isBlank hc, ?_⟩
  rintro rfl
  exact absurd hc (by decide)

/-- The percent sign at the end of a line. -/
theorem prefers_percentSign (rest : Text) :
    Prefers (many isBlank ++ Pattern.char '%') ('%' :: rest) rest [] := by
  refine .seq (.many_nil ?_) (.char '%' rest)
  rintro _ ⟨⟩
  decide

section Percentage

variable {before : Text}
  (number : Prefers percentNumber (coverage.reverse ++ before.reverse) before.reverse [])
include number

/-- A percentage is found at the end of a line. -/
theorem matchEnd?_trailingPercent :
    trailingPercent.matchEnd? (before ++ (coverage ++ ['%'])) =
      some ⟨coverage ++ ['%'], [coverage], before⟩ := by
  -- The end of a line is read from right to left, so the sign comes first and then the number.
  have found : Prefers trailingPercent _ _ _ := (prefers_percentSign _).seq number.group
  rw [Prefers.matchEnd?_eq (by simpa using found)]
  simp

/-- It is found with all blank characters before it. -/
theorem matchEnd?_spacedPercent {left blanks : Text} (split : before = left ++ blanks)
    (blank : blanks.isAllBlank = true) (ending : ∀ c ∈ left.getLast?, isBlank c = false) :
    spacedPercent.matchEnd? (left ++ (blanks ++ (coverage ++ ['%']))) =
      some ⟨blanks ++ (coverage ++ ['%']), [], left⟩ := by
  have passed : Prefers (many isBlank) before.reverse left.reverse [] := by
    have reversed : ∀ c ∈ blanks.reverse, isBlank c = true := by simpa [Text.isAllBlank] using blank
    have stops : ∀ c ∈ left.reverse.head?, isBlank c = false := by simpa using ending
    have run := Prefers.many reversed stops
    rwa [← List.reverse_append, ← split] at run
  have found : Prefers spacedPercent _ _ _ := ((prefers_percentSign _).seq number).seq passed
  have turned : (blanks ++ (coverage ++ ['%'])).reverse ++ left.reverse =
      '%' :: (coverage.reverse ++ before.reverse) := by
    rw [split]
    simp
  rw [Prefers.matchEnd?_eq (turned ▸ found)]
  rfl

/-- It is taken away with all blank characters before it. -/
theorem eraseEnd_spacedPercent :
    spacedPercent.eraseEnd (before ++ (coverage ++ ['%'])) = before.trimEnd := by
  obtain ⟨blanks, split, blank⟩ := before.exists_trimEnd_append
  have whole : before ++ (coverage ++ ['%']) = before.trimEnd ++ (blanks ++ (coverage ++ ['%'])) := by
    conv_lhs => rw [split]
    rw [List.append_assoc]
  rw [eraseEnd, whole, matchEnd?_spacedPercent number split blank before.isBlank_getLast?_trimEnd]

end Percentage

/-- Without a blank character before it a number at the end of the function's name is not matched. -/
theorem matchEnd?_trailingNumber_eq_none (h : function.endsInNumber = false) :
    trailingNumber.matchEnd? function = none := by
  rw [matchEnd?, Option.map_eq_none_iff, Option.eq_none_iff_forall_ne_some]
  intro m hm
  rw [matchStart?, trailingNumber, match?_seq] at hm
  obtain ⟨d, digits, rest, split, hdigits, hm⟩ := exists_run_of_many1 hm
  obtain ⟨c, blanks, rest', rfl, hblanks, -⟩ := exists_run_of_many1 hm
  have ends : Text.endsInNumber (rest'.reverse ++ blanks.reverse ++ c :: (d :: digits).reverse) =
      true :=
    Text.endsInNumber_of_append (hblanks c List.mem_cons_self)
      (Text.isNumeral_iff.mpr ⟨by simp, fun e he => hdigits e (List.mem_reverse.mp he)⟩)
  have whole : function = rest'.reverse ++ blanks.reverse ++ c :: (d :: digits).reverse := by
    rw [← List.reverse_reverse function, split]
    simp
  rw [← whole, h] at ends
  cases ends

/-- It is left there. -/
theorem eraseEnd_trailingNumber (h : function.endsInNumber = false) :
    trailingNumber.eraseEnd function = function := by
  rw [eraseEnd, matchEnd?_trailingNumber_eq_none h]

/-- A number at the end of the function's name is matched with all blank characters before it. -/
theorem matchEnd?_trailingNumber {left blanks digits : Text} (gap : blanks ≠ []) (blank : blanks.isAllBlank = true)
    (left_last : ∀ c ∈ left.getLast?, isBlank c = false) (numeral : digits.isNumeral = true) :
    trailingNumber.matchEnd? (left ++ (blanks ++ digits)) = some ⟨blanks ++ digits, [], left⟩ := by
  obtain ⟨ne, hdigits⟩ := Text.isNumeral_iff.mp numeral
  have hblanks : ∀ c ∈ blanks.reverse, isBlank c = true := by simpa [Text.isAllBlank] using blank
  have stops : ∀ c ∈ (blanks.reverse ++ left.reverse).head?, c.isDigit = false := by
    obtain ⟨c, rest, turned⟩ := List.exists_cons_of_ne_nil (List.reverse_ne_nil_iff.mpr gap)
    rw [turned]
    rintro _ ⟨⟩
    exact isDigit_eq_false_of_isBlank (hblanks c (by simp [turned]))
  have number : Prefers (many1 Char.isDigit) (digits.reverse ++ (blanks.reverse ++ left.reverse))
      (blanks.reverse ++ left.reverse) [] := .many1 (by simpa using ne) (by simpa using hdigits) stops
  have passed : Prefers (many1 isBlank) (blanks.reverse ++ left.reverse) left.reverse [] :=
    .many1 (by simpa using gap) hblanks (by simpa using left_last)
  have found : Prefers trailingNumber ((blanks ++ digits).reverse ++ left.reverse) left.reverse [] := by
    have both := number.seq passed
    rwa [← List.append_assoc, ← List.reverse_append] at both
  exact found.matchEnd?_eq

/-- The name of a function is kept if it ends neither in a number behind a blank character nor in a
colon. -/
theorem bareFunction_eq_self (hnumber : function.endsInNumber = false)
    (hcolon : function.getLast? ≠ some ':') : bareFunction function = function := by
  have noColon : function.dropTail? [':'] = none := by
    rw [Option.eq_none_iff_forall_ne_some]
    intro u hu
    rw [← Text.dropTail?_eq_some_iff.mp hu] at hcolon
    simp at hcolon
  rw [bareFunction, eraseEnd_trailingNumber hnumber, noColon]
  rfl

end Row

/-! ## Reading a line -/

/-- A line is taken for the one with the total if the word stands before its first colon. -/
theorem Row.totalHead_isPrefix_iff {file : Text} (colon : ':' ∉ file) (rest : Text) :
    Row.totalHead <+: file ++ ':' :: rest ↔ file = "total".toList := by
  constructor
  · rintro ⟨behind, split⟩
    have cut : (file ++ ':' :: rest).cut? ':' = some (file, rest) :=
      Text.cut?_eq_some_iff.mpr ⟨rfl, colon⟩
    have total : (file ++ ':' :: rest).cut? ':' = some ("total".toList, behind) :=
      Text.cut?_eq_some_iff.mpr ⟨split.symm, by decide⟩
    rw [cut, Option.some.injEq, Prod.mk.injEq] at total
    exact total.1
  · rintro rfl
    exact ⟨rest, rfl⟩

namespace FunctionLine

open Pattern

variable {l : FunctionLine}

/-- The line number is passed over, if there is one. -/
theorem Proper.prefers_number (h : l.Proper) :
    Prefers (maybe (many1 Char.isDigit ++ Pattern.char ':')) (l.numberText ++ (l.gap ++ l.function))
      (l.gap ++ l.function) [] := by
  unfold numberText
  cases number : l.number with
  | some n =>
    obtain ⟨hne, digits⟩ := Text.isNumeral_iff.mp (h.number n number)
    rw [List.append_assoc]
    exact .present (.seq (.many1 hne digits (by simp)) (.char ':' _))
  | none =>
    obtain ⟨c, gap, hgap⟩ := List.exists_cons_of_ne_nil (h.gap_ne_nil number)
    have hc : isBlank c = true :=
      List.all_eq_true.mp h.gap_blank c (hgap ▸ List.mem_cons_self)
    rw [List.nil_append, hgap]
    exact .absent ((Fails.many1 (by simp [isDigit_eq_false_of_isBlank hc])).seq _)

theorem Proper.names_left (h : l.Proper) : Row.names l.left = (l.file, l.function) := by
  have inLine : ∀ {t : Text}, '\n' ∉ t → ∀ c ∈ t, Row.isInLine c = true := by
    intro t ht c hc
    have : c ≠ '\n' := by
      rintro rfl
      exact ht hc
    simpa [Row.isInLine] using this
  have file : Prefers (group (few1 Row.isInLine) ++ Pattern.char ':') l.left _ _ :=
    .few1_char h.file_ne_nil (inLine h.file_line) (mt List.mem_of_mem_tail h.file_colon) _
  have gap : Prefers (many isBlank) (l.gap ++ l.function) l.function [] :=
    .many (by simpa [Text.isAllBlank] using h.gap_blank) h.function_trimmed.head
  have function : Prefers (many1 Row.isInLine) (l.function ++ []) [] [] :=
    .many1 h.function_ne_nil (inLine h.function_line) (by simp)
  rw [List.append_nil] at function
  have found : Prefers Row.fileAndFunction l.left [] _ :=
    (((file.seq h.prefers_number).seq gap).seq function.group).seq .atEnd
  rw [Row.names, found.matchStart?_eq]
  simp [h.file_trimmed.trim_eq, h.function_trimmed.trim_eq]

theorem Proper.left_trimmed (h : l.Proper) : l.left.IsTrimmed where
  head := by
    obtain ⟨c, file, hfile⟩ := List.exists_cons_of_ne_nil h.file_ne_nil
    have := h.file_trimmed.head
    simpa [left, hfile] using this
  last := by
    have last : l.left.getLast? = l.function.getLast? := by
      obtain ⟨c, function, hfunction⟩ := List.exists_cons_of_ne_nil h.function_ne_nil
      simp [left, hfunction, List.getLast?_append, List.getLast?_cons]
    rw [last]
    exact h.function_trimmed.last

theorem Proper.text_trimmed (h : l.Proper) : l.text.IsTrimmed where
  head := by
    obtain ⟨c, file, hfile⟩ := List.exists_cons_of_ne_nil h.file_ne_nil
    have := h.file_trimmed.head
    simpa [text, left, hfile] using this
  last := by
    have last : l.text.getLast? = some '%' := by simp [text]
    rw [last]
    rintro _ ⟨⟩
    decide

/-- The line is not taken for one with a total, because its first colon is behind the file. -/
theorem Proper.not_totalHead_prefix (h : l.Proper) : ¬Row.totalHead <+: l.text := by
  rw [text, left, List.append_assoc, List.cons_append, Row.totalHead_isPrefix_iff h.file_colon]
  exact h.file_ne_total

/-- The line of a function is read as it was written. -/
theorem Proper.ofLine?_text (h : l.Proper) : Row.ofLine? l.text = some l.row := by
  obtain ⟨c, space, hspace⟩ :=
    List.exists_cons_of_ne_nil (mt List.reverse_eq_nil_iff.mp h.space_ne_nil)
  have blank : ∀ d ∈ c :: space, isBlank d = true := by
    rw [← hspace]
    simpa [Text.isAllBlank] using h.space_blank
  have reversed : l.space = (c :: space).reverse := by rw [← hspace, List.reverse_reverse]
  have before : l.text = (l.left ++ l.space) ++ (l.coverage ++ ['%']) := by simp [text]
  have number : Prefers Row.percentNumber (l.coverage.reverse ++ (l.left ++ l.space).reverse)
      (l.left ++ l.space).reverse [] := by
    rw [reversed, List.reverse_append, List.reverse_reverse]
    refine Row.prefers_percentNumber_of_apart h.coverage ?_
    rintro _ ⟨⟩
    exact Row.isApart_of_isBlank (blank c List.mem_cons_self)
  have percent : Row.trailingPercent.matchEnd? l.text =
      some ⟨l.coverage ++ ['%'], [l.coverage], l.left ++ l.space⟩ := by
    rw [before, Row.matchEnd?_trailingPercent number]
  have erased : Row.spacedPercent.eraseEnd l.text = l.left := by
    rw [before, Row.eraseEnd_spacedPercent number, Text.trimEnd_append_of_isAllBlank _ h.space_blank,
      Text.trimEnd_eq_self h.left_trimmed.last]
  have isRow : (l.text.isEmpty || Row.totalHead.isPrefixOf l.text || !l.text.contains '%') =
      false := by
    have total : Row.totalHead.isPrefixOf l.text = false := by
      simpa [← List.isPrefixOf_iff_prefix] using h.not_totalHead_prefix
    have sign : l.text.contains '%' = true := by simp [text]
    have nonempty : l.text.isEmpty = false := by simp [text]
    rw [nonempty, total, sign]
    rfl
  rw [Row.ofLine?, h.text_trimmed.trim_eq, isRow, percent, erased, h.left_trimmed.trim_eq,
    h.names_left]
  simp [Row.bareFunction_eq_self h.function_number h.function_colon, h.file_ne_nil,
    h.function_ne_nil, row]

theorem Proper.text_line (h : l.Proper) : '\n' ∉ l.text := by
  have numeral : ∀ n : Text, n.isNumeral = true → '\n' ∉ n := fun n hn hc =>
    absurd ((Text.isNumeral_iff.mp hn).2 _ hc) (by decide)
  have number : '\n' ∉ l.numberText := by
    unfold numberText
    cases hn : l.number with
    | some n => simpa using numeral n (h.number n hn)
    | none => simp
  have coverage : '\n' ∉ l.coverage := by
    rcases Text.isDecimal_iff.mp h.coverage with hc | ⟨whole, part, hc, hwhole, hpart⟩
    · exact numeral _ hc
    · simpa [hc] using ⟨numeral _ hwhole, numeral _ hpart⟩
  simpa [text, left] using ⟨h.file_line, number, h.gap_line, h.function_line, h.space_line, coverage⟩

end FunctionLine

/-! ## Reading a report -/

/-- A line of a report : that of a function, a blank one, or one with a total, by what stands behind the
word. -/
inductive ReportLine where
  | function (l : FunctionLine)
  | blank (t : Text)
  | total (t : Text)
deriving Repr, DecidableEq

/-- What ends a line : a line feed, with or without a carriage return before it. -/
inductive LineEnd where
  | feed
  | returnFeed
deriving Repr, DecidableEq

/-- The line end as it is written. -/
def LineEnd.text : LineEnd → Text
  | feed => ['\n']
  | returnFeed => ['\r', '\n']

namespace ReportLine

/-- The line as it is written. -/
def text : ReportLine → Text
  | function l => l.text
  | blank t => t
  | total t => Row.totalHead ++ t

/-- What the line says of a function. -/
def row? : ReportLine → Option Row
  | function l => some l.row
  | blank _ => none
  | total _ => none

/-- The line is what it stands for, and is one line. -/
def Proper : ReportLine → Prop
  | function l => l.Proper
  | blank t => '\n' ∉ t ∧ t.isAllBlank = true
  | total t => '\n' ∉ t

end ReportLine

/-- The text of a report : its lines with their ends, and a last line that may have none. -/
def reportText (ended : List (ReportLine × LineEnd)) (last : Option ReportLine) : Text :=
  ended.flatMap (fun l => l.1.text ++ l.2.text) ++ (last.map ReportLine.text).getD []

namespace Row

/-- A line is read without the blank characters around it. -/
theorem ofLine?_eq_of_trim_eq {s t : Text} (h : s.trim = t.trim) : ofLine? s = ofLine? t := by
  rw [ofLine?, ofLine?, h]

theorem ofLine?_dropReturn (t : Text) : ofLine? t.dropReturn = ofLine? t := by
  rcases t.dropReturn_cases with back | ⟨same, -⟩
  · have blank := Text.trim_append_of_isAllBlank t.dropReturn (show Text.isAllBlank ['\r'] = true by decide)
    rw [← back] at blank
    exact ofLine?_eq_of_trim_eq blank.symm
  · rw [← same]

/-- The rows of a report are those between its line feeds : carriage returns make no difference, and an empty
last line has no row. -/
theorem ofReport_eq_filterMap_fields (t : Text) : ofReport t = (t.fields '\n').filterMap ofLine? := by
  obtain ⟨parts, last, hparts⟩ : ∃ parts last, t.fields '\n' = parts ++ [last] :=
    (List.eq_nil_or_concat _).resolve_left (Text.fields_ne_nil _ _) |>.imp fun _ h => by simpa using h
  have ended : (parts.map Text.dropReturn).filterMap ofLine? = parts.filterMap ofLine? := by
    rw [List.filterMap_map]
    exact congrArg (List.filterMap · parts) (funext ofLine?_dropReturn)
  unfold ofReport Text.lines
  simp only [hparts, List.dropLast_concat, List.getLast?_concat]
  cases last with
  | nil =>
    have none : [[]].filterMap ofLine? = [] := rfl
    rw [ended, List.filterMap_append, none, List.append_nil]
  | cons c last => rw [List.filterMap_append, List.filterMap_append, ended]

/-- A report of one line. -/
theorem ofReport_line {line : Text} (h : '\n' ∉ line) : ofReport line = (ofLine? line).toList := by
  rw [ofReport_eq_filterMap_fields, Text.fields_eq_singleton h]
  cases read : ofLine? line <;> simp [read]

/-- The rows of a report are those of its lines. -/
theorem ofReport_append (first rest : Text) :
    ofReport (first ++ '\n' :: rest) = ofReport first ++ ofReport rest := by
  simp only [ofReport_eq_filterMap_fields, Text.fields_append, List.filterMap_append]

/-- A line is read the same whatever ends it. -/
theorem ofReport_line_append {line : Text} (h : '\n' ∉ line) (e : LineEnd) (rest : Text) :
    ofReport (line ++ e.text ++ rest) = (ofLine? line).toList ++ ofReport rest := by
  cases e with
  | feed => rw [LineEnd.text, List.append_assoc, List.singleton_append, ofReport_append, ofReport_line h]
  | returnFeed =>
    have whole : '\n' ∉ line ++ ['\r'] := by simpa using h
    have returned : ofLine? (line ++ ['\r']) = ofLine? line :=
      ofLine?_eq_of_trim_eq (Text.trim_append_of_isAllBlank line (by decide))
    have split : line ++ LineEnd.returnFeed.text ++ rest = line ++ ['\r'] ++ '\n' :: rest := by
      simp [LineEnd.text]
    rw [split, ofReport_append, ofReport_line whole, returned]

end Row

namespace ReportLine

theorem Proper.text_line {l : ReportLine} (h : l.Proper) : '\n' ∉ l.text := by
  cases l with
  | function l => exact FunctionLine.Proper.text_line h
  | blank t => exact h.1
  | total t =>
    have head : '\n' ∉ Row.totalHead := by decide
    simpa [text] using ⟨head, h⟩

/-- Each line is read as what it stands for. -/
theorem Proper.ofLine?_text {l : ReportLine} (h : l.Proper) : Row.ofLine? l.text = l.row? := by
  cases l with
  | function l => exact FunctionLine.Proper.ofLine?_text h
  | blank t => exact Row.ofLine?_eq_of_trim_eq (Text.trim_append_of_isAllBlank [] h.2)
  | total t =>
    have trimmed : Row.totalHead.IsTrimmed := by decide
    have head : Row.totalHead.isPrefixOf (Row.totalHead ++ t.trimEnd) = true :=
      List.isPrefixOf_iff_prefix.mpr (List.prefix_append _ _)
    rw [text, Row.ofLine?, trimmed.trim_append (by decide), head]
    simp [row?]

end ReportLine

namespace Row

/-- A report is read as it was written : a row for each line of a function, in order, and no other. -/
theorem ofReport_reportText {ended : List (ReportLine × LineEnd)} {last : Option ReportLine}
    (proper : ∀ l ∈ ended.map Prod.fst ++ last.toList, l.Proper) :
    ofReport (reportText ended last) =
      (ended.map Prod.fst ++ last.toList).filterMap ReportLine.row? := by
  induction ended with
  | nil =>
    cases last with
    | none => rfl
    | some l =>
      have h : l.Proper := proper l (by simp)
      show ofReport l.text = [l].filterMap ReportLine.row?
      rw [ofReport_line h.text_line, h.ofLine?_text]
      cases found : l.row? <;> simp [found]
  | cons first ended ih =>
    have h : first.1.Proper := proper first.1 (by simp)
    have rest := ih fun l hl => proper l (List.mem_cons_of_mem _ hl)
    have split : reportText (first :: ended) last =
        first.1.text ++ first.2.text ++ reportText ended last := by simp [reportText]
    rw [split, ofReport_line_append h.text_line, h.ofLine?_text, rest]
    cases found : first.1.row? <;> simp [found]

/-- Two functions, of which one has no line number, between lines that say nothing of functions. The names
hold whatever the patterns look for, in places where it does not count. -/
theorem ofReport_reportText_mixed :
    let first : FunctionLine := ⟨"pkg/1 50% ü.go".toList, some "42".toList, "\t\r".toList,
      "7:(*T).f 3.5%: x9".toList, "\u2003 ".toList, "87.5".toList⟩
    let second : FunctionLine :=
      ⟨"totals".toList, none, " ".toList, "8:g".toList, "\t".toList, "0".toList⟩
    let ended : List (ReportLine × LineEnd) := [(.blank " \r".toList, .feed),
      (.function first, .returnFeed), (.total " 81.2%".toList, .returnFeed)]
    let last : Option ReportLine := some (.function second)
    (∀ l ∈ ended.map Prod.fst ++ last.toList, l.Proper) ∧
      ofReport (reportText ended last) =
        [⟨"pkg/1 50% ü.go".toList, "7:(*T).f 3.5%: x9".toList, "87.5%".toList⟩,
          ⟨"totals".toList, "8:g".toList, "0%".toList⟩] := by
  intro first second ended last
  have hfirst : first.Proper := by constructor <;> decide
  have hsecond : second.Proper := by constructor <;> decide
  have proper : ∀ l ∈ ended.map Prod.fst ++ last.toList, l.Proper := by
    intro l hl
    simp only [ended, last, List.map_cons, List.map_nil, Option.toList_some, List.cons_append,
      List.nil_append, List.mem_cons, List.not_mem_nil, or_false] at hl
    rcases hl with rfl | rfl | rfl | rfl
    · exact ⟨by decide, by decide⟩
    · exact hfirst
    · show '\n' ∉ " 81.2%".toList
      decide
    · exact hsecond
  exact ⟨proper, ofReport_reportText proper⟩

end Row

end CoverageNote
