import CoverageNote.Proofs.Report
import Mathlib.Data.List.TakeWhile

/-!
# The grammar of a line

`Row.ofLine?` reads a line of a report by patterns, which can match in many ways. `Row.scan?` reads it without
them : it looks for the longest percentage at the end of the line, for the first colon behind the first
character of what is left, and for the numbers and the colon that are dropped around the function's name.

Each pattern is met by one of these searches : the first way to match a percentage takes the longest one
(`Row.prefers_percentNumber_of_longest`), and a line number is passed over exactly if something stands behind
it (`Row.dropLineNumber_cases`). `Row.ofLine?_eq_scan?` says that on every line both read the same, and
that a line without the usual form of file and function has no row.
-/

namespace CoverageNote.Row

open Pattern

/-! ## The scan -/

/-- A number with a percent sign behind it. -/
def isPercentage (t : Text) : Bool :=
  (t.dropTail? ['%']).any Text.isDecimal

/-- What stands before the longest percentage at the end of a text, and the percentage. -/
def cutPercentage? : Text → Option (Text × Text)
  | [] => none
  | c :: t =>
    if isPercentage (c :: t) then some ([], c :: t)
    else (cutPercentage? t).map fun p => (c :: p.1, p.2)

/-- The parts before and behind the first colon that is not the first character. -/
def cutFile? : Text → Option (Text × Text)
  | [] => none
  | c :: t => (Text.cut? ':' t).map fun p => (c :: p.1, p.2)

/-- The text without a line number and its colon at the start, unless nothing stands behind them. -/
def dropLineNumber (t : Text) : Text :=
  match t.cut? ':' with
  | some (number, rest) => if number.isNumeral && !rest.isEmpty then rest else t
  | none => t

/-- The text without a number at the end and the blank characters before it, if there are any. -/
def dropNumber (t : Text) : Text :=
  if t.endsInNumber then (t.dropEndWhile Char.isDigit).trimEnd else t

/-- The text without a colon at the end. -/
def dropColon (t : Text) : Text :=
  (t.dropTail? [':']).getD t

/-- Read what stands before the percentage of a line by a scan. -/
def scanNames? (left percent : Text) : Option Row :=
  (cutFile? left).bind fun (file, rest) =>
    let function := dropColon (dropNumber (dropLineNumber rest).trim)
    if rest.isEmpty || function.isEmpty then none else some ⟨file.trim, function, percent⟩

/-- Read a line by a scan. -/
def scan? (raw : Text) : Option Row :=
  let line := raw.trim
  if totalHead.isPrefixOf line then none
  else (cutPercentage? line).bind fun (left, percent) => scanNames? left.trim percent

/-! ## The percentage -/

/-- A percentage is a decimal number with a sign behind it. -/
theorem isPercentage_iff {t : Text} :
    isPercentage t = true ↔ ∃ number : Text, t = number ++ ['%'] ∧ number.isDecimal = true := by
  simp only [isPercentage, Option.any_eq_true, Text.dropTail?_eq_some_iff]
  exact exists_congr fun number => and_congr_left' eq_comm

/-- A percentage holds digits, a point and a sign. -/
theorem isDigit_of_mem_percentage {percent : Text} (h : isPercentage percent = true) {c : Char} (inside : c ∈ percent) :
    c.isDigit = true ∨ c = '.' ∨ c = '%' := by
  obtain ⟨number, rfl, decimal⟩ := isPercentage_iff.mp h
  rcases List.mem_append.mp inside with digits | sign
  · rcases Text.isDecimal_iff.mp decimal with numeral | ⟨whole, part, rfl, hwhole, hpart⟩
    · exact .inl ((Text.isNumeral_iff.mp numeral).2 c digits)
    · rcases List.mem_append.mp digits with digits | digits
      · exact .inl ((Text.isNumeral_iff.mp hwhole).2 c digits)
      · rcases List.mem_cons.mp digits with point | digits
        · exact .inr (.inl point)
        · exact .inl ((Text.isNumeral_iff.mp hpart).2 c digits)
  · exact .inr (.inr (List.mem_singleton.mp sign))

theorem isBlank_of_mem_percentage {percent : Text} (h : isPercentage percent = true) {c : Char} (inside : c ∈ percent) :
    isBlank c = false := by
  refine Bool.eq_false_iff.mpr fun blank => ?_
  rcases isDigit_of_mem_percentage h inside with digit | rfl | rfl
  · rw [isDigit_eq_false_of_isBlank blank] at digit
    cases digit
  · exact absurd blank (by decide)
  · exact absurd blank (by decide)

/-- If no percentage is cut off, no end of the text is one. -/
theorem cutPercentage?_eq_none {t q : Text} (h : cutPercentage? t = none) (suffix : q <:+ t) :
    isPercentage q = false := by
  induction t with
  | nil =>
    rw [List.suffix_nil.mp suffix]
    rfl
  | cons c t ih =>
    rw [cutPercentage?] at h
    split at h
    · cases h
    next whole =>
    rcases List.suffix_cons_iff.mp suffix with rfl | suffix
    · simpa using whole
    · exact ih (Option.map_eq_none_iff.mp h) suffix

/-- The percentage that is cut off is the longest one. -/
theorem cutPercentage?_eq_some {t left percent : Text} (h : cutPercentage? t = some (left, percent)) :
    t = left ++ percent ∧ isPercentage percent = true ∧
      ∀ q, q <:+ t → isPercentage q = true → q.length ≤ percent.length := by
  induction t generalizing left with
  | nil => cases h
  | cons c t ih =>
    rw [cutPercentage?] at h
    split at h
    · next whole =>
      cases h
      exact ⟨rfl, whole, fun q suffix _ => suffix.length_le⟩
    next whole =>
    obtain ⟨⟨left, percent⟩, found, same⟩ := Option.map_eq_some_iff.mp h
    cases same
    obtain ⟨rfl, fit, longest⟩ := ih found
    refine ⟨rfl, fit, fun q suffix percentage => ?_⟩
    rcases List.suffix_cons_iff.mp suffix with rfl | suffix
    · exact absurd percentage whole
    · exact longest q suffix percentage

section Longest

variable {before number : Text} (decimal : number.isDecimal = true)
  (longest : ∀ q, q <:+ before ++ (number ++ ['%']) → isPercentage q = true →
    q.length ≤ (number ++ ['%']).length)
include longest

/-- Nothing that stands before the longest number makes a longer one. -/
theorem not_isDecimal_of_longest {front more : Text} (split : before = front ++ more) (ne : more ≠ []) :
    Text.isDecimal (more ++ number) = false := by
  refine Bool.eq_false_iff.mpr fun h => ?_
  have suffix : more ++ number ++ ['%'] <:+ before ++ (number ++ ['%']) := ⟨front, by simp [split]⟩
  have short := longest _ suffix (isPercentage_iff.mpr ⟨_, rfl, h⟩)
  have := List.length_pos_iff.mpr ne
  simp only [List.length_append] at short
  omega

include decimal

/-- The first way to match a number is the longest number. -/
theorem prefers_percentNumber_of_longest :
    Prefers percentNumber (number.reverse ++ before.reverse) before.reverse [] := by
  refine prefers_percentNumber decimal (fun d hd => ?_) fun numeral => ?_
  · rw [List.head?_reverse] at hd
    obtain ⟨front, split⟩ := List.getLast?_eq_some_iff.mp hd
    have short := not_isDecimal_of_longest longest split (by simp)
    exact Bool.eq_false_iff.mpr fun digit => by simp [Text.isDecimal_cons digit decimal] at short
  · cases reversed : before.reverse with
    | nil => exact (Fails.one (by simp)).seq _
    | cons c rest =>
      by_cases point : c = '.'
      · subst point
        refine .behind (.many1 fun d hd => Bool.eq_false_iff.mpr fun digit => ?_)
        obtain ⟨rest, rfl⟩ := List.head?_eq_some_iff.mp hd
        have split : before = rest.reverse ++ [d, '.'] := by
          rw [← List.reverse_reverse before, reversed]
          simp
        have short := not_isDecimal_of_longest longest split (by simp)
        simp [Text.isDecimal_point digit numeral] at short
      · exact (Fails.one (by simpa using point)).seq _

end Longest

/-- Where a sign and a number are matched at the end of a line, there is a percentage. -/
theorem exists_isPercentage_of_match? {line : Text} {β : Type} {b : β}
    {k : Text → List Span → Text → List Span → Option β} (ending : ∀ c ∈ line.getLast?, isBlank c = false)
    (h : ((many isBlank ++ Pattern.char '%').match? line.reverse fun r gs => percentNumber.match? r (k r gs)) =
      some b) : ∃ q, q <:+ line ∧ isPercentage q = true := by
  rw [match?_seq] at h
  obtain ⟨blanks, rest, split, blank, signed⟩ := exists_run_of_greedy h
  obtain ⟨rest, rfl, numbered⟩ := exists_rest_of_char signed
  rw [percentNumber, match?_seq] at numbered
  obtain ⟨d, digits, rest, rfl, hdigits, -⟩ := exists_run_of_many1 numbered
  have bare : blanks = [] := by
    cases blanks with
    | nil => rfl
    | cons b blanks =>
      have last : line.getLast? = some b := by
        rw [← List.head?_reverse, split]
        rfl
      have := blank b List.mem_cons_self
      rw [ending b last] at this
      cases this
  have numeral : Text.isNumeral (d :: digits).reverse = true :=
    Text.isNumeral_iff.mpr ⟨by simp, fun e he => hdigits e (List.mem_reverse.mp he)⟩
  refine ⟨(d :: digits).reverse ++ ['%'], ⟨rest.reverse, ?_⟩,
    isPercentage_iff.mpr ⟨_, rfl, Text.isDecimal_iff.mpr (.inl numeral)⟩⟩
  rw [← List.reverse_reverse line, split, bare]
  simp

section Absent

variable {line : Text} (ending : ∀ c ∈ line.getLast?, isBlank c = false)
  (absent : ∀ q, q <:+ line → isPercentage q = false)
include ending absent

/-- Without a percentage at the end of a line there is no match. -/
theorem matchEnd?_trailingPercent_eq_none : trailingPercent.matchEnd? line = none := by
  rw [matchEnd?, Option.map_eq_none_iff, Option.eq_none_iff_forall_ne_some]
  intro m hm
  rw [matchStart?, trailingPercent, match?_seq] at hm
  simp only [match?_group] at hm
  obtain ⟨q, suffix, percentage⟩ := exists_isPercentage_of_match? ending hm
  rw [absent q suffix] at percentage
  cases percentage

theorem matchEnd?_spacedPercent_eq_none : spacedPercent.matchEnd? line = none := by
  rw [matchEnd?, Option.map_eq_none_iff, Option.eq_none_iff_forall_ne_some]
  intro m hm
  rw [matchStart?, spacedPercent, match?_seq_seq, match?_seq] at hm
  simp only [match?_seq percentNumber] at hm
  obtain ⟨q, suffix, percentage⟩ := exists_isPercentage_of_match? ending hm
  rw [absent q suffix] at percentage
  cases percentage

end Absent

/-! ## The file and the function -/

/-- The line number of a function with its colon. -/
def lineNumber : Pattern :=
  many1 Char.isDigit ++ Pattern.char ':'

/-- A function at the end of a line. -/
def lastFunction : Pattern :=
  many isBlank ++ (group (many1 isInLine) ++ atEnd)

theorem prefers_lastFunction {t : Text} (ne : t ≠ []) (line : '\n' ∉ t)
    (ending : ∀ c ∈ t.getLast?, isBlank c = false) :
    Prefers lastFunction t [] [(t.trimStart, [])] := by
  have filled : t.trimStart ≠ [] := by
    intro empty
    have blank := List.dropWhile_eq_nil_iff.mp empty _ (List.getLast_mem ne)
    rw [ending _ (List.getLast?_eq_getLast_of_ne_nil ne)] at blank
    cases blank
  have inLine : ∀ c ∈ t.trimStart, isInLine c = true := by
    intro c hc
    have kept : c ∈ t := (List.dropWhile_sublist isBlank).subset hc
    have : c ≠ '\n' := by
      rintro rfl
      exact line kept
    simpa [isInLine] using this
  have function : Prefers (many1 isInLine) (t.trimStart ++ []) [] [] := .many1 filled inLine (by simp)
  rw [List.append_nil] at function
  exact (Prefers.many_dropWhile isBlank t).seq (function.group.seq .atEnd)

/-- A line number is passed over if something stands behind it, and else nothing is. -/
theorem dropLineNumber_cases (t : Text) :
    (∃ number rest : Text, t = number ++ ':' :: rest ∧ number.isNumeral = true ∧ rest ≠ [] ∧
        dropLineNumber t = rest) ∨
      dropLineNumber t = t ∧ Fails (lineNumber ++ lastFunction) t := by
  by_cases numbered : ∃ number rest : Text,
      t.cut? ':' = some (number, rest) ∧ number.isNumeral = true ∧ rest ≠ []
  · obtain ⟨number, rest, cut, numeral, ne⟩ := numbered
    refine .inl ⟨number, rest, (Text.cut?_eq_some_iff.mp cut).1, numeral, ne, ?_⟩
    simp [dropLineNumber, cut, numeral, ne]
  · refine .inr ⟨?_, fun β k => ?_⟩
    · rw [dropLineNumber]
      split
      · next number rest cut =>
        refine if_neg fun h => numbered ⟨number, rest, cut, ?_⟩
        simpa using h
      · rfl
    · rw [Option.eq_none_iff_forall_ne_some]
      intro b found
      rw [match?_seq, lineNumber, match?_seq] at found
      obtain ⟨d, digits, rest, rfl, hdigits, found⟩ := exists_run_of_many1 found
      obtain ⟨rest, rfl, found⟩ := exists_rest_of_char found
      have numeral : Text.isNumeral (d :: digits) = true := Text.isNumeral_iff.mpr ⟨by simp, hdigits⟩
      have noColon : ':' ∉ d :: digits := fun colon => absurd (hdigits _ colon) (by decide)
      refine numbered ⟨d :: digits, rest, Text.cut?_eq_some_iff.mpr ⟨by simp, noColon⟩, numeral, ?_⟩
      rintro rfl
      cases found

section Names

variable {left file rest : Text}

/-- A file is not empty and ends at the first colon behind its first character. -/
theorem cutFile?_eq_some (h : cutFile? left = some (file, rest)) :
    left = file ++ ':' :: rest ∧ file ≠ [] ∧ ':' ∉ file.tail := by
  cases left with
  | nil => cases h
  | cons c t =>
    obtain ⟨⟨before, after⟩, cut, same⟩ := Option.map_eq_some_iff.mp h
    cases same
    obtain ⟨rfl, absent⟩ := Text.cut?_eq_some_iff.mp cut
    exact ⟨rfl, by simp, absent⟩

/-- The file and the function stand on both sides of the first colon that is not the first character. -/
theorem prefers_fileAndFunction (line : '\n' ∉ left) (ending : ∀ c ∈ left.getLast?, isBlank c = false)
    (h : cutFile? left = some (file, rest)) (ne : rest ≠ []) :
    Prefers fileAndFunction left []
      [(left, ':' :: rest), ((dropLineNumber rest).trimStart, [])] := by
  obtain ⟨rfl, filled, absent⟩ := cutFile?_eq_some h
  have fileLine : ∀ c ∈ file, isInLine c = true := by
    intro c hc
    have : c ≠ '\n' := by
      rintro rfl
      exact line (List.mem_append_left _ hc)
    simpa [isInLine] using this
  have function {t : Text} (front : Text) (split : file ++ ':' :: rest = front ++ t) (ne : t ≠ []) :
      Prefers lastFunction t [] [(t.trimStart, [])] := by
    refine prefers_lastFunction ne (fun h => line (split ▸ List.mem_append_right _ h)) ?_
    rwa [split, List.getLast?_append_of_ne_nil _ ne] at ending
  have behind : Prefers (maybe lineNumber ++ lastFunction) rest []
      [((dropLineNumber rest).trimStart, [])] := by
    rcases dropLineNumber_cases rest with ⟨number, after, rfl, numeral, ne, dropped⟩ | ⟨kept, fails⟩
    · obtain ⟨hne, digits⟩ := Text.isNumeral_iff.mp numeral
      have passed : Prefers lineNumber (number ++ ':' :: after) after [] :=
        .seq (.many1 hne digits (by simp)) (.char ':' after)
      rw [dropped]
      exact passed.present.seq (function (file ++ ':' :: number ++ [':']) (by simp) ne)
    · rw [kept]
      exact .absent_seq fails (function (file ++ [':']) (by simp) ne)
  exact ((Prefers.few1_char filled fileLine absent rest).seq behind).assoc.assoc.assoc

/-- The names of a line are the file before its colon and the function behind the line number. -/
theorem names_eq (line : '\n' ∉ left) (ending : ∀ c ∈ left.getLast?, isBlank c = false)
    (h : cutFile? left = some (file, rest)) (ne : rest ≠ []) :
    names left = (file.trim, (dropLineNumber rest).trim) := by
  have found := (prefers_fileAndFunction line ending h ne).matchStart?_eq
  rw [names, found]
  simp [(cutFile?_eq_some h).1, Text.trim_trimStart]

/-- Without such a colon, or with nothing behind it, there is no match. -/
theorem matchStart?_fileAndFunction_eq_none
    (h : ∀ file rest, cutFile? left = some (file, rest) → rest = []) :
    fileAndFunction.matchStart? left = none := by
  rw [Option.eq_none_iff_forall_ne_some]
  intro m hm
  rw [matchStart?, fileAndFunction] at hm
  simp only [match?_seq_seq] at hm
  rw [match?_seq, match?_group] at hm
  obtain ⟨c, run, rest, rfl, -, found⟩ := exists_run_of_few1 hm
  rw [match?_seq] at found
  obtain ⟨rest, rfl, found⟩ := exists_rest_of_char found
  rcases List.eq_nil_or_concat rest with rfl | ⟨rest, d, rfl⟩
  · cases found
  cases cut : Text.cut? ':' (run ++ ':' :: rest.concat d) with
  | none => exact Text.cut?_eq_none_iff.mp cut (by simp)
  | some parts =>
    obtain ⟨before, after⟩ := parts
    obtain rfl : after = [] := h (c :: before) after (by rw [cutFile?, cut]; rfl)
    obtain ⟨split, absent⟩ := Text.cut?_eq_some_iff.mp cut
    have whole : (run ++ ':' :: rest) ++ [d] = before ++ [':'] := by simpa using split
    exact absent ((List.append_inj_left' whole rfl) ▸ by simp)

/-- A line without a file and something behind it has an empty name. -/
theorem names_of_unmatched (h : ∀ file rest, cutFile? left = some (file, rest) → rest = []) :
    (names left).1 = [] ∨ (names left).2 = [] := by
  rw [names, matchStart?_fileAndFunction_eq_none h]
  cases left with
  | nil => exact .inl rfl
  | cons c t =>
    dsimp only
    split
    · next file function cut =>
      by_cases first : c = ':'
      · obtain ⟨rfl, rfl⟩ : [] = file ∧ t = function := by simpa [Text.cut?, first] using cut
        exact .inl rfl
      · obtain ⟨⟨before, after⟩, found, same⟩ : ∃ parts, Text.cut? ':' t = some parts ∧
            (c :: parts.1, parts.2) = (file, function) := by simpa [Text.cut?, first] using cut
        obtain rfl : after = [] := h (c :: before) after (by rw [cutFile?, found]; rfl)
        cases same
        exact .inr rfl
    · exact .inl rfl

end Names

/-! ## The function's name -/

/-- A number at the end of a name stands behind blank characters, and before all of these nothing is blank. -/
theorem exists_left_of_endsInNumber {name : Text} (h : name.endsInNumber = true) :
    ∃ left blanks digits : Text, name = left ++ (blanks ++ digits) ∧ blanks ≠ [] ∧ blanks.isAllBlank = true ∧
      (∀ c ∈ left.getLast?, isBlank c = false) ∧ digits.isNumeral = true := by
  obtain ⟨before, c, digits, rfl, hc, numeral⟩ := Text.exists_of_endsInNumber h
  obtain ⟨blanks, split, blank⟩ := before.exists_trimEnd_append
  refine ⟨before.trimEnd, blanks ++ [c], digits, ?_, by simp, ?_, before.isBlank_getLast?_trimEnd, numeral⟩
  · conv_lhs => rw [split]
    simp
  · rw [Text.isAllBlank, List.all_append]
    simp [hc, show blanks.all isBlank = true from blank]

theorem eraseEnd_trailingNumber_eq (name : Text) : trailingNumber.eraseEnd name = dropNumber name := by
  rw [dropNumber]
  split
  · next ends =>
    obtain ⟨left, blanks, digits, rfl, gap, blank, left_last, numeral⟩ := exists_left_of_endsInNumber ends
    rw [eraseEnd, matchEnd?_trailingNumber gap blank left_last numeral]
    have digits_dropped : Text.dropEndWhile Char.isDigit (left ++ (blanks ++ digits)) = left ++ blanks := by
      rw [← List.append_assoc, Text.dropEndWhile_append_of_pos (Text.isNumeral_iff.mp numeral).2]
      refine Text.dropEndWhile_eq_self fun c last => ?_
      rw [List.getLast?_append_of_ne_nil left gap] at last
      exact isDigit_eq_false_of_isBlank (List.all_eq_true.mp blank c (List.mem_of_getLast? last))
    rw [digits_dropped, Text.trimEnd_append_of_isAllBlank left blank, Text.trimEnd_eq_self left_last]
  · next other => exact eraseEnd_trailingNumber (by simpa using other)

theorem bareFunction_eq (name : Text) : bareFunction name = dropColon (dropNumber name) := by
  rw [bareFunction, eraseEnd_trailingNumber_eq]
  rfl

/-! ## The whole line -/

theorem scanNames?_eq_none {left : Text} (h : ∀ file rest, cutFile? left = some (file, rest) → rest = [])
    (percent : Text) : scanNames? left percent = none := by
  rw [scanNames?]
  cases cut : cutFile? left with
  | none => rfl
  | some parts => simp [h parts.1 parts.2 cut]

section Left

variable {left : Text} (line : '\n' ∉ left) (trimmed : left.IsTrimmed)
include line trimmed

/-- The file and the function that a line without its percentage names are those of the scan. -/
theorem names_eq_scanNames? (percent : Text) :
    (let (file, function) := names left
      let function := bareFunction function
      if file.isEmpty || function.isEmpty then none else some (Row.mk file function percent)) =
    scanNames? left percent := by
  by_cases usual : ∃ file rest, cutFile? left = some (file, rest) ∧ rest ≠ []
  · obtain ⟨file, rest, cut, ne⟩ := usual
    have filled : file.trim ≠ [] := by
      obtain ⟨rfl, hne, -⟩ := cutFile?_eq_some cut
      exact Text.trim_ne_nil hne (trimmed.head_of_isPrefix (List.prefix_append _ _))
    simp [names_eq line trimmed.last cut ne, scanNames?, cut, ne, filled, bareFunction_eq]
  · have unusual : ∀ file rest, cutFile? left = some (file, rest) → rest = [] :=
      fun file rest cut => of_not_not fun ne => usual ⟨file, rest, cut, ne⟩
    rw [scanNames?_eq_none unusual]
    rcases names_of_unmatched unusual with empty | empty
    · simp [empty]
    · have nameless : bareFunction [] = [] := by decide
      simp [empty, nameless]

/-- What is not of the usual form names nothing. -/
theorem scanNames?_of_unmatched (unmatched : fileAndFunction.matchStart? left = none)
    (percent : Text) : scanNames? left percent = none := by
  refine scanNames?_eq_none (fun file rest cut => of_not_not fun ne => ?_) percent
  rw [(prefers_fileAndFunction line trimmed.last cut ne).matchStart?_eq] at unmatched
  cases unmatched

end Left

/-- A line with a percentage at its end is read by what stands before it. -/
theorem ofLine?_of_percentage {raw before number : Text} (total : totalHead.isPrefixOf raw.trim = false)
    (split : raw.trim = before ++ (number ++ ['%']))
    (taken : Prefers percentNumber (number.reverse ++ before.reverse) before.reverse []) :
    ofLine? raw =
      let (file, function) := names before.trim
      let function := bareFunction function
      if file.isEmpty || function.isEmpty then none else some ⟨file, function, number ++ ['%']⟩ := by
  have isRow : (raw.trim.isEmpty || totalHead.isPrefixOf raw.trim || !raw.trim.contains '%') = false := by
    rw [total, split]
    simp
  rw [ofLine?, isRow, split, matchEnd?_trailingPercent taken, eraseEnd_spacedPercent taken,
    Text.trim_trimEnd]
  rfl

/-- The patterns read each line as the scan does, and a line without the usual form of file and function
has no row. -/
theorem ofLine?_eq_scan? {raw : Text} (line : '\n' ∉ raw) :
    ofLine? raw = scan? raw ∧
      (fileAndFunction.matchStart? (spacedPercent.eraseEnd raw.trim).trim = none →
        ofLine? raw = none) := by
  have trimmed := raw.isTrimmed_trim
  have inLine : '\n' ∉ raw.trim := fun h => line (Text.mem_of_mem_trim h)
  by_cases total : totalHead.isPrefixOf raw.trim = true
  · simp [ofLine?, scan?, total]
  rw [Bool.not_eq_true] at total
  cases cut : cutPercentage? raw.trim with
  | none =>
    have unmatched := matchEnd?_trailingPercent_eq_none trimmed.last fun q => cutPercentage?_eq_none cut
    simp [ofLine?, scan?, cut, unmatched]
  | some parts =>
    obtain ⟨before, percent⟩ := parts
    obtain ⟨split, percentage, longest⟩ := cutPercentage?_eq_some cut
    obtain ⟨number, rfl, decimal⟩ := isPercentage_iff.mp percentage
    have taken := prefers_percentNumber_of_longest decimal (split ▸ longest)
    have leftLine : '\n' ∉ before.trim := fun h =>
      inLine (split ▸ List.mem_append_left _ (Text.mem_of_mem_trim h))
    have read : ofLine? raw = scanNames? before.trim (number ++ ['%']) :=
      (ofLine?_of_percentage total split taken).trans
        (names_eq_scanNames? leftLine before.isTrimmed_trim _)
    refine ⟨?_, fun unmatched => ?_⟩
    · simp [read, scan?, total, cut]
    · rw [split, eraseEnd_spacedPercent taken, Text.trim_trimEnd] at unmatched
      rw [read, scanNames?_of_unmatched leftLine before.isTrimmed_trim unmatched]

theorem ofLine?_eq_scan?_colon :
    '\n' ∉ " :a.go:42: f: 7 12.3%\t".toList ∧
      ofLine? " :a.go:42: f: 7 12.3%\t".toList =
        some ⟨":a.go".toList, "f".toList, "12.3%".toList⟩ := by
  refine ⟨by decide, ?_⟩
  rw [(ofLine?_eq_scan? (by decide)).1]
  decide

end CoverageNote.Row
