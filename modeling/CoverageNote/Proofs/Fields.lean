import CoverageNote.Proofs.Line

/-!
# The fields of a row

The fields of a row are pieces of one line of the report : the file stands before its first colon, the
function behind it, and the percentage at its end. `Row.ReadFrom` says what is known of them whatever the
line holds, and `Row.exists_line_of_mem_ofReport` that each row of a report was read so from one of its lines.

Two things are known only in part. The pattern for a file takes its first character whatever it is, so the
first colon counts only if the line does not begin with one. And the colon at the end of a function's name is
dropped when the name has been trimmed, so blank characters before that colon stay with the name.

A line that names no function has no row, unless it has a line number : the pattern then takes the number and
its colon for the function (`Row.ofLine?_nameless`).
-/

namespace CoverageNote

namespace Row

open Pattern

/-! ## The name of the function -/

theorem dropLineNumber_isSuffix (t : Text) : dropLineNumber t <:+ t := by
  rcases dropLineNumber_cases t with ⟨number, rest, rfl, -, -, dropped⟩ | ⟨kept, -⟩
  · rw [dropped]
    exact ⟨number ++ [':'], by simp⟩
  · rw [kept]

theorem dropNumber_isPrefix (t : Text) : dropNumber t <+: t := by
  unfold dropNumber
  split
  · exact (Text.dropEndWhile_isPrefix isBlank _).trans (Text.dropEndWhile_isPrefix Char.isDigit t)
  · exact List.prefix_rfl

/-- Where a number is dropped, so are the blank characters before it. -/
theorem isTrimmed_dropNumber {t : Text} (h : t.IsTrimmed) : (dropNumber t).IsTrimmed where
  head := h.head_of_isPrefix (dropNumber_isPrefix t)
  last := by
    unfold dropNumber
    split
    · exact Text.isBlank_getLast?_trimEnd _
    · exact h.last

theorem dropColon_cases (t : Text) : dropColon t ++ [':'] = t ∨ dropColon t = t := by
  unfold dropColon
  cases dropped : t.dropTail? [':'] with
  | none => exact .inr rfl
  | some kept => exact .inl (Text.dropTail?_eq_some_iff.mp dropped)

/-! ## What is known of the fields -/

/-- What is known of the fields of a row, by the line that it was read from. -/
structure ReadFrom (line : Text) (row : Row) : Prop where
  file_ne_nil : row.file ≠ []
  file_trimmed : row.file.IsTrimmed
  file_isInfix : row.file <:+: line
  /-- The file is what stands before the first colon of the line. -/
  file_cut : line.trim.head? ≠ some ':' →
    ∃ before behind, line.cut? ':' = some (before, behind) ∧ row.file = before.trim
  file_colon : line.trim.head? ≠ some ':' → ':' ∉ row.file
  function_ne_nil : row.function ≠ []
  function_head : ∀ c ∈ row.function.head?, isBlank c = false
  /-- Only before a colon the function can end in a blank character. -/
  function_last : ∀ c ∈ row.function.getLast?, isBlank c = true → row.function ++ [':'] <:+: line
  function_isInfix : row.function <:+: line
  percent : isPercentage row.percent = true
  percent_isSuffix : row.percent <:+ line.trim

theorem exists_parts_of_scanNames? {left percent : Text} {row : Row}
    (h : scanNames? left percent = some row) : ∃ file rest, cutFile? left = some (file, rest) ∧
      row.file = file.trim ∧ row.function = dropColon (dropNumber (dropLineNumber rest).trim) ∧
      row.function ≠ [] ∧ row.percent = percent := by
  obtain ⟨⟨file, rest⟩, parts, read⟩ := Option.bind_eq_some_iff.mp h
  dsimp only at read
  split at read
  · cases read
  next filled =>
  rw [Bool.or_eq_true, not_or, List.isEmpty_iff, List.isEmpty_iff] at filled
  cases read
  exact ⟨file, rest, parts, rfl, rfl, filled.2, rfl⟩

/-- A row that was read from a line, by the parts of the line that it is put together from. -/
theorem exists_parts_of_ofLine? {raw : Text} {row : Row} (feed : '\n' ∉ raw) (h : ofLine? raw = some row) :
    ∃ left file rest, raw.trim = left ++ row.percent ∧ isPercentage row.percent = true ∧
      cutFile? left.trim = some (file, rest) ∧ row.file = file.trim ∧
      row.function = dropColon (dropNumber (dropLineNumber rest).trim) ∧ row.function ≠ [] := by
  have total : totalHead.isPrefixOf raw.trim = false := by
    refine Bool.eq_false_iff.mpr fun total => ?_
    simp [ofLine?, total] at h
  cases cut : cutPercentage? raw.trim with
  | none =>
    have unmatched := matchEnd?_trailingPercent_eq_none raw.isTrimmed_trim.last fun q =>
      cutPercentage?_eq_none cut
    simp [ofLine?, unmatched] at h
  | some parts =>
    obtain ⟨left, percent⟩ := parts
    obtain ⟨split, percentage, longest⟩ := cutPercentage?_eq_some cut
    obtain ⟨number, rfl, decimal⟩ := isPercentage_iff.mp percentage
    have taken := prefers_percentNumber_of_longest decimal (split ▸ longest)
    have leftLine : '\n' ∉ left.trim := fun inside =>
      feed (Text.mem_of_mem_trim (split ▸ List.mem_append_left _ (Text.mem_of_mem_trim inside)))
    rw [ofLine?_of_percentage total split taken] at h
    have named := (names_eq_scanNames? leftLine left.isTrimmed_trim (number ++ ['%'])).symm.trans h
    obtain ⟨file, rest, parts, hfile, hfunction, filled, hpercent⟩ := exists_parts_of_scanNames? named
    rw [← hpercent] at split percentage
    exact ⟨left, file, rest, split, percentage, parts, hfile, hfunction, filled⟩

section Parts

variable {raw left file rest percent : Text} (split : raw.trim = left ++ percent)
  (parts : cutFile? left.trim = some (file, rest))
include split parts

/-- The file stands at the start of the line. -/
theorem left_isPrefix : file ++ ':' :: rest <+: raw.trim := by
  have start : left <+: raw.trim := ⟨percent, split.symm⟩
  rw [← (cutFile?_eq_some parts).1]
  exact (Text.trim_isPrefix (raw.isTrimmed_trim.head_of_isPrefix start)).trans start

theorem head?_file_eq : file.head? = raw.trim.head? := by
  obtain ⟨more, whole⟩ := left_isPrefix split parts
  obtain ⟨c, file, rfl⟩ := List.exists_cons_of_ne_nil (cutFile?_eq_some parts).2.1
  rw [← whole]
  rfl

theorem trim_file_ne_nil : file.trim ≠ [] := by
  refine Text.trim_ne_nil (cutFile?_eq_some parts).2.1 ?_
  rw [head?_file_eq split parts]
  exact raw.isTrimmed_trim.head

/-- The file is cut off at the first colon of the line, if the line does not begin with it. -/
theorem cut?_line_eq (start : raw.trim.head? ≠ some ':') :
    ∃ before behind, raw.cut? ':' = some (before, behind) ∧ file.trim = before.trim := by
  obtain ⟨front, back, around, blank, -⟩ := raw.exists_trim_between
  obtain ⟨more, whole⟩ := left_isPrefix split parts
  obtain ⟨-, filled, absent⟩ := cutFile?_eq_some parts
  have colonFile : ':' ∉ file := by
    obtain ⟨c, file, rfl⟩ := List.exists_cons_of_ne_nil filled
    rw [List.mem_cons, not_or]
    refine ⟨?_, absent⟩
    rintro rfl
    exact start (head?_file_eq split parts).symm
  have colonFront : ':' ∉ front := fun colon =>
    absurd (List.all_eq_true.mp blank _ colon) (by decide)
  refine ⟨front ++ file, rest ++ more ++ back, Text.cut?_eq_some_iff.mpr ⟨?_, ?_⟩, ?_⟩
  · rw [around, ← whole]
    simp
  · rw [List.mem_append, not_or]
    exact ⟨colonFront, colonFile⟩
  · exact (Text.trim_append_left_of_isAllBlank blank file).symm

/-- The name that is left when the line number and a number at the end are dropped. -/
theorem name_isInfix : dropNumber (dropLineNumber rest).trim <:+: raw := by
  have behind : rest <:+: raw :=
    calc rest <:+: file ++ ':' :: rest := ⟨file ++ [':'], [], by simp⟩
      _ <:+: raw.trim := (left_isPrefix split parts).isInfix
      _ <:+: raw := raw.trim_isInfix
  calc dropNumber (dropLineNumber rest).trim
      <:+: (dropLineNumber rest).trim := (dropNumber_isPrefix _).isInfix
    _ <:+: dropLineNumber rest := Text.trim_isInfix _
    _ <:+: rest := (dropLineNumber_isSuffix rest).isInfix
    _ <:+: raw := behind

end Parts

/-- Whatever a line holds, this is known of the row that is read from it. -/
theorem readFrom_of_ofLine? {raw : Text} {row : Row} (feed : '\n' ∉ raw) (h : ofLine? raw = some row) :
    ReadFrom raw row := by
  obtain ⟨left, file, rest, split, percentage, parts, hfile, hfunction, filled⟩ :=
    exists_parts_of_ofLine? feed h
  have inLine : file ++ ':' :: rest <:+: raw :=
    (left_isPrefix split parts).isInfix.trans raw.trim_isInfix
  have trimmed := isTrimmed_dropNumber (dropLineNumber rest).isTrimmed_trim
  have name := name_isInfix split parts
  -- The function is the name, or the name is the function with a colon behind it.
  have named := dropColon_cases (dropNumber (dropLineNumber rest).trim)
  rw [← hfunction] at named
  have front : row.function <+: dropNumber (dropLineNumber rest).trim := by
    rcases named with colon | same
    · exact ⟨[':'], colon⟩
    · rw [← same]
  exact {
    file_ne_nil := hfile ▸ trim_file_ne_nil split parts
    file_trimmed := hfile ▸ file.isTrimmed_trim
    file_isInfix := by
      rw [hfile]
      exact file.trim_isInfix.trans ((List.prefix_append _ _).isInfix.trans inLine)
    file_cut := fun start => hfile ▸ cut?_line_eq split parts start
    file_colon := by
      intro start colon
      obtain ⟨before, behind, cut, same⟩ := cut?_line_eq split parts start
      rw [hfile, same] at colon
      exact (Text.cut?_eq_some_iff.mp cut).2 (Text.mem_of_mem_trim colon)
    function_ne_nil := filled
    function_head := trimmed.head_of_isPrefix front
    function_last := by
      intro c last blank
      rcases named with colon | same
      · exact colon ▸ name
      · rw [trimmed.last c (same ▸ last)] at blank
        cases blank
    function_isInfix := front.isInfix.trans name
    percent := percentage
    percent_isSuffix := ⟨left, split.symm⟩ }

/-- Each row of a report was read from one of its lines. -/
theorem exists_line_of_mem_ofReport {report : Text} {row : Row} (h : row ∈ ofReport report) :
    ∃ line ∈ report.lines, ofLine? line = some row ∧ ReadFrom line row := by
  obtain ⟨line, inside, read⟩ := List.mem_filterMap.mp h
  exact ⟨line, inside, read, readFrom_of_ofLine? (Text.not_mem_of_mem_lines inside) read⟩

/-- A name with a blank character before its colon keeps it. -/
theorem exists_line_of_mem_ofReport_spaced :
    let report : Text := "ok\ta 1%\n a.go : 3: f : 12\t40%\r\n".toList
    let row : Row := ⟨"a.go".toList, "3: f ".toList, "40%".toList⟩
    row ∈ ofReport report ∧ ∃ line ∈ report.lines, ofLine? line = some row ∧ ReadFrom line row := by
  intro report row
  have h : row ∈ ofReport report := by decide
  exact ⟨h, exists_line_of_mem_ofReport h⟩

/-- A file can begin with a colon, and a function can end in a blank character. -/
theorem fields_not_normalised :
    (∃ row ∈ ofReport ":a.go:3: f 40%".toList, ':' ∈ row.file) ∧
      ∃ row ∈ ofReport "a.go:3: f : 40%".toList, ¬row.function.IsTrimmed := by
  have colon : ofReport ":a.go:3: f 40%".toList =
      [⟨":a.go".toList, "f".toList, "40%".toList⟩] := by decide
  have space : ofReport "a.go:3: f : 40%".toList =
      [⟨"a.go".toList, "f ".toList, "40%".toList⟩] := by decide
  rw [colon, space]
  exact ⟨⟨_, List.mem_singleton_self _, by decide⟩, ⟨_, List.mem_singleton_self _, by decide⟩⟩

/-! ## Lines that name no function -/

theorem cutFile?_append {file : Text} (filled : file ≠ []) (colon : ':' ∉ file) (rest : Text) :
    cutFile? (file ++ ':' :: rest) = some (file, rest) := by
  obtain ⟨c, file, rfl⟩ := List.exists_cons_of_ne_nil filled
  have cut : Text.cut? ':' (file ++ ':' :: rest) = some (file, rest) :=
    Text.cut?_eq_some_iff.mpr ⟨rfl, fun h => colon (List.mem_cons_of_mem c h)⟩
  rw [List.cons_append, cutFile?, cut]
  rfl

theorem endsInNumber_concat (t : Text) {c : Char} (h : c.isDigit = false) :
    Text.endsInNumber (t ++ [c]) = false := by
  refine Bool.eq_false_iff.mpr fun ends => ?_
  obtain ⟨before, d, digits, split, -, numeral⟩ := Text.exists_of_endsInNumber ends
  obtain ⟨ne, hdigits⟩ := Text.isNumeral_iff.mp numeral
  have last : digits.getLast? = some c := by
    have whole := congrArg List.getLast? split
    rw [List.getLast?_concat, List.getLast?_append, List.getLast?_cons] at whole
    obtain ⟨digits, e, rfl⟩ := List.eq_nil_or_concat digits |>.resolve_left ne
    simpa using whole.symm
  rw [hdigits c (List.mem_of_getLast? last)] at h
  cases h

/-- A line number and its colon with nothing behind them are taken for the function. -/
theorem scanNames?_lineNumber {file number : Text} (filled : file ≠ []) (colon : ':' ∉ file)
    (trimmed : file.IsTrimmed) (numeral : number.isNumeral = true) (percent : Text) :
    scanNames? (file ++ ':' :: (number ++ [':'])) percent = some ⟨file, number, percent⟩ := by
  obtain ⟨ne, digits⟩ := Text.isNumeral_iff.mp numeral
  have absent : ':' ∉ number := fun h => absurd (digits _ h) (by decide)
  have kept : dropLineNumber (number ++ [':']) = number ++ [':'] := by
    have cut : Text.cut? ':' (number ++ [':']) = some (number, []) :=
      Text.cut?_eq_some_iff.mpr ⟨rfl, absent⟩
    simp [dropLineNumber, cut]
  have whole : Text.IsTrimmed (number ++ [':']) := by
    constructor
    · obtain ⟨d, number, rfl⟩ := List.exists_cons_of_ne_nil ne
      rintro _ ⟨⟩
      refine Bool.eq_false_iff.mpr fun blank => ?_
      have first := digits d List.mem_cons_self
      rw [isDigit_eq_false_of_isBlank blank] at first
      cases first
    · rw [List.getLast?_concat]
      rintro _ ⟨⟩
      decide
  have bare : dropNumber (number ++ [':']) = number ++ [':'] := by
    simp [dropNumber, endsInNumber_concat number (show Char.isDigit ':' = false by decide)]
  have named : dropColon (number ++ [':']) = number := by
    rw [dropColon, Text.dropTail?_eq_some_iff.mpr rfl]
    rfl
  simp [scanNames?, cutFile?_append filled colon, kept, whole.trim_eq, bare, named, ne,
    trimmed.trim_eq]

section Nameless

variable {space coverage : Text} (blank : space.isAllBlank = true) (decimal : coverage.isDecimal = true)
include blank decimal

/-- A line that ends in a percentage is read by what stands before it and the blank characters there. -/
theorem ofLine?_append_percentage {left : Text} (filled : left ≠ []) (line : '\n' ∉ left)
    (trimmed : left.IsTrimmed) (apart : ∀ c ∈ left.getLast?, c.isDigit = false ∧ c ≠ '.') :
    ofLine? (left ++ (space ++ (coverage ++ ['%']))) =
      if totalHead.isPrefixOf (left ++ (space ++ (coverage ++ ['%']))) then none
      else scanNames? left (coverage ++ ['%']) := by
  obtain ⟨c, rest, hleft⟩ := List.exists_cons_of_ne_nil filled
  have whole : Text.IsTrimmed (left ++ (space ++ (coverage ++ ['%']))) := by
    constructor
    · have first := trimmed.head
      simpa [hleft] using first
    · have last : (left ++ (space ++ (coverage ++ ['%']))).getLast? = some '%' := by simp
      rw [last]
      rintro _ ⟨⟩
      decide
  have before : (left ++ space).trim = left := by
    rw [Text.trim_append_of_isAllBlank left blank, trimmed.trim_eq]
  split
  · next total => simp [ofLine?, whole.trim_eq, total]
  next total =>
  have number : Prefers percentNumber (coverage.reverse ++ (left ++ space).reverse)
      (left ++ space).reverse [] := by
    refine prefers_percentNumber_of_apart decimal fun d hd => ?_
    rw [List.head?_reverse, List.getLast?_append, Option.mem_def, Option.or_eq_some_iff] at hd
    rcases hd with hd | ⟨-, hd⟩
    · exact isApart_of_isBlank (List.all_eq_true.mp blank d (List.mem_of_getLast? hd))
    · exact apart d hd
  have split : (left ++ (space ++ (coverage ++ ['%']))).trim =
      left ++ space ++ (coverage ++ ['%']) := by
    rw [whole.trim_eq, List.append_assoc]
  rw [Bool.not_eq_true, ← whole.trim_eq] at total
  rw [ofLine?_of_percentage total split number, before]
  exact names_eq_scanNames? line trimmed _

/-- A line whose last character before the percentage is a colon. -/
theorem ofLine?_of_colon {file behind : Text} (filled : file ≠ []) (line : '\n' ∉ file ++ ':' :: behind)
    (colon : ':' ∉ file) (trimmed : file.IsTrimmed)
    (last : (file ++ ':' :: behind).getLast? = some ':') :
    ofLine? (file ++ ':' :: behind ++ (space ++ (coverage ++ ['%']))) =
      if file = "total".toList then none
      else scanNames? (file ++ ':' :: behind) (coverage ++ ['%']) := by
  have whole : Text.IsTrimmed (file ++ ':' :: behind) := by
    obtain ⟨c, rest, rfl⟩ := List.exists_cons_of_ne_nil filled
    constructor
    · exact fun d hd => trimmed.head d hd
    · rw [last]
      rintro _ ⟨⟩
      decide
  have apart : ∀ c ∈ (file ++ ':' :: behind).getLast?, c.isDigit = false ∧ c ≠ '.' := by
    rw [last]
    rintro _ ⟨⟩
    decide
  have total : totalHead.isPrefixOf (file ++ ':' :: behind ++ (space ++ (coverage ++ ['%']))) = true ↔
      file = "total".toList := by
    rw [List.isPrefixOf_iff_prefix, List.append_assoc, List.cons_append]
    exact totalHead_isPrefix_iff colon _
  rw [ofLine?_append_percentage blank decimal (by simp) line whole apart]
  exact if_congr total rfl rfl

/-- A line that names no function has no row if it has no line number. If it has one, the number is taken
for the function. -/
theorem ofLine?_nameless {file number : Text} (filled : file ≠ []) (line : '\n' ∉ file)
    (colon : ':' ∉ file) (trimmed : file.IsTrimmed) (numeral : number.isNumeral = true) :
    ofLine? (file ++ ':' :: (space ++ (coverage ++ ['%']))) = none ∧
      ofLine? (file ++ ':' :: (number ++ ':' :: (space ++ (coverage ++ ['%'])))) =
        if file = "total".toList then none else some ⟨file, number, coverage ++ ['%']⟩ := by
  have digits := (Text.isNumeral_iff.mp numeral).2
  have feed : '\n' ∉ number := fun h => absurd (digits _ h) (by decide)
  constructor
  · have unnamed : scanNames? (file ++ [':']) (coverage ++ ['%']) = none := by
      simp [scanNames?, cutFile?_append filled colon]
    have read := ofLine?_of_colon blank decimal filled (by simpa using line) colon trimmed
      (List.getLast?_concat)
    rw [unnamed, ite_self] at read
    rw [← read]
    simp
  · have last : (file ++ ':' :: (number ++ [':'])).getLast? = some ':' := by
      rw [← List.cons_append, ← List.append_assoc]
      exact List.getLast?_concat
    have read := ofLine?_of_colon blank decimal filled (by simpa using ⟨line, feed⟩) colon trimmed last
    rw [scanNames?_lineNumber filled colon trimmed numeral] at read
    rw [← read]
    simp

end Nameless

theorem ofLine?_nameless_numbered :
    ("a.go".toList ≠ [] ∧ '\n' ∉ "a.go".toList ∧ ':' ∉ "a.go".toList ∧ Text.IsTrimmed "a.go".toList ∧
      Text.isNumeral "3".toList = true ∧ Text.isAllBlank "\u2003\n".toList = true ∧
      Text.isDecimal "1.5".toList = true) ∧
    ofLine? "a.go:\u2003\n1.5%".toList = none ∧
      ofLine? "a.go:3:\u2003\n1.5%".toList = some ⟨"a.go".toList, "3".toList, "1.5%".toList⟩ := by
  refine ⟨by decide, ?_⟩
  have nameless := @ofLine?_nameless "\u2003\n".toList "1.5".toList (by decide) (by decide)
    "a.go".toList "3".toList (by decide) (by decide) (by decide) (by decide) (by decide)
  exact nameless

/-- Not every line without the name of a function is left out. -/
theorem not_forall_nameless :
    ¬∀ file number space coverage : Text, file ≠ [] → '\n' ∉ file → ':' ∉ file → file.IsTrimmed →
      number.isNumeral = true → space ≠ [] → space.isAllBlank = true → coverage.isDecimal = true →
      ofLine? (file ++ ':' :: (number ++ ':' :: (space ++ (coverage ++ ['%'])))) = none := by
  intro unread
  have none : ofLine? "a.go:3: 40%".toList = none :=
    unread "a.go".toList "3".toList " ".toList "40".toList (by decide) (by decide) (by decide)
      (by decide) (by decide) (by decide) (by decide) (by decide)
  have read : ofLine? "a.go:3: 40%".toList = some ⟨"a.go".toList, "3".toList, "40%".toList⟩ := by
    decide
  rw [read] at none
  cases none

end Row

end CoverageNote
