import CoverageNote.Json.Reader

/-!
# JSON that was written is read back

`Json.parse?` reads what `Json.text` writes : strings with every escape, integers of 64 bits with a sign and
without one, and containers of these (`Json.parse?_text`). Each reader is shown to take what was written and to
leave what stands behind it, which for a number must not go on with the number (`Json.Closed`).

What is read is the value itself but for the order of members (`Json.sorted`) : an object is read as one whose
members are sorted by their names. Numbers with a fraction are not spoken of here.
-/

namespace CoverageNote

/-! ## Numerals -/

namespace JsonNumber

theorem le_ofDigitChars (n : Nat) (digits : Text) : n ≤ Nat.ofDigitChars 10 digits n := by
  rw [Nat.ofDigitChars_eq_ofDigitChars_zero]
  exact Nat.le_add_right_of_le (Nat.le_mul_of_pos_left n (Nat.pow_pos (by omega)))

/-- A numeral that fits 64 bits is read to its end. -/
theorem significand_eq {n : Nat} {digits : Text} (fits : Nat.ofDigitChars 10 digits n ≤ maxNatural) :
    significand n digits = (Nat.ofDigitChars 10 digits n, 0) := by
  induction digits generalizing n with
  | nil => rfl
  | cons c digits ih =>
    rw [Nat.ofDigitChars_cons] at fits ⊢
    have next : ¬maxNatural < 10 * n + (c.toNat - '0'.toNat) :=
      Nat.not_lt.mpr (Nat.le_trans (le_ofDigitChars _ digits) fits)
    rw [significand, if_neg next]
    exact ih fits

/-- The digits of a number that fits are all kept. -/
theorem significand_decimal {n : Nat} (fits : n ≤ maxNatural) : significand 0 (Text.decimal n) = (n, 0) := by
  have value := Text.ofDigitChars_decimal n
  rw [significand_eq (value.symm ▸ fits), value]

/-- The digits of a natural number that fits are read as the number. -/
theorem ofNumeral?_natural {n : Nat} (fits : n ≤ maxNatural) :
    ofNumeral? false (Text.decimal n) none none = some (natural n) := by
  simp [ofNumeral?, significand_decimal fits]

/-- The digits of a negative number that fits are read as the number. -/
theorem ofNumeral?_negative {n : Nat} (positive : 0 < n) (fits : n ≤ 2 ^ 63) :
    ofNumeral? true (Text.decimal n) none none = some (negative n) := by
  have small : n ≤ maxNatural := Nat.le_trans fits (by decide)
  unfold ofNumeral?
  rw [significand_decimal small]
  simp only [Option.isNone_none, Bool.and_self, decide_true, Bool.not_true, Bool.false_eq_true, if_true,
    if_false, if_neg (Nat.ne_of_gt positive), if_pos fits]

end JsonNumber

namespace Json

/-- A text that does not go on with a number. -/
def Closed (t : Text) : Prop :=
  ∀ c ∈ t.head?, c.isDigit = false ∧ c ≠ '.' ∧ c ≠ 'e' ∧ c ≠ 'E'

theorem closed_nil : Closed [] := nofun

/-- No number goes on with a character that belongs to none. -/
theorem closed_cons {c : Char} (h : c.isDigit = false ∧ c ≠ '.' ∧ c ≠ 'e' ∧ c ≠ 'E') (t : Text) :
    Closed (c :: t) := by
  rintro _ ⟨⟩
  exact h

section Numeral

variable {digits rest : Text} (numeral : ∀ c ∈ digits, c.isDigit = true) (closed : Closed rest)
include closed

include numeral in
/-- Digits are read up to the first other character. -/
theorem digits?_append (filled : digits ≠ []) : digits? (digits ++ rest) = some (digits, rest) := by
  have none : rest.takeWhile Char.isDigit = [] ∧ rest.dropWhile Char.isDigit = rest := by
    cases rest with
    | nil => exact ⟨rfl, rfl⟩
    | cons c rest => simp [(closed c rfl).1]
  unfold digits?
  rw [List.takeWhile_append_of_pos numeral, List.dropWhile_append_of_pos numeral, none.1, none.2]
  simp [filled]

theorem fraction?_eq_none : fraction? rest = some (none, rest) := by
  unfold fraction?
  split
  · exact absurd rfl (closed '.' rfl).2.1
  · rfl

theorem exponent?_eq_none : exponent? rest = some (none, rest) := by
  cases rest with
  | nil => rfl
  | cons c rest =>
    obtain ⟨-, -, small, large⟩ := closed c rfl
    simp [exponent?, small, large]

theorem whole?_decimal (n : Nat) : whole? (Text.decimal n ++ rest) = some (Text.decimal n, rest) := by
  unfold whole?
  rw [digits?_append (fun _ => Text.isDigit_of_mem_decimal) closed (Text.decimal_ne_nil n)]
  refine if_neg fun padded => ?_
  -- Only zero itself begins with a zero.
  rcases Nat.eq_zero_or_pos n with rfl | positive
  · exact absurd padded.1 (by decide)
  · exact Text.head?_decimal positive padded.2

/-- A whole number is read as what its digits mean. -/
theorem number?_decimal {minus : Bool} {n : Nat} {number : JsonNumber}
    (read : JsonNumber.ofNumeral? minus (Text.decimal n) none none = some number) :
    number? minus (Text.decimal n ++ rest) = some (.number number, rest) := by
  simp [number?, whole?_decimal closed, fraction?_eq_none closed, exponent?_eq_none closed, read]

end Numeral

/-! ## Strings -/

/-- A character below U+0020 is read from the digits that are written for it. -/
theorem unit?_hexDigit : ∀ n < 0x20, unit? '0' '0' (hexDigit (n / 16)) (hexDigit (n % 16)) = some n := by
  decide

/-- A character is read back from its escaped form. -/
theorem string?_escaped (c : Char) (t : Text) : string? (escaped c ++ t) = before c (string? t) := by
  unfold escaped
  split
  · next quoted => rcases quoted with rfl | rfl <;> rfl
  next quoted =>
  rw [not_or] at quoted
  split
  · next feed => rw [feed]; rfl
  split
  · next ret => rw [ret]; rfl
  split
  · next tab => rw [tab]; rfl
  split
  · next back => rw [back]; rfl
  split
  · next page => rw [page]; rfl
  split
  · next control =>
    show string? ('\\' :: 'u' :: '0' :: '0' :: hexDigit (c.toNat / 16) :: hexDigit (c.toNat % 16) :: t) = _
    rw [string?, unit?_hexDigit _ control]
    dsimp only
    rw [if_neg (by omega), if_neg (by omega), Char.ofNat_toNat]
  · next printed =>
    rw [List.singleton_append, string?]
    · exact if_neg printed
    · exact quoted.1
    · rintro _ _ _ _ _ rfl
      exact absurd rfl quoted.2
    · rintro _ _ rfl
      exact absurd rfl quoted.2

/-- A text is read back from its escaped characters, up to the closing quote. -/
theorem string?_flatMap (t rest : Text) : string? (t.flatMap escaped ++ '"' :: rest) = some (t, rest) := by
  induction t with
  | nil => rfl
  | cons c t ih =>
    rw [List.flatMap_cons, List.append_assoc, string?_escaped, ih]
    rfl

theorem quote_append (t rest : Text) : quote t ++ rest = '"' :: (t.flatMap escaped ++ '"' :: rest) := by
  unfold quote
  simp only [List.append_assoc, List.cons_append, List.nil_append]

/-! ## Containers -/

theorem skip_cons {c : Char} (h : isSpace c = false) (t : Text) : skip (c :: t) = c :: t :=
  List.dropWhile_cons_of_neg (by simp [h])

section Containers

variable {read : Text → Option (Json × Text)} {result : Json → Json}

/-- An array has no more items than its text has characters. -/
theorem length_itemsText (items : List Json) : items.length ≤ (itemsText items).length + 1 := by
  induction items with
  | nil => exact Nat.zero_le _
  | cons item items ih =>
    cases items with
    | nil => exact Nat.le_add_left 1 _
    | cons next items =>
      simp only [itemsText, List.length_append, List.length_cons, List.length_nil] at ih ⊢
      omega

/-- An object has no more members than its text has characters. -/
theorem length_membersText (members : List (Text × Json)) :
    members.length ≤ (membersText members).length + 1 := by
  induction members with
  | nil => exact Nat.zero_le _
  | cons m members ih =>
    cases members with
    | nil => exact Nat.le_add_left 1 _
    | cons next members =>
      simp only [membersText, List.length_append, List.length_cons, List.length_nil] at ih ⊢
      omega

theorem enough_fuel {n : Nat} {t : Text} (h : n ≤ t.length + 1) (c : Char) (rest : Text) :
    n ≤ (t ++ c :: rest).length + 1 := by
  simp only [List.length_append, List.length_cons]
  omega

theorem closed_comma (t : Text) : Closed (',' :: t) := closed_cons (by decide) t

theorem closed_bracket (t : Text) : Closed (']' :: t) := closed_cons (by decide) t

theorem closed_brace (t : Text) : Closed ('}' :: t) := closed_cons (by decide) t

theorem itemsText_cons_cons (item next : Json) (items : List Json) (rest : Text) :
    itemsText (item :: next :: items) ++ rest = item.text ++ ',' :: (itemsText (next :: items) ++ rest) := by
  simp [itemsText]

theorem membersText_singleton (name : Text) (value : Json) (rest : Text) :
    membersText [(name, value)] ++ rest = quote name ++ ':' :: (value.text ++ rest) := by
  simp [membersText]

theorem membersText_cons_cons (name : Text) (value : Json) (next : Text × Json) (members : List (Text × Json))
    (rest : Text) : membersText ((name, value) :: next :: members) ++ rest =
      quote name ++ ':' :: (value.text ++ ',' :: (membersText (next :: members) ++ rest)) := by
  simp [membersText]

/-- A member is read up to what stands behind its value. -/
theorem members?_member {fuel : Nat} {name t t' : Text} {value : Json} (found : read t = some (value, t')) :
    members? read (fuel + 1) (quote name ++ ':' :: t) =
      match skip t' with
      | '}' :: t => some ([(name, value)], t)
      | ',' :: t => (members? read fuel t).bind fun p => some ((name, value) :: p.1, p.2)
      | _ => none := by
  rw [quote_append, members?, skip_cons (by decide)]
  simp only [string?_flatMap, Option.bind_eq_bind, Option.bind_some,
    skip_cons (show isSpace ':' = false by decide), found]
  rfl

/-- Items are read one by one, each up to the comma or the bracket behind it. -/
theorem items?_itemsText {items : List Json} (filled : items ≠ [])
    (reads : ∀ item ∈ items, ∀ rest, Closed rest → read (item.text ++ rest) = some (result item, rest))
    {fuel : Nat} (enough : items.length ≤ fuel) (rest : Text) :
    items? read fuel (itemsText items ++ ']' :: rest) = some (items.map result, rest) := by
  induction items generalizing fuel with
  | nil => exact absurd rfl filled
  | cons item items ih =>
    obtain ⟨fuel, rfl⟩ := Nat.exists_eq_add_one.mpr (Nat.lt_of_lt_of_le (Nat.zero_lt_succ _) enough)
    have here := reads item List.mem_cons_self
    cases items with
    | nil =>
      rw [itemsText, items?, here _ (closed_bracket rest)]
      rfl
    | cons next items =>
      have later := ih (List.cons_ne_nil next items)
        (fun other inside => reads other (List.mem_cons_of_mem _ inside)) (Nat.le_of_succ_le_succ enough)
      rw [itemsText_cons_cons, items?, here _ (closed_comma _)]
      simp only [Option.bind_eq_bind, Option.bind_some, skip_cons (show isSpace ',' = false by decide), later]
      rfl

/-- Members are read one by one, each up to the comma or the brace behind it. -/
theorem members?_membersText {members : List (Text × Json)} (filled : members ≠ [])
    (reads : ∀ m ∈ members, ∀ rest, Closed rest → read (m.2.text ++ rest) = some (result m.2, rest))
    {fuel : Nat} (enough : members.length ≤ fuel) (rest : Text) :
    members? read fuel (membersText members ++ '}' :: rest) =
      some (members.map fun m => (m.1, result m.2), rest) := by
  induction members generalizing fuel with
  | nil => exact absurd rfl filled
  | cons m members ih =>
    obtain ⟨fuel, rfl⟩ := Nat.exists_eq_add_one.mpr (Nat.lt_of_lt_of_le (Nat.zero_lt_succ _) enough)
    obtain ⟨name, value⟩ := m
    have here := reads (name, value) List.mem_cons_self
    cases members with
    | nil =>
      rw [membersText_singleton, members?_member (here _ (closed_brace rest)), skip_cons (by decide)]
      rfl
    | cons next members =>
      have later := ih (List.cons_ne_nil next members)
        (fun other inside => reads other (List.mem_cons_of_mem _ inside)) (Nat.le_of_succ_le_succ enough)
      rw [membersText_cons_cons, members?_member (here _ (closed_comma _)), skip_cons (by decide)]
      simp only [later]
      rfl

end Containers

/-! ## Values -/

mutual

/-- The value with the members of its objects sorted by their names. Of two with one name the later one counts. -/
def sorted : Json → Json
  | null => null
  | bool b => bool b
  | number n => number n
  | string t => string t
  | array items => array (sortedItems items)
  | object members => ofMembers (sortedMembers members)

/-- Each of the items sorted. -/
def sortedItems : List Json → List Json
  | [] => []
  | item :: items => item.sorted :: sortedItems items

/-- Each of the members with its value sorted. -/
def sortedMembers : List (Text × Json) → List (Text × Json)
  | [] => []
  | (name, value) :: members => (name, value.sorted) :: sortedMembers members

end

theorem sortedItems_eq (items : List Json) : sortedItems items = items.map sorted := by
  induction items with
  | nil => rfl
  | cons item items ih => rw [sortedItems, ih, List.map_cons]

theorem sortedMembers_eq (members : List (Text × Json)) :
    sortedMembers members = members.map fun m => (m.1, m.2.sorted) := by
  induction members with
  | nil => rfl
  | cons m members ih => rw [sortedMembers, ih, List.map_cons]

/-- The values that are read back : their numbers are integers of 64 bits, and no more than `depth` containers lie
within each other. -/
inductive Readable : Nat → Json → Prop
  | null {depth : Nat} : Readable depth .null
  | bool {depth : Nat} (b : Bool) : Readable depth (.bool b)
  | natural {depth n : Nat} (fits : n ≤ JsonNumber.maxNatural) : Readable depth (.number (.natural n))
  | negative {depth n : Nat} (positive : 0 < n) (fits : n ≤ 2 ^ 63) : Readable depth (.number (.negative n))
  | string {depth : Nat} (t : Text) : Readable depth (.string t)
  | array {depth : Nat} {items : List Json} (inside : ∀ item ∈ items, Readable depth item) :
    Readable (depth + 1) (.array items)
  | object {depth : Nat} {members : List (Text × Json)} (inside : ∀ m ∈ members, Readable depth m.2) :
    Readable (depth + 1) (.object members)

/-- What begins with no bracket and no brace is a value without parts. -/
theorem value?_eq_scalar? {c : Char} (space : isSpace c = false) (bracket : c ≠ '[') (brace : c ≠ '{')
    (depth : Nat) (t : Text) : value? depth (c :: t) = scalar? (c :: t) := by
  cases depth with
  | zero => rw [value?, skip_cons space]
  | succ depth =>
    rw [value?, skip_cons space]
    split
    · next same => exact absurd (List.cons.inj same).1 bracket
    · next same => exact absurd (List.cons.inj same).1 brace
    · rfl

/-- What begins with a digit is a number. -/
theorem value?_of_digit {c : Char} (digit : c.isDigit = true) (depth : Nat) (t : Text) :
    value? depth (c :: t) = number? false (c :: t) := by
  have other {d : Char} (h : d.isDigit = false) : c ≠ d := by
    rintro rfl
    rw [digit] at h
    cases h
  have space : isSpace c = false := by
    simp [isSpace, other (show Char.isDigit ' ' = false by decide), other (show Char.isDigit '\t' = false by decide),
      other (show Char.isDigit '\n' = false by decide), other (show Char.isDigit '\r' = false by decide)]
  rw [value?_eq_scalar? space (other (by decide)) (other (by decide)), scalar?]
  · exact if_pos digit
  · exact other (by decide)
  · exact other (by decide)

/-- Nothing is read where an array ends. -/
theorem value?_eq_none {t rest : Text} (closing : skip t = ']' :: rest) (depth : Nat) : value? depth t = none := by
  have scalar : scalar? (']' :: rest) = none := rfl
  cases depth with
  | zero => rw [value?, closing, scalar]
  | succ depth =>
    rw [value?, closing]
    exact scalar

/-- What was written is read up to its end. -/
theorem value?_text {depth : Nat} {value : Json} (h : Readable depth value) :
    ∀ rest, Closed rest → value? depth (value.text ++ rest) = some (value.sorted, rest) := by
  induction h with
  | null => exact fun rest _ => value?_eq_scalar? (by decide) (by decide) (by decide) _ _
  | bool b => cases b <;> exact fun rest _ => value?_eq_scalar? (by decide) (by decide) (by decide) _ _
  | @natural depth n fits =>
    intro rest closed
    show value? depth (Text.decimal n ++ rest) = _
    have read := number?_decimal closed (JsonNumber.ofNumeral?_natural fits)
    obtain ⟨c, digits, split⟩ := List.exists_cons_of_ne_nil (Text.decimal_ne_nil n)
    have digit : c.isDigit = true := Text.isDigit_of_mem_decimal (split ▸ List.mem_cons_self)
    rw [split, List.cons_append] at read ⊢
    rw [value?_of_digit digit]
    exact read
  | @negative depth n positive fits =>
    intro rest closed
    show value? depth ('-' :: (Text.decimal n ++ rest)) = _
    rw [value?_eq_scalar? (by decide) (by decide) (by decide)]
    exact number?_decimal closed (JsonNumber.ofNumeral?_negative positive fits)
  | @string depth t =>
    intro rest closed
    have written : (Json.string t).text ++ rest = '"' :: (t.flatMap escaped ++ '"' :: rest) :=
      quote_append t rest
    rw [written, value?_eq_scalar? (by decide) (by decide) (by decide)]
    show (string? (t.flatMap escaped ++ '"' :: rest)).map _ = _
    rw [string?_flatMap]
    rfl
  | @array depth items inside ih =>
    intro rest closed
    have written : (Json.array items).text ++ rest = '[' :: (itemsText items ++ ']' :: rest) := by
      show ['['] ++ itemsText items ++ [']'] ++ rest = _
      simp only [List.append_assoc, List.cons_append, List.nil_append]
    rw [written, value?, skip_cons (by decide)]
    show array? (value? depth) _ = _
    rw [sorted, sortedItems_eq]
    cases items with
    | nil => rfl
    | cons item items =>
      have read := items?_itemsText (List.cons_ne_nil item items) ih (enough_fuel (length_itemsText _) ']' rest) rest
      unfold array?
      split
      · next closing => rw [items?, value?_eq_none closing] at read; cases read
      · rw [read]
        rfl
  | @object depth members inside ih =>
    intro rest closed
    have written : (Json.object members).text ++ rest = '{' :: (membersText members ++ '}' :: rest) := by
      show ['{'] ++ membersText members ++ ['}'] ++ rest = _
      simp only [List.append_assoc, List.cons_append, List.nil_append]
    rw [written, value?, skip_cons (by decide)]
    show object? (value? depth) _ = _
    rw [sorted, sortedMembers_eq]
    cases members with
    | nil => rfl
    | cons m members =>
      have read := members?_membersText (List.cons_ne_nil m members) ih
        (enough_fuel (length_membersText _) '}' rest) rest
      unfold object?
      split
      · next closing => rw [members?, closing] at read; cases read
      · rw [read]
        rfl

/-- A text that was written is read as what it was written for, with the members sorted. -/
theorem parse?_text {value : Json} (h : Readable maxDepth value) : parse? value.text = some value.sorted := by
  have read := value?_text h [] closed_nil
  rw [List.append_nil] at read
  rw [parse?, read]
  rfl

end Json

end CoverageNote
