/-!
# Texts

Everything this library reads and writes is a finite sequence of Unicode scalar values. A text is
kept as the list of them, so that the definitions on texts are recursions on lists and the laws about
them are inductions.

`Text.cut?` splits at the first occurrence of a character, `Text.fields` at every occurrence, and
`Text.mentions` looks for one text inside another. `Text.cut?_eq_some_iff`, `Text.fields_append` and
`Text.mentions_iff` say what they find.
-/

namespace CoverageNote

-- Other libraries bring instances of their own for these. With the ones of the core library in this
-- namespace the definitions mean the same whatever else is in scope.
@[default_instance 20000]
instance power {α : Type} [NatPow α] : Pow α Nat := instPowNat

instance hashableChar : Hashable Char := instHashableChar

/-- A text : its Unicode scalar values in order. -/
abbrev Text := List Char

namespace Text

/-! ## Looking for a part -/

/-- The parts before and after the first `c`. -/
def cut? (c : Char) : Text → Option (Text × Text)
  | [] => none
  | d :: t => if d = c then some ([], t) else (cut? c t).map fun p => (d :: p.1, p.2)

/-- The parts between the occurrences of `c` : one more than there are occurrences. -/
def fields (c : Char) : Text → List Text
  | [] => [[]]
  | d :: t =>
    if d = c then [] :: fields c t
    else match fields c t with
      | [] => [[d]]
      | p :: ps => (d :: p) :: ps

/-- Whether `part` occurs in the text as a contiguous piece. The empty text occurs in every text. -/
def mentions : Text → Text → Bool
  | [], part => part.isEmpty
  | c :: t, part => part.isPrefixOf (c :: t) || mentions t part

theorem cut?_eq_some_iff {c : Char} {t before after : Text} :
    cut? c t = some (before, after) ↔ t = before ++ c :: after ∧ c ∉ before := by
  induction t generalizing before with
  | nil => simp [cut?]
  | cons d t ih =>
    by_cases h : d = c
    · subst h
      cases before with
      | nil => simp [cut?]
      | cons e before => simp +contextual [cut?]
    · cases before with
      | nil => simp [cut?, h]
      | cons e before =>
        simp only [cut?, h, if_false, Option.map_eq_some_iff, Prod.mk.injEq, Prod.exists,
          List.cons.injEq, List.cons_append, List.mem_cons, not_or]
        constructor
        · rintro ⟨p, q, hp, ⟨rfl, rfl⟩, rfl⟩
          obtain ⟨rfl, hc⟩ := ih.mp hp
          exact ⟨⟨rfl, rfl⟩, fun hd => h hd.symm, hc⟩
        · rintro ⟨⟨rfl, rfl⟩, _, hc⟩
          exact ⟨before, after, ih.mpr ⟨rfl, hc⟩, ⟨rfl, rfl⟩, rfl⟩

theorem cut?_eq_none_iff {c : Char} {t : Text} : cut? c t = none ↔ c ∉ t := by
  induction t with
  | nil => simp [cut?]
  | cons d t ih =>
    by_cases h : d = c
    · simp [cut?, h]
    · simp [cut?, h, ih, Ne.symm h]

/-- The first place of a sign determines what stands before it and behind it. -/
theorem append_cons_inj {sign : Char} {before before' behind behind' : Text} (absent : sign ∉ before)
    (absent' : sign ∉ before') (h : before ++ sign :: behind = before' ++ sign :: behind') :
    before = before' ∧ behind = behind' := by
  have cut : cut? sign (before ++ sign :: behind) = some (before, behind) :=
    cut?_eq_some_iff.mpr ⟨rfl, absent⟩
  rw [h, cut?_eq_some_iff.mpr ⟨rfl, absent'⟩] at cut
  cases cut
  exact ⟨rfl, rfl⟩

theorem fields_ne_nil (c : Char) (t : Text) : fields c t ≠ [] := by
  cases t with
  | nil => simp [fields]
  | cons d t =>
    by_cases h : d = c
    · simp [fields, h]
    · simp only [fields, h, if_false]
      split <;> simp

theorem fields_append (c : Char) (a b : Text) :
    fields c (a ++ c :: b) = fields c a ++ fields c b := by
  induction a with
  | nil => simp [fields]
  | cons d a ih =>
    by_cases h : d = c
    · simp [fields, h, ih]
    · simp only [List.cons_append, fields, h, if_false, ih]
      cases hp : fields c a with
      | nil => exact absurd hp (fields_ne_nil c a)
      | cons p ps => simp

theorem fields_eq_singleton {c : Char} {t : Text} (h : c ∉ t) : fields c t = [t] := by
  induction t with
  | nil => rfl
  | cons d t ih =>
    rw [List.mem_cons, not_or] at h
    simp [fields, Ne.symm h.1, ih h.2]

/-- The parts do not hold what separates them. -/
theorem not_mem_of_mem_fields {c : Char} {t part : Text} (h : part ∈ t.fields c) : c ∉ part := by
  induction t generalizing part with
  | nil =>
    rw [fields, List.mem_singleton] at h
    simp [h]
  | cons d t ih =>
    obtain ⟨p, ps, split⟩ := List.exists_cons_of_ne_nil (fields_ne_nil c t)
    by_cases same : d = c
    · have parts : fields c (d :: t) = [] :: p :: ps := by simp [fields, same, split]
      rw [parts, ← split] at h
      rcases List.mem_cons.mp h with rfl | h
      · exact List.not_mem_nil
      · exact ih h
    · have parts : fields c (d :: t) = (d :: p) :: ps := by simp [fields, same, split]
      rw [parts] at h
      rcases List.mem_cons.mp h with rfl | h
      · rw [List.mem_cons, not_or]
        exact ⟨Ne.symm same, ih (split ▸ List.mem_cons_self)⟩
      · exact ih (split ▸ List.mem_cons_of_mem p h)

theorem mentions_iff {t part : Text} : mentions t part = true ↔ part <:+: t := by
  induction t with
  | nil => simp [mentions]
  | cons c t ih => simp [mentions, ih, List.infix_cons_iff]

/-! ## Laying out -/

/-- The text followed by spaces up to a width of `n` scalar values; a longer text stays as it is. -/
def padded (t : Text) (n : Nat) : Text :=
  t ++ List.replicate (n - t.length) ' '

/-- The decimal numeral of `n`, without leading zeros. -/
def decimal (n : Nat) : Text :=
  Nat.toDigits 10 n

theorem isDigit_of_mem_decimal {n : Nat} {d : Char} (h : d ∈ decimal n) : d.isDigit = true :=
  Nat.isDigit_of_mem_toDigits (by decide) (by decide) h

theorem decimal_ne_nil (n : Nat) : decimal n ≠ [] :=
  Nat.toDigits_ne_nil

/-- A numeral is read as the number that it was written for. -/
theorem ofDigitChars_decimal (n : Nat) : Nat.ofDigitChars 10 (decimal n) 0 = n :=
  Nat.ofDigitChars_ten_toDigits

theorem head?_decimal {n : Nat} (positive : 0 < n) : (decimal n).head? ≠ some '0' := by
  unfold decimal
  induction n using Nat.strongRecOn with
  | _ n ih =>
    by_cases small : n < 10
    · have digit : ∀ m < 10, 0 < m → some m.digitChar ≠ some '0' := by decide
      rw [Nat.toDigits_of_lt_base small, List.head?_cons]
      exact digit n small positive
    · have front := ih (n / 10) (by omega) (by omega)
      rw [Nat.toDigits_of_base_le (by omega) (by omega)]
      obtain ⟨d, digits, split⟩ := List.exists_cons_of_ne_nil (decimal_ne_nil (n / 10))
      rw [decimal] at split
      rw [split] at front ⊢
      exact front

/-- The texts one after another with `separator` between neighbours. -/
def joined (separator : Text) (parts : List Text) : Text :=
  List.intercalate separator parts

theorem joined_cons_cons (separator p q : Text) (ps : List Text) :
    joined separator (p :: q :: ps) = p ++ (separator ++ joined separator (q :: ps)) := by
  simp [joined, List.intercalate]

theorem joined_singleton (separator p : Text) : joined separator [p] = p := by
  simp [joined, List.intercalate]

/-- Texts without the separator are the parts of what they are joined to. -/
theorem fields_joined {c : Char} {parts : List Text} (filled : parts ≠ []) (absent : ∀ p ∈ parts, c ∉ p) :
    fields c (joined [c] parts) = parts := by
  induction parts with
  | nil => exact absurd rfl filled
  | cons p ps ih =>
    have first := fields_eq_singleton (absent p List.mem_cons_self)
    cases ps with
    | nil => rw [joined_singleton, first]
    | cons q ps =>
      rw [joined_cons_cons, List.singleton_append, fields_append, first,
        ih (List.cons_ne_nil q ps) fun p hp => absent p (List.mem_cons_of_mem _ hp)]
      rfl

/-- The parts of a text joined again are the text. -/
theorem joined_fields (c : Char) (t : Text) : joined [c] (fields c t) = t := by
  induction t with
  | nil => exact joined_singleton _ _
  | cons d t ih =>
    obtain ⟨p, ps, split⟩ := List.exists_cons_of_ne_nil (fields_ne_nil c t)
    rw [split] at ih
    by_cases h : d = c
    · have here : fields c (d :: t) = [] :: p :: ps := by simp [fields, h, split]
      rw [here, joined_cons_cons, ih, h]
      rfl
    · have here : fields c (d :: t) = (d :: p) :: ps := by simp [fields, h, split]
      rw [here]
      cases ps with
      | nil => rw [joined_singleton] at ih ⊢; rw [ih]
      | cons q ps => rw [joined_cons_cons] at ih ⊢; rw [← ih]; rfl

theorem mem_joined_iff {c : Char} {separator : Text} (absent : c ∉ separator) {parts : List Text} :
    c ∈ joined separator parts ↔ ∃ p ∈ parts, c ∈ p := by
  induction parts with
  | nil => simp [joined, List.intercalate]
  | cons p ps ih =>
    cases ps with
    | nil => simp [joined_singleton]
    | cons q ps => simp [joined_cons_cons, ih, absent]

/-- If a text does not end in `c`, then what follows its first character does not end in it. -/
theorem getLast?_ne_of_cons {c d : Char} {t : Text} (h : (d :: t).getLast? ≠ some c) : t.getLast? ≠ some c :=
  fun last => h (by rw [List.getLast?_cons, last, Option.getD_some])

/-- Remove from the end the longest run of characters satisfying `p`. -/
def dropEndWhile (p : Char → Bool) (t : Text) : Text :=
  (t.reverse.dropWhile p).reverse

/-- A text that does not end in a character satisfying `p` is kept up to its end. -/
theorem dropEndWhile_eq_self {p : Char → Bool} {t : Text} (h : ∀ c ∈ t.getLast?, p c = false) :
    dropEndWhile p t = t := by
  rw [dropEndWhile]
  cases reversed : t.reverse with
  | nil => exact (List.reverse_eq_nil_iff.mp reversed).symm
  | cons c r =>
    have hc : p c = false := h c (by simp [List.getLast?_eq_head?_reverse, reversed])
    rw [List.dropWhile_cons_of_neg (by simp [hc]), ← reversed, List.reverse_reverse]

theorem dropEndWhile_append_of_pos {p : Char → Bool} {u : Text} (h : ∀ c ∈ u, p c = true) (t : Text) :
    dropEndWhile p (t ++ u) = dropEndWhile p t := by
  unfold dropEndWhile
  rw [List.reverse_append, List.dropWhile_append_of_pos (by simpa using h)]

theorem dropEndWhile_append_takeWhile (p : Char → Bool) (t : Text) :
    dropEndWhile p t ++ (t.reverse.takeWhile p).reverse = t := by
  rw [dropEndWhile, ← List.reverse_append, List.takeWhile_append_dropWhile, List.reverse_reverse]

theorem dropEndWhile_isPrefix (p : Char → Bool) (t : Text) : dropEndWhile p t <+: t :=
  ⟨_, dropEndWhile_append_takeWhile p t⟩

theorem exists_dropEndWhile_append (p : Char → Bool) (t : Text) :
    ∃ dropped, t = dropEndWhile p t ++ dropped ∧ ∀ c ∈ dropped, p c = true :=
  ⟨(t.reverse.takeWhile p).reverse, (dropEndWhile_append_takeWhile p t).symm, fun c hc =>
    List.all_eq_true.mp List.all_takeWhile c (List.mem_reverse.mp hc)⟩

theorem getLast?_dropEndWhile (p : Char → Bool) (t : Text) :
    ∀ c ∈ (dropEndWhile p t).getLast?, p c = false := by
  intro c hc
  have first := List.head?_dropWhile_not p t.reverse
  rw [dropEndWhile, List.getLast?_reverse] at hc
  rw [hc] at first
  exact first

/-- The text without `tail`, if it ends in `tail`. -/
def dropTail? (t tail : Text) : Option Text :=
  if tail.isSuffixOf t then some (t.take (t.length - tail.length)) else none

theorem dropTail?_eq_some_iff {t tail u : Text} : dropTail? t tail = some u ↔ u ++ tail = t := by
  unfold dropTail?
  split
  · next h =>
    obtain ⟨v, rfl⟩ := List.isSuffixOf_iff_suffix.mp h
    simp [eq_comm]
  · next h =>
    refine iff_of_false (by simp) ?_
    rintro rfl
    exact h (List.isSuffixOf_iff_suffix.mpr (List.suffix_append u tail))

theorem dropTail?_append (t tail : Text) : (t ++ tail).dropTail? tail = some t :=
  dropTail?_eq_some_iff.mpr rfl

/-- Of two words neither of which ends in the other, a text ends in one at most. -/
theorem dropTail?_eq_none {t tail other : Text} (h : ¬tail <:+ other) (h' : ¬other <:+ tail) :
    (t ++ other).dropTail? tail = none := by
  refine Option.eq_none_iff_forall_ne_some.mpr fun u found => ?_
  have ends : tail <:+ t ++ other := ⟨u, dropTail?_eq_some_iff.mp found⟩
  rcases List.suffix_or_suffix_of_suffix ends (List.suffix_append t other) with short | long
  · exact h short
  · exact h' long

/-- The text without `head`, if it starts with `head`. -/
def dropHead? (t head : Text) : Option Text :=
  if head.isPrefixOf t then some (t.drop head.length) else none

theorem dropHead?_append (head t : Text) : (head ++ t).dropHead? head = some t := by
  have front : head.isPrefixOf (head ++ t) = true :=
    List.isPrefixOf_iff_prefix.mpr (List.prefix_append head t)
  rw [dropHead?, if_pos front, List.drop_left]

end Text

end CoverageNote
