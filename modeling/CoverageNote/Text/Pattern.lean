import CoverageNote.Text.Basic

/-!
# Patterns

A small language of patterns for the rows of a report : single characters, runs of a class that take
as much or as little as they can, sequences, optional parts, marked groups and the end of the text.

A pattern may match in several ways, and they are tried in a fixed order : a greedy run first takes
all it can, a reluctant one first takes nothing, an optional part is first present. `Pattern.match?`
hands each way to a continuation and stops at the first that succeeds, so the first way in this order
wins.

A pattern is matched at the start of a text (`Pattern.matchStart?`), or at its end, from right to left
(`Pattern.matchEnd?`). `Pattern.rest_append_matched` says that a match found at the end of a text
splits it : what lies before and what was matched are the text.

Which way is the first is said by `Pattern.Prefers`, with one law for each kind of pattern, so the match of
a pattern is put together from those of its parts (`Prefers.matchStart?_eq`, `Prefers.matchEnd?_eq`).
-/

namespace CoverageNote

/-- A pattern for a piece of text. -/
inductive Pattern where
  /-- One character that satisfies `p`. -/
  | one (p : Char → Bool)
  /-- As many characters that satisfy `p` as possible, possibly none. -/
  | many (p : Char → Bool)
  /-- As few characters that satisfy `p` as possible, possibly none. -/
  | few (p : Char → Bool)
  /-- A piece for `a` and then a piece for `b`. -/
  | seq (a b : Pattern)
  /-- A piece for `a`, or else nothing. -/
  | maybe (a : Pattern)
  /-- A piece for `a`, which the match reports. -/
  | group (a : Pattern)
  /-- Nothing, at the end of the text only. -/
  | atEnd

namespace Pattern

instance : HAppend Pattern Pattern Pattern := ⟨seq⟩

/-- The character `c` itself. -/
def char (c : Char) : Pattern :=
  one (· == c)

/-- At least one character that satisfies `p`, as many as possible. -/
def many1 (p : Char → Bool) : Pattern :=
  one p ++ many p

/-- At least one character that satisfies `p`, as few as possible. -/
def few1 (p : Char → Bool) : Pattern :=
  one p ++ few p

/-! ## Matching at the start of a text -/

/-- Try the ends of a greedy run of `p`, the furthest first. -/
def greedy {β : Type} (p : Char → Bool) (k : Text → Option β) : Text → Option β
  | [] => k []
  | c :: t => if p c then (greedy p k t).or (k (c :: t)) else k (c :: t)

/-- Try the ends of a reluctant run of `p`, the nearest first. -/
def reluctant {β : Type} (p : Char → Bool) (k : Text → Option β) : Text → Option β
  | [] => k []
  | c :: t => (k (c :: t)).or (if p c then reluctant p k t else none)

/-- A piece of a text, as what is left of the text where it begins and where it ends. -/
abbrev Span := Text × Text

/-- The piece itself. -/
def Span.text (s : Span) : Text :=
  s.1.take (s.1.length - s.2.length)

@[simp]
theorem Span.text_append (piece rest : Text) : Span.text (piece ++ rest, rest) = piece := by
  simp [text]

@[simp]
theorem Span.text_nil (piece : Text) : Span.text (piece, []) = piece := by
  simp [text]

/-- Match the start of `t` and give `k` the rest and the groups, in every way until one succeeds. -/
def match? {β : Type} : Pattern → Text → (Text → List Span → Option β) → Option β
  | one p, t, k =>
    match t with
    | [] => none
    | c :: r => if p c then k r [] else none
  | many p, t, k => greedy p (fun r => k r []) t
  | few p, t, k => reluctant p (fun r => k r []) t
  | seq a b, t, k => a.match? t fun r gs => b.match? r fun r' hs => k r' (gs ++ hs)
  | maybe a, t, k => (a.match? t k).or (k t [])
  | group a, t, k => a.match? t fun r gs => k r ((t, r) :: gs)
  | atEnd, t, k => if t.isEmpty then k t [] else none

theorem match?_seq {β : Type} (a b : Pattern) (t : Text) (k : Text → List Span → Option β) :
    (a ++ b).match? t k = a.match? t fun r gs => b.match? r fun r' hs => k r' (gs ++ hs) := rfl

theorem match?_group {β : Type} (a : Pattern) (t : Text) (k : Text → List Span → Option β) :
    (group a).match? t k = a.match? t fun r gs => k r ((t, r) :: gs) := rfl

theorem match?_seq_seq {β : Type} (a b c : Pattern) (t : Text) (k : Text → List Span → Option β) :
    (a ++ b ++ c).match? t k = (a ++ (b ++ c)).match? t k := by
  simp only [match?_seq, List.append_assoc]

/-! ## Finding a match -/

/-- A match of a pattern at one end of a text : the piece with its groups, and the rest of the text. -/
structure Match where
  matched : Text
  groups : List Text
  rest : Text
deriving Repr, DecidableEq

/-- The match at the start of a text, if there is one. -/
def matchStart? (a : Pattern) (t : Text) : Option Match :=
  a.match? t fun rest groups => some ⟨Span.text (t, rest), groups.map Span.text, rest⟩

/-- A match in a text that is read from right to left. -/
def Match.mirrored (m : Match) : Match :=
  ⟨m.matched.reverse, m.groups.map List.reverse, m.rest.reverse⟩

/-- The match at the end of a text, if there is one. The pattern is that of the text read from right to
left. -/
def matchEnd? (a : Pattern) (t : Text) : Option Match :=
  (a.matchStart? t.reverse).map Match.mirrored

/-- The text without the match at its end, if there is one. -/
def eraseEnd (a : Pattern) (t : Text) : Text :=
  match a.matchEnd? t with
  | some m => m.rest
  | none => t

/-! ## Runs of a class -/

section Runs

variable {β : Type} {b : β} {p : Char → Bool} {k : Text → Option β} {run rest t : Text}

/-- A greedy run has gone on behind some characters of its class. -/
theorem exists_run_of_greedy (h : greedy p k t = some b) :
    ∃ run rest, t = run ++ rest ∧ (∀ c ∈ run, p c = true) ∧ k rest = some b := by
  induction t with
  | nil => exact ⟨[], [], rfl, by simp, h⟩
  | cons c t ih =>
    by_cases hc : p c
    · simp only [greedy, hc, if_true, Option.or_eq_some_iff] at h
      rcases h with h | ⟨_, h⟩
      · obtain ⟨run, rest, rfl, hrun, hk⟩ := ih h
        exact ⟨c :: run, rest, rfl, by simpa [hc] using hrun, hk⟩
      · exact ⟨[], c :: t, rfl, by simp, h⟩
    · exact ⟨[], c :: t, rfl, by simp, by simpa [greedy, hc] using h⟩

/-- A reluctant run has gone on behind some characters of its class. -/
theorem exists_run_of_reluctant (h : reluctant p k t = some b) :
    ∃ run rest, t = run ++ rest ∧ (∀ c ∈ run, p c = true) ∧ k rest = some b := by
  induction t with
  | nil => exact ⟨[], [], rfl, by simp, h⟩
  | cons c t ih =>
    simp only [reluctant, Option.or_eq_some_iff] at h
    rcases h with h | ⟨_, h⟩
    · exact ⟨[], c :: t, rfl, by simp, h⟩
    · by_cases hc : p c
      · obtain ⟨run, rest, rfl, hrun, hk⟩ := ih (by simpa [hc] using h)
        exact ⟨c :: run, rest, rfl, by simpa [hc] using hrun, hk⟩
      · simp [hc] at h

/-- A greedy run takes all there is of its class, if what follows can go on from there. -/
theorem greedy_append (hrun : ∀ c ∈ run, p c = true) (hrest : ∀ c ∈ rest.head?, p c = false)
    (hk : k rest = some b) : greedy p k (run ++ rest) = some b := by
  induction run with
  | nil =>
    cases rest with
    | nil => exact hk
    | cons c rest => simpa [greedy, hrest c rfl] using hk
  | cons c run ih =>
    have taken := ih fun d hd => hrun d (List.mem_cons_of_mem c hd)
    simp [greedy, hrun c List.mem_cons_self, taken]

/-- A reluctant run passes what it has to, if what follows cannot go on before. -/
theorem reluctant_append (hrun : ∀ c ∈ run, p c = true)
    (hk : ∀ c ∈ run, ∀ t, k (c :: t) = none) :
    reluctant p k (run ++ rest) = reluctant p k rest := by
  induction run with
  | nil => rfl
  | cons c run ih =>
    have passed := ih (fun d hd => hrun d (List.mem_cons_of_mem c hd))
      fun d hd => hk d (List.mem_cons_of_mem c hd)
    simp [reluctant, hrun c List.mem_cons_self, hk c List.mem_cons_self, passed]

end Runs

/-- A run of at least one character has gone on behind some characters of its class. -/
theorem exists_run_of_many1 {β : Type} {b : β} {p : Char → Bool} {t : Text}
    {k : Text → List Span → Option β} (h : (many1 p).match? t k = some b) :
    ∃ c run rest, t = c :: (run ++ rest) ∧ (∀ d ∈ c :: run, p d = true) ∧ k rest [] = some b := by
  cases t with
  | nil => cases h
  | cons c t =>
    by_cases hc : p c
    · simp only [many1, match?_seq, match?, hc, if_true] at h
      obtain ⟨run, rest, rfl, hrun, hk⟩ := exists_run_of_greedy h
      exact ⟨c, run, rest, rfl, by simpa [hc] using hrun, hk⟩
    · simp [many1, match?_seq, match?, hc] at h

theorem exists_run_of_few1 {β : Type} {b : β} {p : Char → Bool} {t : Text}
    {k : Text → List Span → Option β} (h : (few1 p).match? t k = some b) :
    ∃ c run rest, t = c :: (run ++ rest) ∧ (∀ d ∈ c :: run, p d = true) ∧ k rest [] = some b := by
  cases t with
  | nil => cases h
  | cons c t =>
    by_cases hc : p c
    · simp only [few1, match?_seq, match?, hc, if_true] at h
      obtain ⟨run, rest, rfl, hrun, hk⟩ := exists_run_of_reluctant h
      exact ⟨c, run, rest, rfl, by simpa [hc] using hrun, hk⟩
    · simp [few1, match?_seq, match?, hc] at h

theorem exists_rest_of_char {β : Type} {b : β} {c : Char} {t : Text}
    {k : Text → List Span → Option β} (h : (char c).match? t k = some b) :
    ∃ rest, t = c :: rest ∧ k rest [] = some b := by
  cases t with
  | nil => cases h
  | cons d t =>
    by_cases hd : d = c
    · subst hd
      exact ⟨t, rfl, by simpa [char, match?] using h⟩
    · simp [char, match?, hd] at h

/-! ## A match splits the text -/

/-- A successful match went on from a suffix of the text. -/
theorem exists_suffix_of_match? {β : Type} {b : β} :
    ∀ {a : Pattern} {t : Text} {k : Text → List Span → Option β}, a.match? t k = some b →
      ∃ rest groups, rest <:+ t ∧ k rest groups = some b
  | one p, t, k, h => by
    cases t with
    | nil => simp [match?] at h
    | cons c t =>
      by_cases hc : p c
      · exact ⟨t, [], List.suffix_cons c t, by simpa [match?, hc] using h⟩
      · simp [match?, hc] at h
  | many p, t, k, h => by
    obtain ⟨run, rest, rfl, -, hk⟩ := exists_run_of_greedy h
    exact ⟨rest, [], List.suffix_append run rest, hk⟩
  | few p, t, k, h => by
    obtain ⟨run, rest, rfl, -, hk⟩ := exists_run_of_reluctant h
    exact ⟨rest, [], List.suffix_append run rest, hk⟩
  | seq a c, t, k, h => by
    obtain ⟨r, gs, hr, h⟩ := exists_suffix_of_match? (a := a) h
    obtain ⟨r', hs, hr', h⟩ := exists_suffix_of_match? (a := c) h
    exact ⟨r', gs ++ hs, hr'.trans hr, h⟩
  | maybe a, t, k, h => by
    simp only [match?, Option.or_eq_some_iff] at h
    rcases h with h | ⟨_, h⟩
    · exact exists_suffix_of_match? (a := a) h
    · exact ⟨t, [], List.suffix_rfl, h⟩
  | group a, t, k, h => by
    obtain ⟨r, gs, hr, h⟩ := exists_suffix_of_match? (a := a) h
    exact ⟨r, _, hr, h⟩
  | atEnd, t, k, h => by
    by_cases ht : t.isEmpty
    · exact ⟨t, [], List.suffix_rfl, by simpa [match?, ht] using h⟩
    · simp [match?, ht] at h

/-- A match at the start of a text and what lies behind it are the text. -/
theorem matched_append_rest {a : Pattern} {t : Text} {m : Match} (h : a.matchStart? t = some m) :
    m.matched ++ m.rest = t := by
  obtain ⟨rest, groups, ⟨p, rfl⟩, hk⟩ := exists_suffix_of_match? h
  obtain rfl := Option.some.inj hk
  simp [Span.text]

/-- What lies before a match at the end of a text and the match itself are the text. -/
theorem rest_append_matched {a : Pattern} {t : Text} {m : Match} (h : a.matchEnd? t = some m) :
    m.rest ++ m.matched = t := by
  obtain ⟨n, hn, rfl⟩ := Option.map_eq_some_iff.mp h
  rw [← List.reverse_reverse t, ← matched_append_rest hn]
  simp [Match.mirrored]

/-! ## The way that is tried first -/

/-- The pattern matches the start of `t` up to `rest`, and whatever follows goes on from there if it can :
no other way is tried before this one. -/
def Prefers (a : Pattern) (t rest : Text) (groups : List Span) : Prop :=
  ∀ ⦃β : Type⦄ (k : Text → List Span → Option β) (b : β),
    k rest groups = some b → a.match? t k = some b

/-- The pattern does not match the start of `t` in any way, whatever follows. -/
def Fails (a : Pattern) (t : Text) : Prop :=
  ∀ ⦃β : Type⦄ (k : Text → List Span → Option β), a.match? t k = none

namespace Fails

variable {a : Pattern} {p : Char → Bool} {t : Text}

theorem one (h : ∀ c ∈ t.head?, p c = false) : Fails (.one p) t := by
  intro β k
  cases t with
  | nil => rfl
  | cons c t => simp [match?, h c rfl]

theorem seq (ha : Fails a t) (b : Pattern) : Fails (a ++ b) t :=
  fun _ k => ha fun r gs => b.match? r fun r' hs => k r' (gs ++ hs)

theorem many1 (h : ∀ c ∈ t.head?, p c = false) : Fails (.many1 p) t :=
  (one h).seq _

/-- What fails behind a character fails with the character before it. -/
theorem behind {c : Char} (h : Fails a t) : Fails (.char c ++ a) (c :: t) := by
  intro β k
  simpa [match?_seq, Pattern.char, match?] using h k

end Fails

namespace Prefers

variable {a b : Pattern} {p : Char → Bool} {c : Char} {run piece t rest rest' : Text}
  {groups groups' : List Span}

theorem one (hc : p c = true) : Prefers (.one p) (c :: rest) rest [] :=
  fun _ _ _ h => by simpa [match?, hc] using h

theorem char (c : Char) (rest : Text) : Prefers (.char c) (c :: rest) rest [] :=
  one (by simp)

theorem many (hrun : ∀ c ∈ run, p c = true) (hrest : ∀ c ∈ rest.head?, p c = false) :
    Prefers (.many p) (run ++ rest) rest [] :=
  fun _ _ _ h => greedy_append hrun hrest h

theorem many_nil (hrest : ∀ c ∈ rest.head?, p c = false) : Prefers (.many p) rest rest [] :=
  @many p [] rest (by simp) hrest

/-- What a greedy run of a class leaves is what is left without the characters of the class. -/
theorem many_dropWhile (p : Char → Bool) (t : Text) : Prefers (.many p) t (t.dropWhile p) [] := by
  have stops : ∀ c ∈ (t.dropWhile p).head?, p c = false := by
    intro c hc
    have first := List.head?_dropWhile_not p t
    rw [hc] at first
    exact first
  have run : Prefers (.many p) (t.takeWhile p ++ t.dropWhile p) (t.dropWhile p) [] :=
    many (List.all_eq_true.mp List.all_takeWhile) stops
  rwa [List.takeWhile_append_dropWhile] at run

theorem seq (ha : Prefers a t rest groups) (hb : Prefers b rest rest' groups') :
    Prefers (a ++ b) t rest' (groups ++ groups') :=
  fun _ k _ h => ha _ _ (hb (fun r gs => k r (groups ++ gs)) _ h)

theorem many1 (hne : run ≠ []) (hrun : ∀ c ∈ run, p c = true)
    (hrest : ∀ c ∈ rest.head?, p c = false) : Prefers (.many1 p) (run ++ rest) rest [] := by
  obtain ⟨c, run, rfl⟩ := List.exists_cons_of_ne_nil hne
  exact seq (one (hrun c List.mem_cons_self))
    (many (fun d hd => hrun d (List.mem_cons_of_mem c hd)) hrest)

theorem group (ha : Prefers a t rest groups) : Prefers (.group a) t rest ((t, rest) :: groups) :=
  fun _ k _ h => ha (fun r gs => k r ((t, r) :: gs)) _ h

theorem present (ha : Prefers a t rest groups) : Prefers (.maybe a) t rest groups :=
  fun _ k _ h => by simp [match?, ha k _ h]

theorem absent (ha : Fails a t) : Prefers (.maybe a) t t [] :=
  fun _ k _ h => by simp [match?, ha k, h]

theorem atEnd : Prefers .atEnd [] [] [] :=
  fun _ _ _ h => by simpa [match?] using h

/-- An optional part is passed over if what follows it cannot go on behind it. -/
theorem absent_seq (ha : Fails (a ++ b) t) (hb : Prefers b t rest groups) :
    Prefers (.maybe a ++ b) t rest groups := by
  intro β k d h
  have skipped := hb k d h
  have passed : a.match? t (fun r gs => b.match? r fun r' hs => k r' (gs ++ hs)) = none := ha k
  show (a.match? t _).or (b.match? t fun r hs => k r ([] ++ hs)) = some d
  rw [passed]
  exact skipped

theorem assoc {c : Pattern} (h : Prefers (a ++ (b ++ c)) t rest groups) :
    Prefers (a ++ b ++ c) t rest groups :=
  fun _ k d hd => (match?_seq_seq a b c t k).trans (h k d hd)

/-- A reluctant run with a character behind it reaches to the first such character, but takes at least
one. -/
theorem few1_char (hne : run ≠ []) (hrun : ∀ d ∈ run, p d = true) (hc : c ∉ run.tail) (rest : Text) :
    Prefers (.group (.few1 p) ++ .char c) (run ++ c :: rest) rest
      [(run ++ c :: rest, c :: rest)] := by
  intro β k b h
  obtain ⟨d, run, rfl⟩ := List.exists_cons_of_ne_nil hne
  -- Before the end of the run the character is not the one that is to follow.
  let next : Text → Option β := fun r =>
    (Pattern.char c).match? r fun r' _ => k r' [(d :: run ++ c :: rest, r)]
  have passed : reluctant p next (run ++ c :: rest) = reluctant p next (c :: rest) :=
    reluctant_append (fun e he => hrun e (List.mem_cons_of_mem d he)) fun e he t => by
      have hec : e ≠ c := fun hec => hc (hec ▸ he)
      simp [next, Pattern.char, match?, hec]
  show (if p d then reluctant p next (run ++ c :: rest) else none) = some b
  rw [if_pos (hrun d List.mem_cons_self), passed]
  have stops : next (c :: rest) = some b := by simpa [next, Pattern.char, match?] using h
  simp [reluctant, stops]

/-- What is matched at the start of a text. -/
theorem matchStart?_eq (h : Prefers a t rest groups) :
    a.matchStart? t = some ⟨Span.text (t, rest), groups.map Span.text, rest⟩ :=
  h _ _ rfl

/-- What is matched at the end of a text. -/
theorem matchEnd?_eq (h : Prefers a (piece.reverse ++ rest.reverse) rest.reverse groups) :
    a.matchEnd? (rest ++ piece) =
      some ⟨piece, (groups.map Span.text).map List.reverse, rest⟩ := by
  rw [matchEnd?, List.reverse_append, h.matchStart?_eq]
  simp [Match.mirrored]

end Prefers

end Pattern

end CoverageNote
