import CoverageNote.Url.Host
import Mathlib.Data.List.TakeWhile
import Mathlib.Tactic.Tauto

/-!
# Controls in the name of a host

A control or a space stays in the text of a domain name whatever is done to it : no mapping, no composition
and no Punycode takes it away (`Text.mem_normal`, `Punycode.mem_encode`, `Punycode.mem_decode?`). At the end
the name is checked for it, so there is no such name (`Domain.toAscii?_eq_none`).

It is also a byte of its own in UTF-8 (`Utf8.mem_encode`), which percent-decoding leaves alone. So a text that
ends in a control or a space is not the host of a URL for the web (`Url.Host.ofWeb_concat`).
-/

namespace CoverageNote

/-! ## Controls and spaces -/

theorem not_le_of_control {c d : Char} (control : c.toNat ≤ 0x20) (h : 0x20 < d.toNat) : ¬ d ≤ c :=
  fun le => Nat.not_le_of_lt h (Nat.le_trans le control)

theorem ne_of_control {c d : Char} (control : c.toNat ≤ 0x20) (h : 0x20 < d.toNat) : c ≠ d := by
  rintro rfl
  exact Nat.not_le_of_lt h control

/-! ## Texts taken apart -/

/-- Where every element has an image, the images are those of the elements. -/
theorem Option.exists_mem_of_mapM {α β : Type} {f : α → Option β} {as : List α} {bs : List β}
    (h : as.mapM f = some bs) {a : α} (mem : a ∈ as) : ∃ b ∈ bs, f a = some b := by
  induction as generalizing bs with
  | nil => cases mem
  | cons first as ih =>
    rw [List.mapM_cons] at h
    obtain ⟨b, image, h⟩ := Option.bind_eq_some_iff.mp h
    obtain ⟨rest, images, h⟩ := Option.bind_eq_some_iff.mp h
    cases h
    rcases List.mem_cons.mp mem with rfl | mem
    · exact ⟨b, List.mem_cons_self, image⟩
    · obtain ⟨b', hb', image'⟩ := ih images mem
      exact ⟨b', List.mem_cons_of_mem b hb', image'⟩

namespace Text

theorem mem_fields {c sign : Char} {t : Text} (h : c ∈ t) (ne : c ≠ sign) :
    ∃ part ∈ fields sign t, c ∈ part := by
  rw [← joined_fields sign t] at h
  exact (mem_joined_iff (by simpa using ne)).mp h

/-! ## The normal form -/

theorem all_assignments {lines : List String} {check : Text × Text → Bool}
    (h : (lines.all fun line => ((fields ' ' line.toList).filterMap (cut? '>')).all check) = true) :
    (assignments lines).all check = true := by
  rw [assignments, List.filterMap_flatMap, List.all_flatMap]
  exact h

/-- All that composes lies above the space. -/
theorem compositions_above : (compositions.all fun p => p.1.all fun n => 0x20 < n) = true := by
  rw [compositions, List.all_map]
  refine all_assignments ?_
  -- line by line, so that no line has to be taken apart but by its characters
  repeat
    rw [List.all_cons, Bool.and_eq_true]
    refine ⟨by rw [String.toList_ofList]; decide +kernel, ?_⟩
  rfl

/-- A control or a space composes with nothing. -/
theorem composed?_eq_none {a b : Char} (h : a.toNat ≤ 0x20 ∨ b.toNat ≤ 0x20) :
    composed? a b = none := by
  have absent : compositions.find? (fun p => p.1 = [a.toNat, b.toNat]) = none := by
    refine List.find?_eq_none.mpr fun p hp same => ?_
    have above := List.all_eq_true.mp compositions_above p hp
    rw [of_decide_eq_true same] at above
    simp only [List.all_cons, List.all_nil, Bool.and_true, Bool.and_eq_true,
      decide_eq_true_eq] at above
    omega
  unfold composed?
  dsimp only
  rw [if_neg (by omega), if_neg (by omega), absent]
  rfl

section Control

variable {c : Char} (control : c.toNat ≤ 0x20)
include control

/-- A control is not lost in a composition. -/
theorem mem_compose {starter : Char} {waiting t : Text} (h : c ∈ starter :: (waiting ++ t)) :
    c ∈ compose starter waiting t := by
  induction t generalizing starter waiting with
  | nil => simpa [compose] using h
  | cons d t ih =>
    have rest : c = starter ∨ c ∈ waiting ∨ c = d ∨ c ∈ t := by simpa using h
    unfold compose
    dsimp only
    split
    · next whole found =>
      have other : c ≠ starter ∧ c ≠ d := by
        constructor <;> rintro rfl
        · rw [composed?_eq_none (.inl control), ite_self] at found
          cases found
        · rw [composed?_eq_none (.inr control), ite_self] at found
          cases found
      refine ih ?_
      simp only [List.mem_cons, List.mem_append]
      tauto
    · split
      · have first : c = d ∨ c ∈ t → c ∈ compose d [] t := fun h => ih (by simpa using h)
        simp only [List.mem_cons, List.mem_append, List.mem_reverse]
        tauto
      · refine ih ?_
        simp only [List.mem_cons, List.mem_append]
        tauto

theorem mem_composeAll {t : Text} (h : c ∈ t) : c ∈ composeAll t := by
  induction t with
  | nil => cases h
  | cons d t ih =>
    rw [composeAll]
    split
    · exact mem_compose control (by simpa using h)
    · rcases List.mem_cons.mp h with rfl | h
      · exact List.mem_cons_self
      · exact List.mem_cons_of_mem d (ih h)

omit control in
theorem mem_insertMark {d : Char} {t : Text} : c ∈ insertMark d t ↔ c = d ∨ c ∈ t := by
  induction t with
  | nil => simp [insertMark]
  | cons e t ih =>
    rw [insertMark]
    split
    · simp only [List.mem_cons, ih]
      tauto
    · simp

omit control in
theorem mem_sortMarks {t : Text} (h : c ∈ t) : c ∈ sortMarks t := by
  have sorted (t before : Text) (h : c ∈ before ∨ c ∈ t) :
      c ∈ t.foldl (fun r c => insertMark c r) before := by
    induction t generalizing before with
    | nil => simpa using h
    | cons d t ih =>
      refine ih _ ?_
      rw [mem_insertMark]
      simp only [List.mem_cons] at h
      tauto
  exact List.mem_reverse.mpr (sorted t [] (.inr h))

/-- The normal form of a text keeps it. -/
theorem mem_normal {t : Text} (h : c ∈ t) : c ∈ t.normal := by
  rw [normal]
  split
  · exact h
  · have whole : decomposed c = [c] := if_pos (by omega)
    exact mem_composeAll control
      (mem_sortMarks (List.mem_flatMap.mpr ⟨c, h, by rw [whole]; exact List.mem_singleton.mpr rfl⟩))

end Control

end Text

/-! ## Punycode -/

namespace Punycode

/-- What is written stays while one code is inserted. -/
theorem Writer.prefix_insertAll (plain n : Nat) (w : Writer) (t : Text) :
    w.text <+: (w.insertAll plain n t).text := by
  induction t generalizing w with
  | nil => exact List.prefix_rfl
  | cons c t ih =>
    unfold insertAll
    refine List.IsPrefix.trans ?_ (ih _)
    split
    · exact List.prefix_rfl
    · split
      · exact List.prefix_append _ _
      · exact List.prefix_rfl

/-- What is written stays to the end. -/
theorem Writer.prefix_run (whole : Text) (plain : Nat) (w : Writer) (done : Nat) (ns : List Nat) :
    w.text <+: (w.run whole plain done ns).text := by
  induction ns generalizing w done with
  | nil => exact List.prefix_rfl
  | cons n ns ih =>
    unfold run
    refine List.IsPrefix.trans ?_ (ih _ _)
    exact Writer.prefix_insertAll plain n { w with delta := w.delta + (n - done) * (w.written + 1) } whole

/-- Punycode keeps the characters of ASCII. -/
theorem mem_encode {c : Char} {t : Text} (ascii : c.toNat < 0x80) (h : c ∈ t) : c ∈ encode t := by
  have kept : c ∈ t.filter fun c => c.toNat < 0x80 := List.mem_filter.mpr ⟨h, by simpa using ascii⟩
  unfold encode
  dsimp only
  refine (Writer.prefix_run _ _ _ _ _).subset ?_
  rw [if_neg (by simpa using List.ne_nil_of_mem kept)]
  exact List.mem_append_left _ kept

theorem Reader.mem_step? {c d : Char} {r r' : Reader} (step : r.step? d = some r') (h : c ∈ r.text) :
    c ∈ r'.text := by
  unfold step? at step
  obtain ⟨value, -, step⟩ := Option.bind_eq_some_iff.mp step
  dsimp only at step
  split at step
  · cases step
  split at step
  · split at step
    · cases step
      exact h
    · cases step
  split at step
  · cases step
    have parted := List.mem_append.mp ((List.take_append_drop
      ((r.place + (r.value + value * r.weight)) % (r.text.length + 1)) r.text).symm ▸ h)
    simp only [List.mem_append, List.mem_cons]
    tauto
  · cases step

/-- A character that is read stays in the text after all digits. -/
theorem Reader.mem_foldlM {c : Char} {digits : Text} {r r' : Reader}
    (read : digits.foldlM step? r = some r') (h : c ∈ r.text) : c ∈ r'.text := by
  induction digits generalizing r with
  | nil =>
    cases read
    exact h
  | cons d digits ih =>
    rw [List.foldlM_cons] at read
    obtain ⟨next, step, read⟩ := Option.bind_eq_some_iff.mp read
    exact ih read (mem_step? step h)

/-- All that is read is digits. -/
theorem Reader.not_mem_of_foldlM {c : Char} {digits : Text} (other : digit? c = none) {r r' : Reader}
    (read : digits.foldlM step? r = some r') : c ∉ digits := by
  induction digits generalizing r with
  | nil => exact List.not_mem_nil
  | cons d digits ih =>
    rw [List.foldlM_cons] at read
    obtain ⟨next, step, read⟩ := Option.bind_eq_some_iff.mp read
    rintro (_ | ⟨_, later⟩)
    · rw [step?, other] at step
      cases step
    · exact ih read later

/-- What stands before the digits reaches up to the last hyphen. -/
theorem take_length_sub (t : Text) :
    t.take (t.length - (t.reverse.takeWhile (· != '-')).reverse.length) = t.dropEndWhile (· != '-') := by
  have cut (front digits : Text) :
      (front ++ digits).take ((front ++ digits).length - digits.length) = front := by simp
  have parted := cut (t.dropEndWhile (· != '-')) (t.reverse.takeWhile (· != '-')).reverse
  rwa [Text.dropEndWhile_append_takeWhile] at parted

/-- What is read from Punycode holds all that is no digit, the hyphen apart. -/
theorem mem_decode? {c : Char} {t read : Text} (other : digit? c = none) (ne : c ≠ '-')
    (decoded : decode? t = some read) (h : c ∈ t) : c ∈ read := by
  unfold decode? at decoded
  dsimp only at decoded
  rw [take_length_sub] at decoded
  split at decoded
  · cases decoded
  obtain ⟨r, run, last⟩ := Option.bind_eq_some_iff.mp decoded
  split at last
  · cases last
    have before : c ∈ t.dropEndWhile (· != '-') := by
      rw [← Text.dropEndWhile_append_takeWhile (· != '-') t] at h
      exact (List.mem_append.mp h).resolve_right (Reader.not_mem_of_foldlM other run)
    have filled := List.ne_nil_of_mem before
    have hyphen := Text.getLast?_dropEndWhile (· != '-') t _ (List.getLast?_eq_some_getLast filled)
    refine Reader.mem_foldlM run ?_
    rw [← List.dropLast_concat_getLast filled] at before
    refine (List.mem_append.mp before).resolve_right fun same => ne ?_
    rw [List.mem_singleton.mp same]
    simpa using hyphen
  · cases last

end Punycode

/-! ## Domain names -/

namespace Domain

variable {c : Char} (control : c.toNat ≤ 0x20)
include control

theorem digit?_eq_none : Punycode.digit? c = none := by
  unfold Punycode.digit?
  rw [if_neg fun h => not_le_of_control control (by decide) h.1,
    if_neg fun h => not_le_of_control control (by decide) h.1,
    if_neg fun h => not_le_of_control control (by decide) h.1]

theorem mem_readLabel? {t label : Text} (read : readLabel? t = some label) (h : c ∈ t) : c ∈ label := by
  unfold readLabel? at read
  split at read
  · split at read
    · cases read
      exact h
    · cases read
  · next code parted =>
    split at read
    · have behind : c ∈ code := by
        unfold Text.dropHead? at parted
        split at parted
        · next first =>
          cases parted
          obtain ⟨rest, rfl⟩ := List.isPrefixOf_iff_prefix.mp first
          rw [List.drop_left]
          refine (List.mem_append.mp h).resolve_left fun inside => ?_
          have above : (aceHead.all fun d => 0x20 < d.toNat) = true := by decide
          exact Nat.not_le_of_lt (of_decide_eq_true (List.all_eq_true.mp above c inside)) control
        · cases parted
      exact Punycode.mem_decode? (digit?_eq_none control) (ne_of_control control (by decide))
        (Option.filter_eq_some_iff.mp read).1 behind
    · cases read

/-- A control in a text is written into its label. -/
theorem mem_writeLabel {t : Text} (h : c ∈ t) : c ∈ writeLabel t := by
  unfold writeLabel
  split
  · exact h
  · exact List.mem_append_right _ (Punycode.mem_encode (by omega) h)

/-- There is no domain name for a text with a control or a space. -/
theorem toAscii?_eq_none {t : Text} (h : c ∈ t) : toAscii? t = none := by
  have small : c.toLower = c := by
    refine dif_neg fun capital => ?_
    have : 'A'.toNat ≤ c.toNat := capital.1
    exact absurd (Nat.le_trans this control) (by decide)
  have mapped : c ∈ t.flatMap fun c => if isAscii c then [c.toLower] else mapChar c := by
    refine List.mem_flatMap.mpr ⟨c, h, ?_⟩
    rw [if_pos (by simp only [isAscii, decide_eq_true_eq]; omega), small]
    exact List.mem_singleton.mpr rfl
  have point : c ≠ '.' := ne_of_control control (by decide)
  obtain ⟨part, hpart, inside⟩ := Text.mem_fields (Text.mem_normal control mapped) point
  unfold toAscii?
  dsimp only
  split
  · rfl
  next labels read =>
  split
  · rfl
  obtain ⟨label, hlabel, found⟩ := Option.exists_mem_of_mapM read hpart
  have written : c ∈ Text.joined ['.'] (labels.map writeLabel) :=
    (Text.mem_joined_iff (by simpa using point)).mpr ⟨writeLabel label, List.mem_map_of_mem hlabel,
      mem_writeLabel control (mem_readLabel? control found inside)⟩
  rw [if_pos]
  exact List.any_eq_true.mpr ⟨c, written, by simp [isForbidden, control]⟩

end Domain

/-! ## Bytes -/

namespace Utf8

/-- A byte below 0x80 is a character of ASCII, and no part of another one. -/
theorem mem_utf8EncodeChar {c d : Char} (ascii : c.toNat < 0x80) :
    UInt8.ofNat c.toNat ∈ String.utf8EncodeChar d ↔ c = d := by
  have apart {n : Nat} (high : 0x80 ≤ n % 256) : UInt8.ofNat c.toNat ≠ UInt8.ofNat n := fun same => by
    have := congrArg UInt8.toNat same
    simp only [UInt8.toNat_ofNat'] at this
    omega
  have value : d.val.toNat = d.toNat := rfl
  unfold String.utf8EncodeChar
  dsimp only
  rw [value]
  split
  · next low =>
    rw [List.mem_singleton]
    refine ⟨fun same => Char.toNat_inj.mp ?_, fun same => same ▸ rfl⟩
    have := congrArg UInt8.toNat same
    simp only [UInt8.toNat_ofNat'] at this
    omega
  · next high =>
    refine iff_of_false (fun mem => ?_) (fun same => high (by rw [← same]; omega))
    split at mem
    · simp only [List.mem_cons, List.not_mem_nil, or_false] at mem
      rcases mem with mem | mem <;> exact apart (by omega) mem
    split at mem
    · simp only [List.mem_cons, List.not_mem_nil, or_false] at mem
      rcases mem with mem | mem | mem <;> exact apart (by omega) mem
    · simp only [List.mem_cons, List.not_mem_nil, or_false] at mem
      rcases mem with mem | mem | mem | mem <;> exact apart (by omega) mem

/-- An ASCII character is in a text exactly if its byte is in the encoding. -/
theorem mem_encode {c : Char} (ascii : c.toNat < 0x80) {t : Text} :
    UInt8.ofNat c.toNat ∈ encode t ↔ c ∈ t := by
  simp only [encode, List.mem_flatMap, mem_utf8EncodeChar ascii]
  simp

/-- A text that was decoded is encoded to the same bytes. -/
theorem encode_of_decode? {bs : List UInt8} {t : Text} (h : decode? bs = some t) : encode t = bs := by
  unfold decode? at h
  dsimp only at h
  split at h
  · next whole =>
    cases h
    exact whole
  · cases h

end Utf8

namespace Url

/-! ## Hosts -/

section Control

variable {c : Char} (control : c.toNat ≤ 0x20)
include control

theorem hexDigit?_eq_none : hexDigit? c = none := by
  unfold hexDigit?
  rw [if_neg fun h => not_le_of_control control (by decide) h.1,
    if_neg fun h => not_le_of_control control (by decide) h.1,
    if_neg fun h => not_le_of_control control (by decide) h.1]

/-- A control is decoded as it is. -/
theorem mem_percentDecode {t : Text} (h : c ∈ t) : UInt8.ofNat c.toNat ∈ percentDecode t := by
  have ascii : c.toNat < 0x80 := by omega
  have other := hexDigit?_eq_none control
  fun_induction percentDecode t with
  | case1 a b t high low second first ih =>
    refine List.mem_cons_of_mem _ (ih ?_)
    rcases List.mem_cons.mp h with rfl | h
    · exact absurd control (by decide)
    rcases List.mem_cons.mp h with rfl | h
    · rw [other] at first
      cases first
    rcases List.mem_cons.mp h with rfl | h
    · rw [other] at second
      cases second
    · exact h
  | case2 a b t no ih =>
    exact List.mem_append_right _
      (ih ((List.mem_cons.mp h).resolve_left (ne_of_control control (by decide))))
  | case3 d t no ih =>
    rcases List.mem_cons.mp h with rfl | h
    · exact List.mem_append_left _ ((Utf8.mem_encode ascii).mpr List.mem_cons_self)
    · exact List.mem_append_right _ (ih h)
  | case4 => cases h

end Control

/-- A text that ends in a control or a space is not the host of a URL for the web. -/
theorem Host.ofWeb_concat {c : Char} (control : c.toNat ≤ 0x20) (t : Text) :
    ∃ problem, Host.ofWeb (t ++ [c]) = .error problem := by
  unfold ofWeb
  split
  · next rest whole =>
    refine ⟨.invalidIpv6, if_neg fun closed => ?_⟩
    have last : (t ++ [c]).getLast? = some c := List.getLast?_concat
    rw [whole, List.getLast?_cons, closed] at last
    cases last
    exact absurd control (by decide)
  · next no =>
    refine ⟨.invalidDomain, ?_⟩
    have absent : (Utf8.decode? (percentDecode (t ++ [c]))).bind Domain.toAscii? = none := by
      refine Option.bind_eq_none_iff.mpr fun name read => Domain.toAscii?_eq_none control ?_
      have byte := mem_percentDecode control (List.mem_append_right t (List.mem_singleton.mpr rfl))
      rwa [← Utf8.encode_of_decode? read, Utf8.mem_encode (by omega)] at byte
    rw [absent]

end Url

end CoverageNote
