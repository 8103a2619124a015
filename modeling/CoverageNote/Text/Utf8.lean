import CoverageNote.Text.Basic

/-!
# UTF-8

`Utf8.encode` writes a text as bytes. `Utf8.decodeLossy` reads any bytes : each maximal part of an
ill-formed sequence that could still have begun a character becomes one U+FFFD, and what follows is
read afresh.

The reader takes one byte at a time and remembers the character it is in the middle of (`Pending`).
What was written is read back (`decodeLossy_encode`). A byte below 0x80 never continues a character, so
the bytes before a line feed and those after it are read independently (`decodeLossy_append_lineFeed`),
and no other bytes are read as a line feed (`lineFeed_not_mem_decodeLossy`).
-/

namespace CoverageNote.Utf8

/-- The UTF-8 bytes of a text. -/
def encode (t : Text) : List UInt8 :=
  t.flatMap String.utf8EncodeChar

/-- The number of bytes of a text in UTF-8. -/
def size (t : Text) : Nat :=
  t.foldl (fun n c => n + c.utf8Size) 0

/-- What stands for bytes that are no character. -/
def replacement : Char := '\uFFFD'

/-! ## Reading byte by byte -/

/-- A character whose first bytes are read : the bits so far, how many bytes are missing, and the
range in which the next one has to lie. -/
structure Pending where
  bits : Nat
  missing : Nat
  low : Nat
  high : Nat
  low_ge : 0x80 ≤ low := by grind

/-- Read a byte that begins a character. The ranges of the second byte leave out the overlong forms,
the surrogates and what lies beyond U+10FFFF. -/
def start (b : Nat) : Text × Option Pending :=
  if b < 0x80 then ([Char.ofNat b], none)
  else if 0xC2 ≤ b ∧ b ≤ 0xDF then
    ([], some { bits := b - 0xC0, missing := 1, low := 0x80, high := 0xBF })
  else if 0xE0 ≤ b ∧ b ≤ 0xEF then
    ([], some {
      bits := b - 0xE0
      missing := 2
      low := if b = 0xE0 then 0xA0 else 0x80
      high := if b = 0xED then 0x9F else 0xBF })
  else if 0xF0 ≤ b ∧ b ≤ 0xF4 then
    ([], some {
      bits := b - 0xF0
      missing := 3
      low := if b = 0xF0 then 0x90 else 0x80
      high := if b = 0xF4 then 0x8F else 0xBF })
  else ([replacement], none)

/-- Read one byte : the characters it completes and the character it leaves unfinished. -/
def step (state : Option Pending) (b : Nat) : Text × Option Pending :=
  match state with
  | none => start b
  | some p =>
    if p.low ≤ b ∧ b ≤ p.high then
      let bits := p.bits * 64 + (b - 0x80)
      if p.missing = 1 then ([Char.ofNat bits], none)
      else ([], some { bits := bits, missing := p.missing - 1, low := 0x80, high := 0xBF })
    else
      let (read, next) := start b
      (replacement :: read, next)

/-- Read the bytes from a state; an unfinished character at the end is ill-formed. -/
def decodeFrom : Option Pending → List UInt8 → Text
  | none, [] => []
  | some _, [] => [replacement]
  | state, b :: bs =>
    let (read, next) := step state b.toNat
    read ++ decodeFrom next bs

/-- Read bytes as UTF-8, with U+FFFD for what is ill-formed. -/
def decodeLossy (bs : List UInt8) : Text :=
  decodeFrom none bs

/-- Read bytes as UTF-8, if they are well-formed. -/
def decode? (bs : List UInt8) : Option Text :=
  let t := decodeLossy bs
  if encode t = bs then some t else none

theorem decodeFrom_cons (state : Option Pending) (b : UInt8) (bs : List UInt8) :
    decodeFrom state (b :: bs) =
      (step state b.toNat).1 ++ decodeFrom (step state b.toNat).2 bs := by
  cases state <;> rfl

/-! ## Reading what was written -/

/-- The bytes behind the first one of a character : the last `k` digits of its number in base 64. -/
def continuation (n : Nat) : Nat → List UInt8
  | 0 => []
  | k + 1 => UInt8.ofNat (n / 64 ^ k % 64 + 0x80) :: continuation n k

theorem toNat_continuationByte (digit : Nat) :
    (UInt8.ofNat (digit % 64 + 0x80)).toNat = digit % 64 + 0x80 := by
  rw [UInt8.toNat_ofNat']
  omega

/-- An unfinished character is read to its end if its next byte lies in the range : from the second of
these bytes on there is no other range than that of a digit. -/
theorem decodeFrom_continuation {n k : Nat} {p : Pending} (missing : p.missing = k + 1)
    (bits : p.bits = n / 64 ^ (k + 1))
    (range : p.low ≤ n / 64 ^ k % 64 + 0x80 ∧ n / 64 ^ k % 64 + 0x80 ≤ p.high) (bs : List UInt8) :
    decodeFrom (some p) (continuation n (k + 1) ++ bs) = Char.ofNat n :: decodeFrom none bs := by
  induction k generalizing p with
  | zero =>
    have whole : p.bits * 64 + (n / 64 ^ 0 % 64 + 0x80 - 0x80) = n := by
      rw [bits]
      simp only [Nat.zero_add, Nat.pow_one, Nat.pow_zero]
      omega
    rw [continuation, continuation, List.singleton_append, decodeFrom_cons, toNat_continuationByte]
    simp only [step, if_pos range, if_pos missing, whole]
    rfl
  | succ k ih =>
    have more : p.missing ≠ 1 := by omega
    have next : p.bits * 64 + (n / 64 ^ (k + 1) % 64 + 0x80 - 0x80) = n / 64 ^ (k + 1) := by
      rw [bits, Nat.pow_succ 64 (k + 1), ← Nat.div_div_eq_div_mul]
      omega
    rw [continuation, List.cons_append, decodeFrom_cons, toNat_continuationByte]
    simp only [step, if_pos range, if_neg more]
    exact ih (by simp only [missing]; rfl) next (by dsimp only; omega)

theorem decodeFrom_lead {n k : Nat} {lead : UInt8} {p : Pending}
    (begun : start lead.toNat = ([], some p)) (missing : p.missing = k + 1)
    (bits : p.bits = n / 64 ^ (k + 1))
    (range : p.low ≤ n / 64 ^ k % 64 + 0x80 ∧ n / 64 ^ k % 64 + 0x80 ≤ p.high) (bs : List UInt8) :
    decodeFrom none (lead :: continuation n (k + 1) ++ bs) = Char.ofNat n :: decodeFrom none bs := by
  rw [List.cons_append, decodeFrom_cons, step, begun]
  exact decodeFrom_continuation missing bits range bs

/-- The bytes of a character are read as that character. That its number is no surrogate's, not too large
and not written with more bytes than it needs is what puts its second byte in the range. -/
theorem decodeFrom_utf8EncodeChar (c : Char) (bs : List UInt8) :
    decodeFrom none (String.utf8EncodeChar c ++ bs) = c :: decodeFrom none bs := by
  have valid : c.toNat < 0xD800 ∨ 0xDFFF < c.toNat ∧ c.toNat < 0x110000 := c.valid
  have value : c.val.toNat = c.toNat := rfl
  have whole : Char.ofNat c.toNat = c := Char.ofNat_toNat c
  unfold String.utf8EncodeChar
  dsimp only
  rw [value]
  generalize c.toNat = n at valid whole
  subst whole
  split
  · have byte : (UInt8.ofNat n).toNat = n := by
      rw [UInt8.toNat_ofNat']
      omega
    have read : start n = ([Char.ofNat n], none) := if_pos (by omega)
    rw [List.singleton_append, decodeFrom_cons, byte, step, read]
    rfl
  split
  · have byte : (UInt8.ofNat (n / 64 % 32 + 192)).toNat = n / 64 + 0xC0 := by
      rw [UInt8.toNat_ofNat']
      omega
    have bytes : [UInt8.ofNat (n / 64 % 32 + 192), UInt8.ofNat (n % 64 + 128)] =
        UInt8.ofNat (n / 64 % 32 + 192) :: continuation n 1 := by simp [continuation]
    rw [bytes]
    refine decodeFrom_lead (by rw [byte, start, if_neg (by omega), if_pos (by omega)]) rfl ?_ ?_ bs
    · simp
    · simp only [Nat.pow_zero, Nat.div_one]
      omega
  split
  · have byte : (UInt8.ofNat (n / 4096 % 16 + 224)).toNat = n / 4096 + 0xE0 := by
      rw [UInt8.toNat_ofNat']
      omega
    have bytes : [UInt8.ofNat (n / 4096 % 16 + 224), UInt8.ofNat (n / 64 % 64 + 128),
        UInt8.ofNat (n % 64 + 128)] = UInt8.ofNat (n / 4096 % 16 + 224) :: continuation n 2 := by
      simp [continuation]
    rw [bytes]
    refine decodeFrom_lead (by
      rw [byte, start, if_neg (by omega), if_neg (by omega), if_pos (by omega)]) rfl ?_ ?_ bs
    · simp
    · constructor <;> dsimp only <;> split <;> omega
  · have byte : (UInt8.ofNat (n / 262144 % 8 + 240)).toNat = n / 262144 + 0xF0 := by
      rw [UInt8.toNat_ofNat']
      omega
    have bytes : [UInt8.ofNat (n / 262144 % 8 + 240), UInt8.ofNat (n / 4096 % 64 + 128),
        UInt8.ofNat (n / 64 % 64 + 128), UInt8.ofNat (n % 64 + 128)] =
        UInt8.ofNat (n / 262144 % 8 + 240) :: continuation n 3 := by simp [continuation]
    rw [bytes]
    refine decodeFrom_lead (by
      rw [byte, start, if_neg (by omega), if_neg (by omega), if_neg (by omega), if_pos (by omega)])
      rfl ?_ ?_ bs
    · simp
    · constructor <;> dsimp only <;> split <;> omega

theorem decodeLossy_encode (t : Text) : decodeLossy (encode t) = t := by
  induction t with
  | nil => rfl
  | cons c t ih =>
    rw [encode, List.flatMap_cons, decodeLossy, decodeFrom_utf8EncodeChar]
    exact congrArg (c :: ·) ih

/-! ## Line feeds -/

theorem step_lineFeed_none : step none 0x0A = (['\n'], none) := rfl

theorem step_lineFeed_some (p : Pending) : step (some p) 0x0A = ([replacement, '\n'], none) := by
  have hn : ¬ (p.low ≤ 0x0A ∧ 0x0A ≤ p.high) := by
    have := p.low_ge
    omega
  simp only [step, hn, if_false]
  rfl

theorem decodeFrom_append_lineFeed (state : Option Pending) (a b : List UInt8) :
    decodeFrom state (a ++ 0x0A :: b) = decodeFrom state a ++ '\n' :: decodeFrom none b := by
  have hb : (0x0A : UInt8).toNat = 0x0A := rfl
  induction a generalizing state with
  | nil =>
    cases state with
    | none => simp [decodeFrom, hb, step_lineFeed_none]
    | some p => simp [decodeFrom, hb, step_lineFeed_some]
  | cons c a ih => simp [decodeFrom, ih]

theorem decodeLossy_append_lineFeed (a b : List UInt8) :
    decodeLossy (a ++ 0x0A :: b) = decodeLossy a ++ '\n' :: decodeLossy b :=
  decodeFrom_append_lineFeed none a b

/-- An unfinished character that will not be one of the first 128, whatever bytes complete it. -/
structure Pending.Sound (p : Pending) : Prop where
  missing : p.missing ≠ 0
  bits : 2 ≤ p.bits * 64 + (p.low - 0x80)
  last : p.missing = 1 → 2 ≤ p.bits

theorem sound_start {b : Nat} : ∀ p ∈ (start b).2, p.Sound := by
  intro p begun
  unfold start at begun
  split at begun
  · cases begun
  split at begun
  · obtain rfl := Option.some.inj begun
    constructor <;> dsimp only <;> omega
  split at begun
  · obtain rfl := Option.some.inj begun
    constructor <;> dsimp only
    · decide
    · split <;> omega
    · simp
  split at begun
  · obtain rfl := Option.some.inj begun
    constructor <;> dsimp only
    · decide
    · split <;> omega
    · simp
  · cases begun

theorem ofNat_ne_lineFeed {n : Nat} (other : n ≠ 0x0A) : Char.ofNat n ≠ '\n' := by
  intro same
  by_cases valid : n.isValidChar
  · rw [Char.ofNat, dif_pos valid] at same
    exact other (congrArg Char.toNat same)
  · rw [Char.ofNat, dif_neg valid] at same
    exact absurd same (by decide)

theorem lineFeed_not_mem_start {b : Nat} (other : b ≠ 0x0A) : '\n' ∉ (start b).1 := by
  unfold start
  split
  · rw [List.mem_singleton]
    exact (ofNat_ne_lineFeed other).symm
  split
  · exact List.not_mem_nil
  split
  · exact List.not_mem_nil
  split
  · exact List.not_mem_nil
  · decide

/-- A byte that is no line feed completes none. -/
theorem lineFeed_not_mem_step {state : Option Pending} (sound : ∀ p ∈ state, p.Sound) {b : Nat}
    (other : b ≠ 0x0A) : '\n' ∉ (step state b).1 ∧ ∀ p ∈ (step state b).2, p.Sound := by
  cases state with
  | none => exact ⟨lineFeed_not_mem_start other, sound_start⟩
  | some p =>
    obtain ⟨missing, bits, last⟩ := sound p rfl
    unfold step
    dsimp only
    split
    · split
      · next final =>
        have enough := last final
        refine ⟨?_, nofun⟩
        rw [List.mem_singleton]
        exact (ofNat_ne_lineFeed (by omega)).symm
      · next more =>
        refine ⟨List.not_mem_nil, fun q next => ?_⟩
        obtain rfl := Option.some.inj next
        constructor <;> dsimp only <;> omega
    · refine ⟨?_, sound_start⟩
      rw [List.mem_cons, not_or]
      exact ⟨by decide, lineFeed_not_mem_start other⟩

theorem lineFeed_not_mem_decodeFrom {bs : List UInt8} (h : 0x0A ∉ bs) {state : Option Pending}
    (sound : ∀ p ∈ state, p.Sound) : '\n' ∉ decodeFrom state bs := by
  induction bs generalizing state with
  | nil =>
    cases state with
    | none => exact List.not_mem_nil
    | some p =>
      rw [decodeFrom, List.mem_singleton]
      decide
  | cons b bs ih =>
    rw [List.mem_cons, not_or] at h
    have other : b.toNat ≠ 0x0A := fun same => h.1 (UInt8.toNat_inj.mp same.symm)
    obtain ⟨absent, next⟩ := lineFeed_not_mem_step sound other
    rw [decodeFrom_cons, List.mem_append, not_or]
    exact ⟨absent, ih h.2 next⟩

theorem lineFeed_not_mem_decodeLossy {bs : List UInt8} (h : 0x0A ∉ bs) : '\n' ∉ decodeLossy bs :=
  lineFeed_not_mem_decodeFrom h nofun

end CoverageNote.Utf8
