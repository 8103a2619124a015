import CoverageNote.Http.Message
import CoverageNote.Text.Blank

/-!
# Charsets

The body of a response is read by the charset that its content type names. A byte order mark at the
start decides otherwise and is left out. Without a charset, or with one whose name is not among
`Charset.names`, the body is read as UTF-8. Bytes that are no character become U+FFFD.
-/

namespace CoverageNote.Http

/-- The charsets that are known. -/
inductive Charset where
  | utf8
  | western
  | utf16le
  | utf16be
deriving Repr, DecidableEq

namespace Charset

/-! ## Reading bytes -/

/-- The characters that stand for the bytes 0x80 to 0x9F in the western charset. -/
def westernHigh : List Nat :=
  [0x20AC, 0x81, 0x201A, 0x0192, 0x201E, 0x2026, 0x2020, 0x2021, 0x02C6, 0x2030, 0x0160, 0x2039,
    0x0152, 0x8D, 0x017D, 0x8F, 0x90, 0x2018, 0x2019, 0x201C, 0x201D, 0x2022, 0x2013, 0x2014,
    0x02DC, 0x2122, 0x0161, 0x203A, 0x0153, 0x9D, 0x017E, 0x0178]

/-- The character of a byte in the western charset. -/
def westernChar (b : UInt8) : Char :=
  let n := b.toNat
  if n < 0x80 then Char.ofNat n
  else if n < 0xA0 then Char.ofNat (westernHigh.getD (n - 0x80) 0xFFFD)
  else Char.ofNat n

/-- The units of 16 bits in a row of bytes, of each pair the first byte being the higher one. A byte
that is left over is no unit. -/
def units : List UInt8 → List (Option Nat)
  | [] => []
  | [_] => [none]
  | a :: b :: bs => some (256 * a.toNat + b.toNat) :: units bs

/-- The bytes with each pair turned around. -/
def swapped : List UInt8 → List UInt8
  | a :: b :: bs => b :: a :: swapped bs
  | bs => bs

/-- Whether a unit is the first half of a surrogate pair. -/
def isHighHalf (n : Nat) : Bool :=
  0xD800 ≤ n && n < 0xDC00

/-- Whether a unit is the second half of a surrogate pair. -/
def isLowHalf (n : Nat) : Bool :=
  0xDC00 ≤ n && n < 0xE000

/-- Read a unit that does not complete a pair : the characters it gives and the half that waits for its
other one. -/
def startUnit : Option Nat → Text × Option Nat
  | none => ([Utf8.replacement], none)
  | some n =>
    if isHighHalf n then ([], some n)
    else if isLowHalf n then ([Utf8.replacement], none)
    else ([Char.ofNat n], none)

/-- Read a unit behind a half that may be waiting. -/
def stepUnit (waiting : Option Nat) (unit : Option Nat) : Text × Option Nat :=
  match waiting, unit with
  | some high, some low =>
    if isLowHalf low then
      ([Char.ofNat (0x10000 + (high - 0xD800) * 0x400 + (low - 0xDC00))], none)
    else
      let (read, next) := startUnit (some low)
      (Utf8.replacement :: read, next)
  | some _, none => ([Utf8.replacement], none)
  | none, unit => startUnit unit

/-- The text of units of 16 bits. Half of a surrogate pair is no character. -/
def unitsText : Option Nat → List (Option Nat) → Text
  | none, [] => []
  | some _, [] => [Utf8.replacement]
  | waiting, unit :: rest =>
    let (read, next) := stepUnit waiting unit
    read ++ unitsText next rest

/-- The text of bytes in a charset. -/
def decode : Charset → List UInt8 → Text
  | utf8, bs => Utf8.decodeLossy bs
  | western, bs => bs.map westernChar
  | utf16be, bs => unitsText none (units bs)
  | utf16le, bs => unitsText none (units (swapped bs))

/-- The text of bytes whose charset is `given`, unless a byte order mark says otherwise. -/
def decodeMarked (given : Charset) : List UInt8 → Text
  | 0xEF :: 0xBB :: 0xBF :: bs => utf8.decode bs
  | 0xFE :: 0xFF :: bs => utf16be.decode bs
  | 0xFF :: 0xFE :: bs => utf16le.decode bs
  | bs => given.decode bs

/-! ## Names -/

/-- The names of the charsets. -/
def names : List (Text × Charset) :=
  [("utf-8".toList, utf8), ("utf8".toList, utf8), ("unicode-1-1-utf-8".toList, utf8),
    ("iso-8859-1".toList, western), ("iso8859-1".toList, western), ("iso88591".toList, western),
    ("iso_8859-1".toList, western), ("latin1".toList, western), ("l1".toList, western),
    ("ascii".toList, western), ("us-ascii".toList, western), ("ansi_x3.4-1968".toList, western),
    ("cp1252".toList, western), ("cp819".toList, western), ("ibm819".toList, western),
    ("windows-1252".toList, western), ("x-cp1252".toList, western),
    ("utf-16".toList, utf16le), ("utf-16le".toList, utf16le), ("utf-16be".toList, utf16be)]

/-- The charset of a name. -/
def ofName? (t : Text) : Option Charset :=
  (names.find? fun n => n.1 = t.trim.map Char.toLower).map (·.2)

/-- A value without the quotes around it. -/
def unquoted (t : Text) : Text :=
  match t with
  | '"' :: rest => (Text.dropTail? rest ['"']).getD t
  | _ => t

/-- The name of a charset that a parameter of a content type gives, if it gives one. -/
def label? (parameter : Text) : Option Text :=
  (parameter.cut? '=').bind fun (name, value) =>
    if name.trim.map Char.toLower = "charset".toList then some (unquoted value.trim) else none

/-- The name of the charset that a content type gives, if it gives one. -/
def labelOf? (contentType : Text) : Option Text :=
  ((contentType.fields ';').drop 1).findSome? label?

/-- The charset that a content type names. -/
def ofContentType (t : Text) : Charset :=
  ((labelOf? t).bind ofName?).getD utf8

end Charset

/-- The body of a response as a text. -/
def Response.text (r : Response) : Text :=
  (((r.header? "content-type".toList).map Charset.ofContentType).getD .utf8).decodeMarked r.body

end CoverageNote.Http
