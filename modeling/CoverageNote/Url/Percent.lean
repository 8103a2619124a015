import CoverageNote.Text.CodeSet
import CoverageNote.Text.Utf8

/-!
# Percent-encoding

In the parts of a URL some characters are written as the bytes of their UTF-8, each as a percent sign
and two digits in base 16. Which ones depends on the part : the sets below grow from the fragment to
the user information. Characters outside ASCII are in all of them, the percent sign is in none.
-/

namespace CoverageNote.Url

/-- Controls and characters outside ASCII. -/
def isControl (c : Char) : Bool :=
  c.toNat < 0x20 || 0x7F ≤ c.toNat

/-- What is encoded in a fragment. -/
def inFragment (c : Char) : Bool :=
  isControl c || " \"<>`".toList.contains c

/-- What is encoded in a segment of a path. -/
def inPath (c : Char) : Bool :=
  inFragment c || ['#', '?', '{', '}'].contains c

/-- What is encoded in a user name or a password. -/
def inUserInfo (c : Char) : Bool :=
  inPath c || "/:;=@[\\]^|".toList.contains c

/-- What is encoded in a query. -/
def inQuery (c : Char) : Bool :=
  isControl c || " \"#<>".toList.contains c

/-- What is encoded in the query of a URL for the web. -/
def inWebQuery (c : Char) : Bool :=
  inQuery c || c == '\''

/-- A digit in base 16, with capital letters. -/
def hexDigit (n : Nat) : Char :=
  if n < 10 then Char.ofNat ('0'.toNat + n) else Char.ofNat ('A'.toNat + (n - 10))

/-- A byte behind a percent sign. -/
def percentByte (b : UInt8) : Text :=
  ['%', hexDigit (b.toNat / 16), hexDigit (b.toNat % 16)]

/-- The text with the characters of `set` encoded. -/
def percentEncode (set : Char → Bool) (t : Text) : Text :=
  t.flatMap fun c => if set c then (Utf8.encode [c]).flatMap percentByte else [c]

/-- The bytes of a text in which each percent sign before two digits in base 16 stands for a byte. -/
def percentDecode : Text → List UInt8
  | '%' :: a :: b :: t =>
    match hexDigit? a, hexDigit? b with
    | some high, some low => UInt8.ofNat (16 * high + low) :: percentDecode t
    | _, _ => Utf8.encode ['%'] ++ percentDecode (a :: b :: t)
  | c :: t => Utf8.encode [c] ++ percentDecode t
  | [] => []

end CoverageNote.Url
