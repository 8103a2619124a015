import CoverageNote.Text.Printable

/-!
# Quoted texts

A quoted text stands between double quotes and shows every character on one line : the quote and the
backslash behind a backslash, some controls by a letter, and what is not printable or would extend
the character before it by its code point in base 16 with small letters.
-/

namespace CoverageNote.Text

/-- A character by its code point. -/
def escapedCode (c : Char) : Text :=
  "\\u\x7b".toList ++ Nat.toDigits 16 c.toNat ++ ['}']

/-- A character as it stands in a quoted text. -/
def quotedChar (c : Char) : Text :=
  if c = '\x00' then "\\0".toList
  else if c = '\t' then "\\t".toList
  else if c = '\r' then "\\r".toList
  else if c = '\n' then "\\n".toList
  else if c = '"' ∨ c = '\\' then ['\\', c]
  else if isGraphemeExtender c then escapedCode c
  else if isPrintable c then [c]
  else escapedCode c

/-- The text between double quotes. -/
def quoted (t : Text) : Text :=
  ['"'] ++ t.flatMap quotedChar ++ ['"']

end CoverageNote.Text
