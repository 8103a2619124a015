import CoverageNote.Json.Basic

/-!
# Reading JSON

`Json.parse?` reads a text that is one value, with blank characters allowed between its parts. It is
strict : no control characters within a string, no half of a surrogate pair, no number too large, and
no more than `maxDepth` containers within each other.

A reader gives back what it read and the text that is left, or nothing.
-/

namespace CoverageNote.Json

/-- The characters that may stand between the parts. -/
def isSpace (c : Char) : Bool :=
  c == ' ' || c == '\t' || c == '\n' || c == '\r'

/-- The text from its first character that is not a space on. -/
def skip (t : Text) : Text :=
  t.dropWhile isSpace

/-! ## Strings -/

/-- The value of a digit in base 16. -/
def hexValue? (c : Char) : Option Nat :=
  if '0' ≤ c ∧ c ≤ '9' then some (c.toNat - '0'.toNat)
  else if 'a' ≤ c ∧ c ≤ 'f' then some (c.toNat - 'a'.toNat + 10)
  else if 'A' ≤ c ∧ c ≤ 'F' then some (c.toNat - 'A'.toNat + 10)
  else none

/-- The value of four digits in base 16. -/
def unit? (a b c d : Char) : Option Nat := do
  let a ← hexValue? a
  let b ← hexValue? b
  let c ← hexValue? c
  let d ← hexValue? d
  return 4096 * a + 256 * b + 16 * c + d

/-- The character that stands behind a backslash for another one. -/
def unescaped? (c : Char) : Option Char :=
  if c = '"' ∨ c = '\\' ∨ c = '/' then some c
  else if c = 'b' then some '\x08'
  else if c = 'f' then some '\x0C'
  else if c = 'n' then some '\n'
  else if c = 'r' then some '\r'
  else if c = 't' then some '\t'
  else none

/-- Put a character before what is read. -/
def before (c : Char) (r : Option (Text × Text)) : Option (Text × Text) :=
  r.map fun p => (c :: p.1, p.2)

/-- Read a string behind its opening quote. A character beyond U+FFFF may be written as two units. -/
def string? : Text → Option (Text × Text)
  | [] => none
  | '"' :: t => some ([], t)
  | '\\' :: 'u' :: a :: b :: c :: d :: t =>
    match unit? a b c d with
    | none => none
    | some high =>
      if 0xD800 ≤ high ∧ high < 0xDC00 then
        match t with
        | '\\' :: 'u' :: a :: b :: c :: d :: t =>
          match unit? a b c d with
          | none => none
          | some low =>
            if 0xDC00 ≤ low ∧ low < 0xE000 then
              before (Char.ofNat (0x10000 + (high - 0xD800) * 0x400 + (low - 0xDC00))) (string? t)
            else none
        | _ => none
      else if 0xDC00 ≤ high ∧ high < 0xE000 then none
      else before (Char.ofNat high) (string? t)
  | '\\' :: c :: t =>
    match unescaped? c with
    | none => none
    | some c => before c (string? t)
  | c :: t => if c.toNat < 0x20 then none else before c (string? t)

/-! ## Numbers -/

/-- Read digits, at least one. -/
def digits? (t : Text) : Option (Text × Text) :=
  let ds := t.takeWhile Char.isDigit
  if ds.isEmpty then none else some (ds, t.dropWhile Char.isDigit)

/-- Read the digits before the point, without a zero at the start of several. -/
def whole? (t : Text) : Option (Text × Text) :=
  match digits? t with
  | none => none
  | some (ds, rest) => if 1 < ds.length ∧ ds.head? = some '0' then none else some (ds, rest)

/-- Read the digits behind a point, if there is one. -/
def fraction? : Text → Option (Option Text × Text)
  | '.' :: t => (digits? t).map fun p => (some p.1, p.2)
  | t => some (none, t)

/-- The value of a numeral in base 10. -/
def decimalValue (t : Text) : Nat :=
  t.foldl (fun n c => 10 * n + (c.toNat - '0'.toNat)) 0

/-- Read the digits of an exponent. -/
def exponentOf (minus : Bool) (t : Text) : Option (Option Int × Text) :=
  (digits? t).map fun p =>
    let n : Int := decimalValue p.1
    (some (if minus then -n else n), p.2)

/-- Read an exponent, if there is one. -/
def exponent? : Text → Option (Option Int × Text)
  | c :: t =>
    if c = 'e' ∨ c = 'E' then
      match t with
      | '-' :: t => exponentOf true t
      | '+' :: t => exponentOf false t
      | t => exponentOf false t
    else some (none, c :: t)
  | [] => some (none, [])

/-- Read a number behind its sign. -/
def number? (minus : Bool) (t : Text) : Option (Json × Text) := do
  let (whole, t) ← whole? t
  let (fraction, t) ← fraction? t
  let (exponent, t) ← exponent? t
  let n ← JsonNumber.ofNumeral? minus whole fraction exponent
  return (.number n, t)

/-! ## Containers -/

/-- Read the items of an array behind its opening bracket or behind a comma, at most `fuel` of them.
Each of them takes at least one character. -/
def items? (item : Text → Option (Json × Text)) : Nat → Text → Option (List Json × Text)
  | 0, _ => none
  | fuel + 1, t => do
    let (value, t) ← item t
    match skip t with
    | ']' :: t => return ([value], t)
    | ',' :: t => do
      let (values, t) ← items? item fuel t
      return (value :: values, t)
    | _ => none

/-- Read the members of an object behind its opening brace or behind a comma, at most `fuel` of them.
Each of them takes at least one character. -/
def members? (item : Text → Option (Json × Text)) : Nat → Text → Option (List (Text × Json) × Text)
  | 0, _ => none
  | fuel + 1, t => do
    match skip t with
    | '"' :: t => do
      let (name, t) ← string? t
      match skip t with
      | ':' :: t => do
        let (value, t) ← item t
        match skip t with
        | '}' :: t => return ([(name, value)], t)
        | ',' :: t => do
          let (more, t) ← members? item fuel t
          return ((name, value) :: more, t)
        | _ => none
      | _ => none
    | _ => none

/-- Read an array behind its opening bracket. -/
def array? (item : Text → Option (Json × Text)) (t : Text) : Option (Json × Text) :=
  match skip t with
  | ']' :: t => some (.array [], t)
  | _ => (items? item (t.length + 1) t).map fun p => (.array p.1, p.2)

/-- Read an object behind its opening brace. -/
def object? (item : Text → Option (Json × Text)) (t : Text) : Option (Json × Text) :=
  match skip t with
  | '}' :: t => some (.object [], t)
  | _ => (members? item (t.length + 1) t).map fun p => (ofMembers p.1, p.2)

/-- How many containers may lie within each other. -/
def maxDepth : Nat := 127

/-- Read a word that stands for a value. -/
def word? (t : Text) : Option (Json × Text) :=
  match t.dropHead? "null".toList, t.dropHead? "true".toList, t.dropHead? "false".toList with
  | some t, _, _ => some (.null, t)
  | _, some t, _ => some (.bool true, t)
  | _, _, some t => some (.bool false, t)
  | none, none, none => none

/-- Read a value that is no container. -/
def scalar? (t : Text) : Option (Json × Text) :=
  match t with
  | '"' :: t => (string? t).map fun p => (.string p.1, p.2)
  | '-' :: t => number? true t
  | c :: _ => if c.isDigit then number? false t else word? t
  | [] => none

/-- Read a value with at most `depth` containers within each other. -/
def value? : Nat → Text → Option (Json × Text)
  | 0, t => scalar? (skip t)
  | depth + 1, t =>
    match skip t with
    | '[' :: t => array? (value? depth) t
    | '{' :: t => object? (value? depth) t
    | t => scalar? t

/-- Read a text that is one value. -/
def parse? (t : Text) : Option Json :=
  match value? maxDepth t with
  | some (value, rest) => if (skip rest).isEmpty then some value else none
  | none => none

end CoverageNote.Json
