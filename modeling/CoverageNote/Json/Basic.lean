import CoverageNote.Json.Number

/-!
# JSON

A value in JSON and how it is written, without blank characters between its parts. The members of an
object are kept sorted by their names, each name once (`Json.ofMembers`).
-/

namespace CoverageNote

/-- A value in JSON. -/
inductive Json where
  | null
  | bool (b : Bool)
  | number (n : JsonNumber)
  | string (t : Text)
  | array (items : List Json)
  | object (members : List (Text × Json))
deriving Repr

namespace Json

/-! ## Objects -/

/-- Whether a name comes before another one : by the first character in which they differ. -/
def nameBefore : Text → Text → Bool
  | [], [] => false
  | [], _ :: _ => true
  | _ :: _, [] => false
  | c :: s, d :: t => c.toNat < d.toNat || c == d && nameBefore s t

/-- Put a member among sorted ones, in place of one with its name. -/
def insertMember (name : Text) (value : Json) : List (Text × Json) → List (Text × Json)
  | [] => [(name, value)]
  | m :: ms =>
    if m.1 = name then (name, value) :: ms
    else if nameBefore name m.1 then (name, value) :: m :: ms
    else m :: insertMember name value ms

/-- The object with these members. Of two with one name the later one counts. -/
def ofMembers (members : List (Text × Json)) : Json :=
  .object (members.foldl (fun ms m => insertMember m.1 m.2 ms) [])

/-- The member of a value, if it is an object that has it. -/
def member? (name : Text) : Json → Option Json
  | object members => (members.find? fun m => m.1 = name).map (·.2)
  | _ => none

/-! ## Writing -/

/-- A digit in base 16, with small letters. -/
def hexDigit (n : Nat) : Char :=
  if n < 10 then Char.ofNat ('0'.toNat + n) else Char.ofNat ('a'.toNat + (n - 10))

/-- A character as it stands between quotes. -/
def escaped (c : Char) : Text :=
  if c = '"' ∨ c = '\\' then ['\\', c]
  else if c = '\n' then "\\n".toList
  else if c = '\r' then "\\r".toList
  else if c = '\t' then "\\t".toList
  else if c = '\x08' then "\\b".toList
  else if c = '\x0C' then "\\f".toList
  else if c.toNat < 0x20 then "\\u00".toList ++ [hexDigit (c.toNat / 16), hexDigit (c.toNat % 16)]
  else [c]

/-- A text between quotes. -/
def quote (t : Text) : Text :=
  ['"'] ++ t.flatMap escaped ++ ['"']

mutual

/-- The value as a text. -/
def text : Json → Text
  | null => "null".toList
  | bool true => "true".toList
  | bool false => "false".toList
  | number n => n.text
  | string t => quote t
  | array items => ['['] ++ itemsText items ++ [']']
  | object members => ['{'] ++ membersText members ++ ['}']

/-- The items of an array with commas between them. -/
def itemsText : List Json → Text
  | [] => []
  | [item] => item.text
  | item :: items => item.text ++ [','] ++ itemsText items

/-- The members of an object with commas between them. -/
def membersText : List (Text × Json) → Text
  | [] => []
  | [(name, value)] => quote name ++ [':'] ++ value.text
  | (name, value) :: members => quote name ++ [':'] ++ value.text ++ [','] ++ membersText members

end

end Json

end CoverageNote
