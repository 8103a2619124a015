import CoverageNote.Text.CodeSet
import CoverageNote.Url.Domain
import CoverageNote.Url.Percent

/-!
# Hosts

The host of a URL is a name or an address of the internet protocol, of version 4 or of version 6. In a
URL for the web a name is a domain name, and one that ends in a number has to be an address of version
4, which may be written in few parts and in base 8, 10 or 16.
-/

namespace CoverageNote.Url

/-- Why a text is no URL. -/
inductive Problem where
  | relativeWithoutBase
  | emptyHost
  | invalidPort
  | invalidIpv4
  | invalidIpv6
  | invalidDomain
  | forbiddenHostCharacter
deriving Repr, DecidableEq

/-- The wording of a problem. -/
def Problem.message : Problem → Text
  | relativeWithoutBase => "relative URL without a base".toList
  | emptyHost => "empty host".toList
  | invalidPort => "invalid port number".toList
  | invalidIpv4 => "invalid IPv4 address".toList
  | invalidIpv6 => "invalid IPv6 address".toList
  | invalidDomain => "invalid international domain name".toList
  | forbiddenHostCharacter => "invalid domain character".toList

/-- A host. The name may be empty; the address of version 4 is a number of 32 bits, that of version 6
has eight pieces of 16 bits. -/
inductive Host where
  | name (t : Text)
  | ipv4 (address : Nat)
  | ipv6 (pieces : List Nat)
deriving Repr, DecidableEq

namespace Host

/-! ## Addresses of version 4 -/

/-- The value of a numeral in base 10. -/
def decimalValue (t : Text) : Nat :=
  t.foldl (fun n c => 10 * n + (c.toNat - '0'.toNat)) 0

/-- The value of a numeral in base 8. -/
def octalValue (t : Text) : Nat :=
  t.foldl (fun n c => 8 * n + (c.toNat - '0'.toNat)) 0

/-- The value of a part of an address : in base 16 behind `0x`, in base 8 behind `0`, else in base 10.
Behind `0x` or `0` the digits may be missing. -/
def numberPart? : Text → Option Nat
  | [] => none
  | '0' :: 'x' :: t | '0' :: 'X' :: t =>
    if t.all fun c => (hexDigit? c).isSome then some (Text.hexValue t) else none
  | ['0'] => some 0
  | '0' :: t => if t.all fun c => '0' ≤ c ∧ c ≤ '7' then some (octalValue t) else none
  | t => if t.all Char.isDigit then some (decimalValue t) else none

/-- The parts of a name between its points, without an empty one at the end. -/
def parts (t : Text) : List Text :=
  let ps := t.fields '.'
  if 1 < ps.length ∧ ps.getLast? = some [] then ps.dropLast else ps

/-- A name whose last part is a number. -/
def endsInNumber (t : Text) : Bool :=
  match (parts t).getLast? with
  | none | some [] => false
  | some last => last.all Char.isDigit || (numberPart? last).isSome

/-- The address of the numbers in its parts : all but the last are bytes, and the last one fills what
is left. -/
def ipv4OfNumbers? (numbers : List Nat) : Option Nat :=
  match numbers.getLast? with
  | none => none
  | some last =>
    let bytes := numbers.dropLast
    if 4 < numbers.length ∨ bytes.any (255 < ·) ∨ 256 ^ (4 - bytes.length) ≤ last then none
    else some (bytes.foldl (fun n b => 256 * n + b) 0 * 256 ^ (4 - bytes.length) + last)

/-- Read an address of version 4. -/
def ipv4? (t : Text) : Option Nat :=
  ((parts t).mapM numberPart?).bind ipv4OfNumbers?

/-- The four bytes of an address of version 4. -/
def ipv4Text (address : Nat) : Text :=
  Text.joined ['.'] ([16777216, 65536, 256, 1].map fun w => Text.decimal (address / w % 256))

/-! ## Addresses of version 6 -/

/-- A piece in base 16, of at most four digits. -/
def piece? (t : Text) : Option Nat :=
  if t ≠ [] ∧ t.length ≤ 4 ∧ (t.all fun c => (hexDigit? c).isSome) then some t.hexValue else none

/-- A byte in base 10, without leading zeros. -/
def byte? (t : Text) : Option Nat :=
  if t ≠ [] ∧ t.length ≤ 3 ∧ t.all Char.isDigit ∧ (t.length = 1 ∨ t.head? ≠ some '0') ∧
      decimalValue t ≤ 255 then some (decimalValue t)
  else none

/-- The last two pieces as four bytes with points between them. -/
def dotted? (t : Text) : Option (List Nat) :=
  match (t.fields '.').mapM byte? with
  | some [a, b, c, d] => some [256 * a + b, 256 * c + d]
  | _ => none

/-- The pieces in a list of groups, of which the last may be dotted. -/
def groups? : List Text → Option (List Nat)
  | [] => some []
  | [t] => ((piece? t).map fun n => [n]).or (dotted? t)
  | t :: ts => do
    let n ← piece? t
    let ns ← groups? ts
    some (n :: ns)

/-- The pieces between colons. An empty text has none. -/
def pieces? (t : Text) : Option (List Nat) :=
  if t.isEmpty then some [] else groups? (t.fields ':')

/-- The parts before and after the first two colons in a row. -/
def cutCompressed? : Text → Option (Text × Text)
  | ':' :: ':' :: t => some ([], t)
  | c :: t => (cutCompressed? t).map fun p => (c :: p.1, p.2)
  | [] => none

/-- Read an address of version 6 : eight pieces, or fewer with two colons in place of the zeros. -/
def ipv6? (t : Text) : Option (List Nat) := do
  match cutCompressed? t with
  | none =>
    let ps ← pieces? t
    if ps.length = 8 then some ps else none
  | some (before, after) =>
    let ps ← if before.contains '.' then none else pieces? before
    let qs ← pieces? after
    if ps.length + qs.length ≤ 7 then
      some (ps ++ List.replicate (8 - (ps.length + qs.length)) 0 ++ qs)
    else none

/-- The number of zeros at the start. -/
def leadingZeros (ps : List Nat) : Nat :=
  (ps.takeWhile (· == 0)).length

/-- The place and the length of the first longest run of zeros, from the place `i` on. -/
def longestZeros (i : Nat) : List Nat → Nat × Nat
  | [] => (i, 0)
  | p :: ps =>
    let here := leadingZeros (p :: ps)
    let later := longestZeros (i + 1) ps
    if later.2 ≤ here then (i, here) else later

/-- The pieces in base 16 with colons between them. -/
def piecesText (ps : List Nat) : Text :=
  Text.joined [':'] (ps.map (Nat.toDigits 16))

/-- An address of version 6, with the first longest run of two or more zeros left out. -/
def ipv6Text (ps : List Nat) : Text :=
  let (i, n) := longestZeros 0 ps
  if n < 2 then piecesText ps
  else piecesText (ps.take i) ++ "::".toList ++ piecesText (ps.drop (i + n))

/-! ## Reading and writing -/

/-- Read an address of version 6 between brackets. The opening one is already read. -/
def bracketed (t : Text) : Except Problem Host :=
  if t.getLast? = some ']' then
    match ipv6? t.dropLast with
    | some ps => .ok (ipv6 ps)
    | none => .error .invalidIpv6
  else .error .invalidIpv6

/-- Read the host of a URL for the web. -/
def ofWeb (t : Text) : Except Problem Host :=
  match t with
  | '[' :: rest => bracketed rest
  | _ =>
    match (Utf8.decode? (percentDecode t)).bind Domain.toAscii? with
    | none => .error .invalidDomain
    | some [] => .error .emptyHost
    | some ascii =>
      if endsInNumber ascii then
        match ipv4? ascii with
        | some address => .ok (ipv4 address)
        | none => .error .invalidIpv4
      else .ok (name ascii)

/-- A character that no host contains. -/
def isForbidden (c : Char) : Bool :=
  c == '\x00' || "\t\n\r #/:<>?@[\\]^|".toList.contains c

/-- Read the host of any other URL, whose name is kept as it is. -/
def ofOther (t : Text) : Except Problem Host :=
  match t with
  | '[' :: rest => bracketed rest
  | _ =>
    if t.any isForbidden then .error .forbiddenHostCharacter
    else .ok (name (percentEncode isControl t))

/-- The host as it stands in a URL. -/
def text : Host → Text
  | name t => t
  | ipv4 address => ipv4Text address
  | ipv6 ps => ['['] ++ ipv6Text ps ++ [']']

end Host

end CoverageNote.Url
