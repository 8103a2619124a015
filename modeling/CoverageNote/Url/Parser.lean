import CoverageNote.Url.Path

/-!
# Reading URLs

`Url.parse` reads an absolute URL and takes what browsers take : blank characters around the text and line
ends within it are dropped, a backslash is a slash in a URL for the web, and the parts are brought to their
normal form.

The text is cut at fixed signs first, the fragment behind the first `#` and the query behind the first
`?`, and what is left is a scheme, an authority behind two slashes, and a path.
-/

namespace CoverageNote.Url

/-! ## Cutting -/

/-- A control or a space. -/
def isEdge (c : Char) : Bool :=
  c.toNat ≤ 0x20

/-- The text without controls and spaces around it. -/
def trimmed (t : Text) : Text :=
  Text.dropEndWhile isEdge (t.dropWhile isEdge)

/-- What stands before the first `sign`, and what stands behind it if it occurs. -/
def cutOff (sign : Char) (t : Text) : Text × Option Text :=
  match t.cut? sign with
  | some (before, after) => (before, some after)
  | none => (t, none)

/-- A character of a scheme's name. -/
def isSchemeChar (c : Char) : Bool :=
  c.isAlphanum || c == '+' || c == '-' || c == '.'

/-- The scheme, in small letters, and what stands behind its colon. -/
def cutScheme? (t : Text) : Option (Text × Text) :=
  match t.cut? ':' with
  | none => none
  | some (before, rest) =>
    match visible before with
    | [] => none
    | c :: name =>
      if c.isAlpha && name.all isSchemeChar then some ((c :: name).map Char.toLower, rest) else none

/-- A URL's text behind the scheme : the part with the authority and the path, which may hold tabs and
line ends, the query and the fragment. -/
structure Cut where
  hierarchy : Text
  query : Option Text
  fragment : Option Text

/-- Cut off the fragment and the query. -/
def cut (t : Text) : Cut :=
  let (rest, fragment) := cutOff '#' t
  let (hierarchy, query) := cutOff '?' rest
  ⟨hierarchy, query.map visible, fragment.map visible⟩

/-- A query as it is kept. -/
def Cut.keptQuery (c : Cut) (scheme : Text) : Option Text :=
  c.query.map (percentEncode (if isWeb scheme then inWebQuery else inQuery))

/-- A fragment as it is kept. -/
def Cut.keptFragment (c : Cut) : Option Text :=
  c.fragment.map (percentEncode inFragment)

/-- The text with slashes for backslashes. -/
def slashed (t : Text) : Text :=
  t.map fun c => if c = '\\' then '/' else c

/-! ## Authorities -/

/-- The part before the last `@`, and the part behind it. -/
def cutUser? (t : Text) : Option (Text × Text) :=
  if t.contains '@' then
    let after := (t.reverse.takeWhile (· != '@')).reverse
    some (t.take (t.length - after.length - 1), after)
  else none

/-- The host of an authority and what stands behind it : a colon between brackets does not end it. -/
def cutHost (bracket : Bool) : Text → Text × Text
  | [] => ([], [])
  | c :: t =>
    if c = ':' ∧ !bracket then ([], c :: t)
    else
      let (host, rest) := cutHost (if c = '[' then true else if c = ']' then false else bracket) t
      (c :: host, rest)

/-- The port behind the colon, unless it is the one the scheme implies, and what is left. A backslash
may follow it. -/
def readPort (scheme : Text) (t : Text) : Except Problem (Option Nat × Text) :=
  let digits := t.takeWhile Char.isDigit
  let rest := t.dropWhile Char.isDigit
  let port := Host.decimalValue digits
  if 65535 < port then .error .invalidPort
  else if !rest.isEmpty && rest.head? != some '\\' then .error .invalidPort
  else if digits.isEmpty || impliedPort? scheme = some port then .ok (none, rest)
  else .ok (some port, rest)

/-- Read what follows the two slashes. `more` says whether a query or a fragment follows. -/
def readAuthority (scheme : Text) (c : Cut) (t : Text) : Except Problem Url := do
  let authority := t.takeWhile (· != '/')
  let path := t.dropWhile (· != '/')
  let (userInfo, location) := (cutUser? authority).getD ([], authority)
  if authority = ['@'] ∧ !(path.isEmpty && c.query.isNone && c.fragment.isNone) then
    throw .emptyHost
  let (user, password) := cutOff ':' userInfo
  let user := percentEncode inUserInfo user
  let password := percentEncode inUserInfo (password.getD [])
  let (hostText, rest) := cutHost false location
  if hostText.isEmpty && isWeb scheme then throw .emptyHost
  let host ← if isWeb scheme then Host.ofWeb hostText else Host.ofOther hostText
  if hostText.isEmpty && rest.head? = some ':' then throw .emptyHost
  let (port, rest) ←
    match rest with
    | ':' :: rest => readPort scheme rest
    | _ => .ok (none, [])
  if hostText.isEmpty && !(user.isEmpty && password.isEmpty) then throw .emptyHost
  let path := rest ++ path
  return {
    scheme, user, password, port
    host := some host
    path := .segments (if path.isEmpty && !isWeb scheme then [] else pathOf path)
    query := c.keptQuery scheme
    fragment := c.keptFragment }

/-- The part behind the two slashes before an authority, if they are there. -/
def behindSlashes? (t : Text) : Option Text :=
  match t.dropWhile isIgnored with
  | '/' :: t =>
    match t.dropWhile isIgnored with
    | '/' :: t => some t
    | _ => none
  | _ => none

/-- The host in the URL of a file. There is none if it is the machine itself. -/
def fileHost? (t : Text) : Except Problem (Option Host) :=
  if t.isEmpty then .ok none
  else (Host.ofWeb t).map fun host => if host = .name "localhost".toList then none else some host

/-- Read a URL of a file. A drive in place of the host begins the path, and a drive at the root drops
the host. -/
def readFileScheme (c : Cut) : Except Problem Url := do
  let text := slashed c.hierarchy
  let authority := (behindSlashes? text).getD []
  let hostText := authority.takeWhile (· != '/')
  let driven := isDrive (visible hostText)
  let host? ← if driven then .ok none else fileHost? (visible hostText)
  let pathText :=
    if (behindSlashes? text).isNone then text
    else if driven then authority
    else authority.dropWhile (· != '/')
  let place := placeOf true (pathText.dropWhile isIgnored)
  return {
    scheme := fileScheme
    user := [], password := []
    host := some (if place.hostless then .name [] else host?.getD (.name []))
    port := none
    path := .segments (dropEmpty place.path)
    query := c.keptQuery fileScheme
    fragment := c.keptFragment }

/-! ## Whole URLs -/

/-- Read what follows the colon of a scheme. -/
def readScheme (scheme rest : Text) : Except Problem Url :=
  let c := cut rest
  let hierarchy := visible c.hierarchy
  if scheme = fileScheme then readFileScheme c
  else if isWeb scheme then readAuthority scheme c ((slashed hierarchy).dropWhile (· == '/'))
  else
    match hierarchy with
    | '/' :: '/' :: t => readAuthority scheme c t
    | t =>
      .ok {
        scheme
        user := [], password := []
        host := none
        port := none
        path := if t.head? = some '/' then .segments (pathOf t)
          else .plain (percentEncode isControl t)
        query := c.keptQuery scheme
        fragment := c.keptFragment }

/-- Read an absolute URL. -/
def parse (t : Text) : Except Problem Url :=
  match cutScheme? (trimmed t) with
  | some (scheme, rest) => readScheme scheme rest
  | none => .error .relativeWithoutBase

end CoverageNote.Url
