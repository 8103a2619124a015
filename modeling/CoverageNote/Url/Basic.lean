import CoverageNote.Url.Host

/-!
# URLs

A URL is kept in its normal form : the parts are percent-encoded, the scheme is in small letters, the
port is left out where the scheme implies it, and the path has no `.` or `..` segments. `Url.text`
writes it.
-/

namespace CoverageNote

/-- The path of a URL : segments, each behind a slash, or a plain text without structure. -/
inductive Url.Path where
  | segments (ss : List Text)
  | plain (t : Text)
deriving Repr, DecidableEq

/-- A URL. Without a host it has no user name, password or port. -/
structure Url where
  scheme : Text
  user : Text
  password : Text
  host : Option Url.Host
  port : Option Nat
  path : Url.Path
  query : Option Text
  fragment : Option Text
deriving Repr, DecidableEq

namespace Url

/-! ## Schemes -/

/-- The schemes of the web with the ports they imply. -/
def webPorts : List (Text × Nat) :=
  [("http".toList, 80), ("https".toList, 443), ("ws".toList, 80), ("wss".toList, 443),
    ("ftp".toList, 21)]

/-- The port that a scheme implies. -/
def impliedPort? (scheme : Text) : Option Nat :=
  (webPorts.find? fun p => p.1 = scheme).map (·.2)

/-- The scheme of files, which needs no host. -/
def fileScheme : Text :=
  "file".toList

/-- A scheme whose URLs have a host and a path of segments, and in which a backslash is a slash. -/
def isWeb (scheme : Text) : Bool :=
  scheme = fileScheme || (impliedPort? scheme).isSome

/-! ## Parts -/

/-- A host that is not empty. -/
def hasHost (u : Url) : Bool :=
  match u.host with
  | none | some (.name []) => false
  | some _ => true

/-- The URL without user name and password. -/
def withoutUser (u : Url) : Url :=
  { u with user := [], password := [] }

/-! ## Writing -/

/-- A part behind a sign, or nothing. -/
def behind (sign : Char) : Option Text → Text
  | none => []
  | some t => sign :: t

/-- The user name and the password before the host, or nothing. -/
def userText (u : Url) : Text :=
  if u.user.isEmpty && u.password.isEmpty then []
  else u.user ++ (if u.password.isEmpty then [] else ':' :: u.password) ++ ['@']

/-- The path as it stands in the URL. -/
def Path.text : Path → Text
  | segments ss => ss.flatMap fun s => '/' :: s
  | plain t => t

/-- What stands between the scheme and the path. A path that would look like a host gets a segment
`.` in front where there is no host. -/
def authorityText (u : Url) : Text :=
  match u.host with
  | some host =>
    "//".toList ++ u.userText ++ host.text ++ behind ':' (u.port.map Text.decimal)
  | none =>
    match u.path with
    | .segments ([] :: _ :: _) => "/.".toList
    | _ => []

/-- The URL as a text. -/
def text (u : Url) : Text :=
  u.scheme ++ [':'] ++ u.authorityText ++ u.path.text ++ behind '?' u.query ++ behind '#' u.fragment

end Url

end CoverageNote
