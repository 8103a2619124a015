import CoverageNote.Url.Basic

/-!
# Reading paths

The path of a URL is read by a walk along the segments of a text : a segment `.` stays where it is, a
segment `..` goes up, any other one goes down. A segment that names a drive, such as `c:`, is not left
again by `..`.

In the URL of a file a drive at the root makes the host superfluous. Tabs and line ends count for
nothing within a URL, but in the first segment of a file's path they part a drive from what follows
it, so the walk is given the segments with them.
-/

namespace CoverageNote.Url

/-! ## Segments -/

/-- A tab or a line end. -/
def isIgnored (c : Char) : Bool :=
  c == '\t' || c == '\n' || c == '\r'

/-- The text without tabs and line ends. -/
def visible (t : Text) : Text :=
  t.filter fun c => !isIgnored c

/-- A segment that stands for the place itself. -/
def isDot (s : Text) : Bool :=
  [".".toList, "%2e".toList].contains (s.map Char.toLower)

/-- A segment that stands for the place above. -/
def isDotDot (s : Text) : Bool :=
  ["..".toList, ".%2e".toList, "%2e.".toList, "%2e%2e".toList].contains (s.map Char.toLower)

/-- A segment that names a drive : a letter with a colon or a bar. -/
def isDrive : Text → Bool
  | [c, d] => c.isAlpha && (d == ':' || d == '|')
  | _ => false

/-- A drive and what follows it in the same segment, if a tab or a line end stands between them. -/
def cutDrive? (s : Text) : Option (Text × Text) :=
  match s.dropWhile isIgnored with
  | [] => none
  | c :: s =>
    match s.dropWhile isIgnored with
    | ':' :: s =>
      if c.isAlpha && (s.head?.map isIgnored).getD false && !(visible s).isEmpty then
        some ([c, ':'], visible s)
      else none
    | _ => none

/-! ## Walks -/

/-- A segment that is not left : a drive, alone or before a backslash. -/
def isHeld (s : Text) : Bool :=
  isDrive (s.takeWhile (· != '\\'))

/-- The path above. A drive is not left. -/
def above (ss : List Text) : List Text :=
  if (ss.getLast?.map isHeld).getD false then ss else ss.dropLast

/-- A place on a walk : the path from the root, and whether a drive has made the host superfluous. -/
structure Place where
  path : List Text
  hostless : Bool
deriving Repr, DecidableEq

/-- The root of all paths. -/
def Place.root : Place :=
  ⟨[], false⟩

/-- The place above. -/
def Place.leave (p : Place) : Place :=
  { p with path := above p.path }

/-- The place below, in the segment `s`. A drive at the root of a file's path is written with a
colon. -/
def Place.enter (file : Bool) (p : Place) (s : Text) : Place :=
  let kept := percentEncode inPath (visible s)
  if file && p.path.isEmpty then
    match cutDrive? s with
    | some (drive, rest) => { p with path := [drive, percentEncode inPath rest] }
    | none => if isDrive kept then ⟨[kept.take 1 ++ [':']], true⟩ else { p with path := [kept] }
  else { p with path := p.path ++ [kept] }

/-- Walk along the segments of a text. A dot segment at the end leaves an empty segment. -/
def Place.walk (file : Bool) (p : Place) : List Text → Place
  | [] => p
  | [s] =>
    if isDotDot (visible s) then p.leave.enter file []
    else if isDot (visible s) then p.enter file []
    else p.enter file s
  | s :: rest =>
    if isDotDot (visible s) then walk file p.leave rest
    else if isDot (visible s) then walk file p rest
    else walk file (p.enter file s) rest

/-- The path without its empty segments at the start, the last one apart. -/
def dropEmpty : List Text → List Text
  | [] :: s :: ss => dropEmpty (s :: ss)
  | ss => ss

/-- Where a text leads from the root. A slash before its first segment counts for nothing. -/
def placeOf (file : Bool) (t : Text) : Place :=
  Place.root.walk file ((t.dropHead? ['/']).getD t |>.fields '/')

/-- The segments of a path in a URL that is not of a file. -/
def pathOf (t : Text) : List Text :=
  (placeOf false t).path

end CoverageNote.Url
