import CoverageNote.Text.Similar

/-!
# The command line

The tool knows one option, `--dry-run`, and the two that every tool knows, for help and for the version.
The arguments are read from left to right (`CommandLine.read`), and the first one that asks for help or
for the version, or that is wrong, decides.

A long option is written out and takes no value. Short options are single letters behind one hyphen,
several of them in a row. Behind a lone `--` nothing is an option any more, and as the tool takes no
other arguments nothing may follow.
-/

namespace CoverageNote.CommandLine

/-- The options. -/
inductive Flag where
  | dryRun
  | help
  | version
deriving Repr, DecidableEq

/-- The name of an option, without hyphens. -/
def Flag.name : Flag → Text
  | dryRun => "dry-run".toList
  | help => "help".toList
  | version => "version".toList

/-- The option as it is written out. -/
def Flag.long (f : Flag) : Text :=
  "--".toList ++ f.name

/-- The options, in the order in which they are listed. -/
def flags : List Flag :=
  [.dryRun, .help, .version]

/-- The letter of an option that has one. -/
def Flag.letter? : Flag → Option Char
  | dryRun => none
  | help => some 'h'
  | version => some 'V'

/-- What is wrong with the arguments. -/
inductive UsageError where
  /-- A long option that does not exist, with the one that may be meant. -/
  | unknownOption (shown : Text) (similar : Option Flag) (afterDryRun : Bool)
  | unexpectedArgument (shown : Text)
  | unexpectedValue (value : Text) (flag : Flag) (afterDryRun : Bool)
  | repeated (flag : Flag)
deriving Repr, DecidableEq

/-- What the arguments ask for. -/
inductive Request where
  | post (dryRun : Bool)
  | shortHelp
  | longHelp
  | version
  | wrong (error : UsageError)
deriving Repr, DecidableEq

/-! ## Reading -/

/-- Whether a word is similar enough to an option for it to be meant. -/
def isSimilar (p : Nat × Nat) : Bool :=
  7 * p.2 ≤ 10 * p.1

/-- The option that a word is most similar to, the later one of two that are equally so. -/
def similarFlag? (word : Text) : Option Flag :=
  let scored := (flags.map fun f => (f, word.similarity f.name)).filter fun p => isSimilar p.2
  let best := scored.foldl (fun best p =>
    match best with
    | none => some p
    | some b => if b.2.1 * p.2.2 ≤ p.2.1 * b.2.2 then some p else some b) none
  best.map (·.1)

/-- What a long option asks for, or whether it only sets `--dry-run`. The option is given without its
hyphens. -/
def readLong (dryRun : Bool) (t : Text) : Option Request :=
  let (name, value) := match t.cut? '=' with
    | some (name, value) => (name, some value)
    | none => (t, none)
  match flags.find? fun f => f.name = name with
  | none =>
    some (.wrong (.unknownOption ("--".toList ++ name) (similarFlag? name) dryRun))
  | some f =>
    match value, f with
    | some value, f => some (.wrong (.unexpectedValue value f dryRun))
    | none, .help => some .longHelp
    | none, .version => some .version
    | none, .dryRun => if dryRun then some (.wrong (.repeated .dryRun)) else none

/-- What the letter of a short option asks for. -/
def readLetter (c : Char) : Request :=
  if Flag.help.letter? = some c then .shortHelp
  else if Flag.version.letter? = some c then .version
  else .wrong (.unexpectedArgument ['-', c])

/-- Read the arguments; `dryRun` says whether the option is set already. -/
def readFrom (dryRun : Bool) : List Text → Request
  | [] => .post dryRun
  | ['-', '-'] :: rest =>
    match rest with
    | [] => .post dryRun
    | t :: _ => .wrong (.unexpectedArgument t)
  | ('-' :: '-' :: t) :: rest =>
    match readLong dryRun t with
    | some request => request
    | none => readFrom true rest
  | ('-' :: c :: _) :: _ => readLetter c
  | t :: _ => .wrong (.unexpectedArgument t)

/-- Read the arguments. -/
def read (arguments : List Text) : Request :=
  readFrom false arguments

end CoverageNote.CommandLine
