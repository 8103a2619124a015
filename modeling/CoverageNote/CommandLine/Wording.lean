import CoverageNote.CommandLine.Basic
import CoverageNote.Text.Unstyled

/-!
# What the command line answers

The texts for help, for the version and for wrong arguments. What an argument holds is quoted without
control sequences.
-/

namespace CoverageNote.CommandLine

/-- The name of the tool. -/
def toolName : Text :=
  "coverage-comment".toList

/-- The version of the tool. -/
def toolVersion : Text :=
  "0.1.0".toList

/-- What the tool does, in one line. -/
def about : Text :=
  "Post or update a coverage summary comment on a GitHub pull request or commit".toList

/-- The variables that the tool reads. -/
def aboutVariables : Text :=
  "Reads GITHUB_TOKEN, GITHUB_REPOSITORY, GITHUB_SHA (required) and ".toList ++
    "GITHUB_API_URL, COVERAGE_TOTAL, COVERAGE_DETAILS, MIN_COVERAGE (optional) ".toList ++
    "from the environment.".toList

/-- What `--dry-run` does. -/
def aboutDryRun : Text :=
  "Print the rendered comment to stdout, do not post".toList

/-- The line that says how the tool is called. -/
def usage (options : Text) : Text :=
  "Usage: ".toList ++ toolName ++ [' '] ++ options ++ ['\n']

/-- What stands for any options. -/
def anyOptions : Text :=
  "[OPTIONS]".toList

/-- The short help. -/
def shortHelp : Text :=
  about ++ "\n\n".toList ++ usage anyOptions ++ "\nOptions:\n".toList ++
    "      --dry-run  ".toList ++ aboutDryRun ++ ['\n'] ++
    "  -h, --help     Print help (see more with '--help')\n".toList ++
    "  -V, --version  Print version\n".toList

/-- The long help. -/
def longHelp : Text :=
  about ++ ".\n\n".toList ++ aboutVariables ++ "\n\n".toList ++ usage anyOptions ++
    "\nOptions:\n".toList ++
    "      --dry-run\n          ".toList ++ aboutDryRun ++ "\n\n".toList ++
    "  -h, --help\n          Print help (see a summary with '-h')\n\n".toList ++
    "  -V, --version\n          Print version\n".toList

/-- The name of the tool with its version. -/
def versionLine : Text :=
  toolName ++ [' '] ++ toolVersion ++ ['\n']

namespace UsageError

/-- What is wrong. -/
def what : UsageError → Text
  | unknownOption shown _ _ | unexpectedArgument shown =>
    "unexpected argument '".toList ++ Text.unstyled shown ++ "' found".toList
  | unexpectedValue value flag _ =>
    "unexpected value '".toList ++ Text.unstyled value ++ "' for '".toList ++ flag.long ++
      "' found; no more were expected".toList
  | repeated flag =>
    "the argument '".toList ++ flag.long ++ "' cannot be used multiple times".toList

/-- A line with the option that is similar to what was given. -/
def tip : UsageError → Text
  | unknownOption _ (some flag) _ =>
    "  tip: a similar argument exists: '".toList ++ flag.long ++ "'\n\n".toList
  | _ => []

/-- The options in the call that is proposed : behind an unknown option those given so far and the one
that may be meant, behind a value the one that takes none. An option that is given already stands in
angle brackets there. -/
def options : UsageError → Text
  | unknownOption _ similar afterDryRun =>
    let given := if afterDryRun then [Flag.dryRun] else []
    let meant := similar.toList.filter fun flag => !given.contains flag
    if given.isEmpty && meant.isEmpty then anyOptions
    else Text.joined [' '] ((given ++ meant).map Flag.long)
  | unexpectedValue _ flag afterDryRun =>
    let given := if afterDryRun then [['<'] ++ Flag.dryRun.long ++ ['>']] else []
    let own := if afterDryRun && flag = .dryRun then [] else [flag.long]
    Text.joined [' '] (own ++ given)
  | unexpectedArgument _ | repeated _ => anyOptions

/-- The whole message. -/
def message (e : UsageError) : Text :=
  "error: ".toList ++ e.what ++ "\n\n".toList ++ e.tip ++
    usage e.options ++ "\nFor more information, try '--help'.\n".toList

end UsageError

/-- What is printed in answer to the arguments, unless they ask for a run. -/
def Request.message? : Request → Option Text
  | .post _ => none
  | .shortHelp => some CommandLine.shortHelp
  | .longHelp => some CommandLine.longHelp
  | .version => some versionLine
  | .wrong error => some error.message

/-- The exit code of an answer to the arguments. -/
def Request.exitCode : Request → Nat
  | .wrong _ => 2
  | _ => 0

end CoverageNote.CommandLine
