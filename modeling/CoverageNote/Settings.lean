import CoverageNote.Failure
import CoverageNote.Text.Blank
import CoverageNote.Text.Quoted
import CoverageNote.Text.Utf8
import CoverageNote.Url.Parser

/-!
# Settings

What a run needs to know comes from the environment : the token, the repository and the commit have to
be given, the rest has defaults. A variable that is set to the empty text counts as one that is not set.

`Settings.load` checks one thing after another and reports the first that is wrong (`SettingsError`).
`Settings.shown` writes the settings for a log, without the token.
-/

namespace CoverageNote

/-- The variables of an environment with their values, the first of a name being the one that counts. -/
abbrev Environment := List (Text × Text)

namespace Environment

/-- The value of a variable. -/
def value? (env : Environment) (name : Text) : Option Text :=
  (env.find? fun v => v.1 = name).map (·.2)

/-- The value of a variable that is set to some text. -/
def get? (env : Environment) (name : Text) : Option Text :=
  (env.value? name).filter fun value => !value.isEmpty

end Environment

/-- What a run needs to know. -/
structure Settings where
  token : Text
  /-- The URL of the host's interface, without slashes at its end. -/
  apiBase : Text
  owner : Text
  repo : Text
  sha : Text
  coverageTotal : Option Text
  coverageDetails : Option Text
  minCoverage : Text
deriving Repr, DecidableEq

/-- Why an environment gives no settings. -/
inductive SettingsError where
  | missing (name : Text)
  | badApiUrl (given : Text) (problem : Url.Problem)
  | badRepository (given : Text)
deriving Repr, DecidableEq

namespace Settings

/-! ## Names and defaults -/

/-- The variable with the token. -/
def tokenName : Text := "GITHUB_TOKEN".toList

/-- The variable with the URL of the host's interface. -/
def apiUrlName : Text := "GITHUB_API_URL".toList

/-- The variable with the repository. -/
def repositoryName : Text := "GITHUB_REPOSITORY".toList

/-- The variable with the commit. -/
def shaName : Text := "GITHUB_SHA".toList

/-- The variable with the total coverage. -/
def totalName : Text := "COVERAGE_TOTAL".toList

/-- The variable with the details. -/
def detailsName : Text := "COVERAGE_DETAILS".toList

/-- The variable with the coverage that is asked for. -/
def minCoverageName : Text := "MIN_COVERAGE".toList

/-- The host's interface, unless another one is given. -/
def defaultApiBase : Text := "https://api.github.com".toList

/-- What is shown where no coverage is asked for. -/
def defaultMinCoverage : Text := "N/A".toList

/-! ## Loading -/

/-- A text without slashes at its end. -/
def withoutSlashes (t : Text) : Text :=
  t.dropEndWhile (· == '/')

/-- A variable that has to be set. -/
def require (env : Environment) (name : Text) : Except SettingsError Text :=
  match env.get? name with
  | some value => .ok value
  | none => .error (.missing name)

/-- The URL of the interface from the text that is given for it. The text is kept as it is, apart from
blank characters around it and slashes at its end, if it is a URL. -/
def readApiBase (given : Text) : Except SettingsError Text :=
  let base := withoutSlashes given.trim
  match Url.parse base with
  | .ok _ => .ok base
  | .error problem => .error (.badApiUrl given problem)

/-- Owner and name of the repository from a text with exactly one slash. -/
def readRepository (given : Text) : Except SettingsError (Text × Text) :=
  match given.cut? '/' with
  | some (owner, repo) =>
    if !owner.isEmpty && !repo.isEmpty && !repo.contains '/' then .ok (owner, repo)
    else .error (.badRepository given)
  | none => .error (.badRepository given)

/-- The settings that an environment gives. -/
def load (env : Environment) : Except SettingsError Settings := do
  let token ← require env tokenName
  let apiBase ← readApiBase ((env.get? apiUrlName).getD defaultApiBase)
  let repository ← require env repositoryName
  let sha ← require env shaName
  let (owner, repo) ← readRepository repository
  return {
    token, apiBase, owner, repo, sha
    coverageTotal := env.get? totalName
    coverageDetails := env.get? detailsName
    minCoverage := (env.get? minCoverageName).getD defaultMinCoverage }

end Settings

/-- The error as it is reported. -/
def SettingsError.failure : SettingsError → Failure
  | missing name => .plain ("Missing required env var: ".toList ++ name)
  | badApiUrl given problem =>
    (Failure.plain problem.message).within
      ("invalid ".toList ++ Settings.apiUrlName ++ ": ".toList ++ given)
  | badRepository given =>
    .plain (Settings.repositoryName ++ " must be in owner/repo form, got '".toList ++ given ++ ['\''])

/-- The settings of an environment, or the failure to load them. -/
def Settings.ofEnvironment (env : Environment) : Except Failure Settings :=
  (Settings.load env).mapError SettingsError.failure

end CoverageNote
