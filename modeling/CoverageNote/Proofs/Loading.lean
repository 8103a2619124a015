import CoverageNote.Settings

/-!
# Which environments give settings

Five conditions decide whether an environment gives settings (`Settings.Condition`), and they are looked at in one
order. `Settings.ofEnvironment_by_conditions` says that settings are given exactly if all of them hold, that the
failure is the one of the first that does not (`Settings.Condition.Breaks`), and what settings there are otherwise
(`Settings.Mirrors`).

The URL is looked at before the repository, and the form of the repository behind the commit. So an environment
with a bad repository and no commit is told about the commit, and one with a bad URL about neither.
-/

namespace CoverageNote

/-! ## Environments -/

namespace Environment

/-- The environment without a variable. -/
def without (env : Environment) (name : Text) : Environment :=
  env.filter fun v => v.1 ≠ name

theorem value?_without (env : Environment) (name other : Text) :
    (env.without name).value? other = if other = name then none else env.value? other := by
  unfold value? without
  rw [List.find?_filter]
  split
  · next same =>
    rw [List.find?_eq_none.mpr (by simp +contextual [same])]
    rfl
  · next other_ne =>
    congr 2
    funext v
    by_cases h : v.1 = other <;> simp [h, other_ne]

/-- A variable that is set to the empty text can as well be left out. -/
theorem get?_without {env : Environment} {name : Text} (empty : env.value? name = some []) (other : Text) :
    (env.without name).get? other = env.get? other := by
  unfold get?
  rw [value?_without]
  split
  · next same =>
    rw [same, empty]
    rfl
  · rfl

end Environment

namespace Settings

/-! ## Conditions -/

/-- A text with exactly one slash and something on both sides of it. -/
structure IsSlug (t : Text) : Prop where
  one : t.count '/' = 1
  head : t.head? ≠ some '/'
  last : t.getLast? ≠ some '/'

/-- The text that is given for the interface, or the one for the usual interface. -/
def givenApiUrl (env : Environment) : Text :=
  (env.get? apiUrlName).getD defaultApiBase

/-- What has to be so that an environment gives settings. -/
inductive Condition where
  | token
  | apiUrl
  | repository
  | sha
  | slug
deriving Repr, DecidableEq

namespace Condition

/-- The conditions in the order in which they are looked at. -/
def order : List Condition :=
  [token, apiUrl, repository, sha, slug]

/-- The conditions that are looked at before this one. -/
def earlier (c : Condition) : List Condition :=
  order.takeWhile (· ≠ c)

/-- The environment meets the condition. -/
def Holds (env : Environment) : Condition → Prop
  | token => ∃ value, env.get? tokenName = some value
  | apiUrl => ∃ url, Url.parse (withoutSlashes (givenApiUrl env).trim) = .ok url
  | repository => ∃ value, env.get? repositoryName = some value
  | sha => ∃ value, env.get? shaName = some value
  | slug => ∀ given, env.get? repositoryName = some given → IsSlug given

/-- The environment does not meet the condition, and this is how it is told. -/
inductive Breaks (env : Environment) : Condition → SettingsError → Prop
  | token (unset : env.get? tokenName = none) : Breaks env token (.missing tokenName)
  | apiUrl {problem : Url.Problem}
    (unread : Url.parse (withoutSlashes (givenApiUrl env).trim) = .error problem) :
    Breaks env apiUrl (.badApiUrl (givenApiUrl env) problem)
  | repository (unset : env.get? repositoryName = none) : Breaks env repository (.missing repositoryName)
  | sha (unset : env.get? shaName = none) : Breaks env sha (.missing shaName)
  | slug {given : Text} (named : env.get? repositoryName = some given) (form : ¬ IsSlug given) :
    Breaks env slug (.badRepository given)

end Condition

/-- The settings have what the environment says. -/
structure Mirrors (env : Environment) (settings : Settings) : Prop where
  token : env.get? tokenName = some settings.token
  apiBase : settings.apiBase = withoutSlashes (givenApiUrl env).trim
  apiBase_last : settings.apiBase.getLast? ≠ some '/'
  repository : env.get? repositoryName = some (settings.owner ++ '/' :: settings.repo)
  owner : '/' ∉ settings.owner
  repo : '/' ∉ settings.repo
  sha : env.get? shaName = some settings.sha
  coverageTotal : settings.coverageTotal = env.get? totalName
  coverageDetails : settings.coverageDetails = env.get? detailsName
  minCoverage : settings.minCoverage = (env.get? minCoverageName).getD defaultMinCoverage

/-! ## Each condition on its own -/

section Conditions

variable {env : Environment}

theorem require_of_get? {name value : Text} (given : env.get? name = some value) :
    require env name = .ok value := by
  unfold require
  rw [given]

theorem require_of_unset {name : Text} (unset : env.get? name = none) :
    require env name = .error (.missing name) := by
  unfold require
  rw [unset]

/-- An address of the interface that parses is kept, without its edges and the slashes at its end. -/
theorem readApiBase_of_parse {url : Url} (read : Url.parse (withoutSlashes (givenApiUrl env).trim) = .ok url) :
    readApiBase ((env.get? apiUrlName).getD defaultApiBase) = .ok (withoutSlashes (givenApiUrl env).trim) := by
  unfold givenApiUrl at read ⊢
  unfold readApiBase
  dsimp only
  rw [read]

/-- An address of the interface that does not parse is reported as it was given. -/
theorem readApiBase_of_unread {problem : Url.Problem}
    (unread : Url.parse (withoutSlashes (givenApiUrl env).trim) = .error problem) :
    readApiBase ((env.get? apiUrlName).getD defaultApiBase) = .error (.badApiUrl (givenApiUrl env) problem) := by
  unfold givenApiUrl at unread ⊢
  unfold readApiBase
  dsimp only
  rw [unread]

theorem getLast?_withoutSlashes_ne (t : Text) : (withoutSlashes t).getLast? ≠ some '/' := by
  intro h
  have other := Text.getLast?_dropEndWhile (· == '/') t '/' h
  cases other

/-- One slash with something on both sides of it is one that divides a text into two without slashes. -/
theorem isSlug_iff {t : Text} :
    IsSlug t ↔ ∃ owner repo, t = owner ++ '/' :: repo ∧ '/' ∉ owner ∧ '/' ∉ repo ∧ owner ≠ [] ∧ repo ≠ [] := by
  constructor
  · rintro ⟨one, head, last⟩
    obtain ⟨owner, repo, rfl⟩ := List.append_of_mem (List.count_pos_iff.mp (one ▸ Nat.one_pos))
    rw [List.count_append, List.count_cons_self] at one
    have before : owner.count '/' = 0 := by omega
    have after : repo.count '/' = 0 := by omega
    refine ⟨owner, repo, rfl, List.count_eq_zero.mp before, List.count_eq_zero.mp after, ?_, ?_⟩
    · rintro rfl
      exact head rfl
    · rintro rfl
      exact last List.getLast?_concat
  · rintro ⟨owner, repo, rfl, before, after, some_before, some_after⟩
    refine ⟨?_, fun head => ?_, fun last => ?_⟩
    · rw [List.count_append, List.count_cons_self, List.count_eq_zero.mpr before, List.count_eq_zero.mpr after]
    · rw [List.head?_append, Option.or_of_isSome (List.isSome_head?.mpr some_before)] at head
      exact before (List.mem_of_head? head)
    · rw [List.getLast?_append, List.getLast?_cons_of_ne_nil some_after,
        Option.or_of_isSome (List.getLast?_isSome.mpr some_after)] at last
      exact after (List.mem_of_getLast? last)

/-- Of a slug the owner and the repository are what stands before and behind its slash. -/
theorem readRepository_of_isSlug {given : Text} (slug : IsSlug given) :
    ∃ owner repo, readRepository given = .ok (owner, repo) ∧ given = owner ++ '/' :: repo ∧
      '/' ∉ owner ∧ '/' ∉ repo := by
  obtain ⟨owner, repo, split, before, after, some_before, some_after⟩ := isSlug_iff.mp slug
  refine ⟨owner, repo, ?_, split, before, after⟩
  unfold readRepository
  rw [Text.cut?_eq_some_iff.mpr ⟨split, before⟩]
  simp [some_before, some_after, after]

/-- What is no slug is reported as it was given. -/
theorem readRepository_of_not_isSlug {given : Text} (other : ¬IsSlug given) :
    readRepository given = .error (.badRepository given) := by
  unfold readRepository
  split
  · next owner repo cut =>
    obtain ⟨split, before⟩ := Text.cut?_eq_some_iff.mp cut
    refine if_neg fun parts => other (isSlug_iff.mpr ⟨owner, repo, split, before, ?_⟩)
    simpa [and_comm, and_assoc] using parts
  · rfl

/-! ## Conditions in their order -/

/-- Of a list all have a property, or there is a first one without it. -/
theorem forall_or_first {α : Type} [DecidableEq α] (P : α → Prop) (l : List α) :
    (∀ a ∈ l, P a) ∨ ∃ a, (∀ b ∈ l.takeWhile (· ≠ a), P b) ∧ ¬P a := by
  induction l with
  | nil => exact .inl nofun
  | cons a l ih =>
    by_cases here : P a
    · refine ih.imp (fun all => List.forall_mem_cons.mpr ⟨here, all⟩) ?_
      rintro ⟨b, before, other⟩
      refine ⟨b, ?_, other⟩
      rw [List.takeWhile_cons_of_pos (by simpa using fun same : a = b => other (same ▸ here))]
      exact List.forall_mem_cons.mpr ⟨here, before⟩
    · exact .inr ⟨a, by simp, here⟩

namespace Condition

theorem mem_order (c : Condition) : c ∈ order := by
  cases c <;> decide

/-- Every condition holds, or it is broken with an error. -/
theorem holds_or_breaks (env : Environment) (c : Condition) : c.Holds env ∨ ∃ e, c.Breaks env e := by
  cases c with
  | token =>
    cases given : env.get? tokenName with
    | some value => exact .inl ⟨value, given⟩
    | none => exact .inr ⟨_, .token given⟩
  | apiUrl =>
    cases read : Url.parse (withoutSlashes (givenApiUrl env).trim) with
    | ok url => exact .inl ⟨url, read⟩
    | error problem => exact .inr ⟨_, .apiUrl read⟩
  | repository =>
    cases given : env.get? repositoryName with
    | some value => exact .inl ⟨value, given⟩
    | none => exact .inr ⟨_, .repository given⟩
  | sha =>
    cases given : env.get? shaName with
    | some value => exact .inl ⟨value, given⟩
    | none => exact .inr ⟨_, .sha given⟩
  | slug =>
    cases named : env.get? repositoryName with
    | none =>
      refine .inl fun given h => ?_
      cases named.symm.trans h
    | some repository =>
      by_cases form : IsSlug repository
      · refine .inl fun given h => ?_
        cases named.symm.trans h
        exact form
      · exact .inr ⟨_, .slug named form⟩

/-- All conditions hold, or there is one that is the first not to. -/
theorem all_or_first (env : Environment) :
    (∀ c : Condition, c.Holds env) ∨
      ∃ (c : Condition) (e : SettingsError), (∀ d ∈ c.earlier, d.Holds env) ∧ c.Breaks env e := by
  rcases forall_or_first (Holds env) order with all | ⟨c, earlier, other⟩
  · exact .inl fun c => all c c.mem_order
  · obtain ⟨e, breaks⟩ := (holds_or_breaks env c).resolve_left other
    exact .inr ⟨c, e, earlier, breaks⟩

end Condition

/-- If all conditions hold there are settings, and they have what the environment says. -/
theorem load_of_holds (all : ∀ c : Condition, c.Holds env) :
    ∃ settings, load env = .ok settings ∧ Mirrors env settings := by
  obtain ⟨token, given_token⟩ := all .token
  obtain ⟨url, read⟩ := all .apiUrl
  obtain ⟨repository, given_repository⟩ := all .repository
  obtain ⟨sha, given_sha⟩ := all .sha
  obtain ⟨owner, repo, parted, split, before, after⟩ := readRepository_of_isSlug (all .slug _ given_repository)
  unfold load
  rw [require_of_get? given_token, readApiBase_of_parse read, require_of_get? given_repository,
    require_of_get? given_sha]
  simp only [bind, Except.bind, parted, pure, Except.pure]
  exact ⟨_, rfl, given_token, rfl, getLast?_withoutSlashes_ne _,
    given_repository.trans (congrArg some split), before, after, given_sha, rfl, rfl, rfl⟩

/-- The first condition that does not hold ends the loading. -/
theorem load_of_breaks {c : Condition} {e : SettingsError} (earlier : ∀ d ∈ c.earlier, d.Holds env)
    (breaks : c.Breaks env e) : load env = .error e := by
  cases breaks with
  | token unset =>
    unfold load
    rw [require_of_unset unset]
    rfl
  | apiUrl unread =>
    obtain ⟨token, given_token⟩ := earlier .token (by decide)
    unfold load
    rw [require_of_get? given_token, readApiBase_of_unread unread]
    rfl
  | repository unset =>
    obtain ⟨token, given_token⟩ := earlier .token (by decide)
    obtain ⟨url, read⟩ := earlier .apiUrl (by decide)
    unfold load
    rw [require_of_get? given_token, readApiBase_of_parse read, require_of_unset unset]
    rfl
  | sha unset =>
    obtain ⟨token, given_token⟩ := earlier .token (by decide)
    obtain ⟨url, read⟩ := earlier .apiUrl (by decide)
    obtain ⟨repository, given_repository⟩ := earlier .repository (by decide)
    unfold load
    rw [require_of_get? given_token, readApiBase_of_parse read, require_of_get? given_repository,
      require_of_unset unset]
    rfl
  | slug named form =>
    obtain ⟨token, given_token⟩ := earlier .token (by decide)
    obtain ⟨url, read⟩ := earlier .apiUrl (by decide)
    obtain ⟨sha, given_sha⟩ := earlier .sha (by decide)
    unfold load
    rw [require_of_get? given_token, readApiBase_of_parse read, require_of_get? named,
      require_of_get? given_sha]
    simp only [bind, Except.bind, readRepository_of_not_isSlug form]

theorem ofEnvironment_of_holds (all : ∀ c : Condition, c.Holds env) :
    ∃ settings, ofEnvironment env = .ok settings ∧ Mirrors env settings := by
  obtain ⟨settings, loaded, mirrors⟩ := load_of_holds all
  exact ⟨settings, congrArg (Except.mapError SettingsError.failure) loaded, mirrors⟩

theorem ofEnvironment_of_breaks {c : Condition} {e : SettingsError} (earlier : ∀ d ∈ c.earlier, d.Holds env)
    (breaks : c.Breaks env e) : ofEnvironment env = .error e.failure :=
  congrArg (Except.mapError SettingsError.failure) (load_of_breaks earlier breaks)

/-- Settings that were loaded have what the environment says, and all conditions hold. -/
theorem holds_of_load {settings : Settings} (loaded : load env = .ok settings) :
    (∀ c : Condition, c.Holds env) ∧ Mirrors env settings := by
  rcases Condition.all_or_first env with all | ⟨c, e, earlier, breaks⟩
  · obtain ⟨found, again, mirrors⟩ := load_of_holds all
    cases loaded.symm.trans again
    exact ⟨all, mirrors⟩
  · cases loaded.symm.trans (load_of_breaks earlier breaks)

/-- Settings depend on nothing but the values that are not empty, and on what is read from the one for the interface. -/
theorem load_congr {env' : Environment} (same : ∀ name ≠ apiUrlName, env.get? name = env'.get? name)
    (interface : readApiBase (givenApiUrl env) = readApiBase (givenApiUrl env')) : load env = load env' := by
  unfold givenApiUrl at interface
  unfold load require
  rw [interface, same tokenName (by decide), same repositoryName (by decide), same shaName (by decide),
    same totalName (by decide), same detailsName (by decide), same minCoverageName (by decide)]

end Conditions

/-! ## All conditions together -/

/-- An environment gives settings exactly if all conditions hold, and they have what it says. Else it gives the
failure for the first condition that does not hold. A variable with the empty text can as well be left out. -/
theorem ofEnvironment_by_conditions (env : Environment) :
    ((∃ settings, ofEnvironment env = .ok settings) ↔ ∀ c : Condition, c.Holds env) ∧
    (∀ settings, ofEnvironment env = .ok settings → Mirrors env settings) ∧
    (∀ failure, ofEnvironment env = .error failure ↔
      ∃ (c : Condition) (e : SettingsError), (∀ d ∈ c.earlier, d.Holds env) ∧ c.Breaks env e ∧
        e.failure = failure) ∧
    ∀ name, env.value? name = some [] → ofEnvironment (env.without name) = ofEnvironment env := by
  have without (name : Text) (empty : env.value? name = some []) :
      ofEnvironment (env.without name) = ofEnvironment env := by
    have same := Environment.get?_without empty
    have interface : givenApiUrl (env.without name) = givenApiUrl env := by rw [givenApiUrl, same, givenApiUrl]
    exact congrArg (Except.mapError SettingsError.failure) (load_congr (fun other _ => same other) (by rw [interface]))
  rcases Condition.all_or_first env with all | ⟨c, e, earlier, breaks⟩
  · obtain ⟨settings, loaded, mirrors⟩ := ofEnvironment_of_holds all
    refine ⟨⟨fun _ => all, fun _ => ⟨settings, loaded⟩⟩, fun settings' again => ?_,
      fun failure => ⟨fun failed => ?_, ?_⟩, without⟩
    · cases loaded.symm.trans again
      exact mirrors
    · cases loaded.symm.trans failed
    · rintro ⟨c, e, earlier, breaks, -⟩
      cases loaded.symm.trans (ofEnvironment_of_breaks earlier breaks)
  · have failed := ofEnvironment_of_breaks earlier breaks
    refine ⟨⟨?_, fun all => ?_⟩, fun settings loaded => ?_, fun failure => ⟨fun again => ?_, ?_⟩, without⟩
    · rintro ⟨settings, loaded⟩
      cases loaded.symm.trans failed
    · obtain ⟨settings, loaded, -⟩ := ofEnvironment_of_holds all
      cases loaded.symm.trans failed
    · cases loaded.symm.trans failed
    · cases failed.symm.trans again
      exact ⟨c, e, earlier, breaks, rfl⟩
    · rintro ⟨c', e', earlier', breaks', rfl⟩
      exact ofEnvironment_of_breaks earlier' breaks'

/-- With a relative URL, a repository without a slash and an empty commit it is the URL that is told. With a slash
behind a URL and an empty total coverage there are settings. -/
theorem ofEnvironment_by_conditions_mixed :
    let broken : Environment := [(tokenName, "t".toList), (apiUrlName, "api".toList),
      (repositoryName, "r".toList), (shaName, [])]
    let whole : Environment := [(tokenName, "t".toList), (apiUrlName, "http://[::1]/".toList),
      (repositoryName, "o/r".toList), (shaName, "c".toList), (totalName, [])]
    let problem : SettingsError := .badApiUrl "api".toList .relativeWithoutBase
    (∀ d ∈ Condition.apiUrl.earlier, d.Holds broken) ∧ Condition.apiUrl.Breaks broken problem ∧
      ofEnvironment broken = .error problem.failure ∧
      (∀ c : Condition, c.Holds whole) ∧
      (∃ settings, ofEnvironment whole = .ok settings ∧ Mirrors whole settings) ∧
      whole.value? totalName = some [] ∧ ofEnvironment (whole.without totalName) = ofEnvironment whole := by
  intro broken whole problem
  have before : ∀ d ∈ Condition.apiUrl.earlier, d.Holds broken := by
    intro d hd
    cases List.mem_singleton.mp hd
    exact ⟨"t".toList, rfl⟩
  have breaks : Condition.apiUrl.Breaks broken problem := .apiUrl (by rfl)
  obtain ⟨-, -, failed, -⟩ := ofEnvironment_by_conditions broken
  obtain ⟨given, mirrors, -, without⟩ := ofEnvironment_by_conditions whole
  obtain ⟨settings, loaded⟩ : ∃ settings, ofEnvironment whole = .ok settings := ⟨_, by rfl⟩
  exact ⟨before, breaks, (failed _).mpr ⟨_, _, before, breaks, rfl⟩, given.mp ⟨settings, loaded⟩,
    ⟨settings, loaded, mirrors settings loaded⟩, by decide, without _ (by decide)⟩

end Settings

end CoverageNote
