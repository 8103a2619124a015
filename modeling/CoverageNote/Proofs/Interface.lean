import CoverageNote.Proofs.Destination

/-!
# The text of the interface

The URL of the interface is kept as the text that is given for it, without the blank characters around it and then
without the slashes at its end. What is kept begins with no blank character and ends in no slash, and the paths of all
requests are put behind it as it is.

The two steps are taken once and in this order. So a blank character before the slashes at the end of the given text
(`Text.HidesBlank`) is not removed, and stands at the end of what is kept. When what is kept is given in turn there
are the same settings exactly if it has no such character (`Settings.load_again_iff`). `Settings.apiBase_kept` says
all of this of the settings that are loaded, and `Settings.apiBase_not_kept` that a URL can have one.
-/

namespace CoverageNote

/-! ## Blank characters and slashes -/

/-- Before the slashes at the end of the text there is a blank character. -/
def Text.HidesBlank (t : Text) : Prop :=
  ∃ front c slashes, t = front ++ c :: slashes ∧ isBlank c = true ∧ slashes ≠ [] ∧ ∀ d ∈ slashes, d = '/'

namespace Settings

open Text

theorem exists_withoutSlashes_append (t : Text) :
    ∃ slashes, t = withoutSlashes t ++ slashes ∧ ∀ d ∈ slashes, d = '/' := by
  obtain ⟨slashes, split, slash⟩ := exists_dropEndWhile_append (· == '/') t
  exact ⟨slashes, split, fun d inside => by simpa using slash d inside⟩

/-- Without the slashes at its end a trimmed text is still trimmed, unless it hides a blank character. -/
theorem isTrimmed_withoutSlashes_iff {t : Text} (trimmed : t.IsTrimmed) :
    (withoutSlashes t).IsTrimmed ↔ ¬t.HidesBlank := by
  constructor
  · rintro kept ⟨front, c, slashes, rfl, blank, -, slash⟩
    have solid : c ≠ '/' := by
      rintro rfl
      cases blank
    have stop : withoutSlashes (front ++ c :: slashes) = front ++ [c] := by
      rw [List.append_cons, withoutSlashes, dropEndWhile_append_of_pos (by simpa using slash)]
      refine dropEndWhile_eq_self fun d last => ?_
      rw [List.getLast?_concat, Option.mem_some_iff] at last
      simpa [← last] using solid
    have last := kept.last c (by rw [stop, List.getLast?_concat]; rfl)
    rw [blank] at last
    cases last
  · refine fun bare => ⟨trimmed.head_of_isPrefix (dropEndWhile_isPrefix _ t), fun c last => ?_⟩
    refine Bool.eq_false_iff.mpr fun blank => bare ?_
    obtain ⟨slashes, split, slash⟩ := exists_withoutSlashes_append t
    obtain ⟨front, stop⟩ := List.getLast?_eq_some_iff.mp last
    refine ⟨front, c, slashes, by rw [split, stop, List.append_assoc]; rfl, blank, fun none => ?_, slash⟩
    rw [none, List.append_nil] at split
    have solid := trimmed.last c (split ▸ last)
    rw [blank] at solid
    cases solid

/-- A text is kept as it is exactly if it is trimmed and ends in no slash. -/
theorem withoutSlashes_trim_eq_iff {t : Text} :
    withoutSlashes t.trim = t ↔ t.IsTrimmed ∧ t.getLast? ≠ some '/' := by
  constructor
  · intro same
    have shorter : t <+: t.trim := by
      conv_lhs => rw [← same]
      exact dropEndWhile_isPrefix _ t.trim
    have whole : t.trim = t := (trim_isInfix t).eq_of_length_le shorter.length_le
    refine ⟨whole ▸ t.isTrimmed_trim, ?_⟩
    rw [← same]
    exact getLast?_withoutSlashes_ne t.trim
  · rintro ⟨trimmed, last⟩
    rw [trimmed.trim_eq]
    refine dropEndWhile_eq_self fun c found => ?_
    rw [Option.mem_def.mp found, Ne, Option.some.injEq] at last
    simpa using last

/-! ## Loading again -/

section Again

variable {env : Environment} {settings : Settings}

/-- The environment with another text for the interface. -/
def withApiUrl (env : Environment) (given : Text) : Environment :=
  (apiUrlName, given) :: env

theorem get?_withApiUrl (given : Text) {name : Text} (other : name ≠ apiUrlName) :
    (withApiUrl env given).get? name = env.get? name := by
  unfold Environment.get? Environment.value? withApiUrl
  rw [List.find?_cons_of_neg (by simpa using other.symm)]

theorem givenApiUrl_withApiUrl {given : Text} (filled : given ≠ []) :
    givenApiUrl (withApiUrl env given) = given := by
  unfold givenApiUrl Environment.get? Environment.value? withApiUrl
  rw [List.find?_cons_of_pos (by simp), Option.map_some, Option.filter_some, if_pos (by simpa using filled),
    Option.getD_some]

theorem apiBase_ne_nil (loaded : load env = .ok settings) : settings.apiBase ≠ [] := by
  obtain ⟨-, base, parsed⟩ := apiBase_of_load loaded
  intro empty
  rw [empty] at parsed
  cases parsed

theorem readApiBase_givenApiUrl {kept : Text} {base : Url} (same : withoutSlashes (givenApiUrl env).trim = kept)
    (parsed : Url.parse kept = .ok base) : readApiBase (givenApiUrl env) = .ok kept := by
  subst same
  exact readApiBase_of_parse parsed

/-- What is kept gives the same settings again exactly if it is trimmed. -/
theorem load_again_iff (loaded : load env = .ok settings) :
    load (withApiUrl env settings.apiBase) = .ok settings ↔ settings.apiBase.IsTrimmed := by
  obtain ⟨-, mirrors⟩ := holds_of_load loaded
  have given : givenApiUrl (withApiUrl env settings.apiBase) = settings.apiBase :=
    givenApiUrl_withApiUrl (apiBase_ne_nil loaded)
  constructor
  · intro again
    have same := (holds_of_load again).2.apiBase
    rw [given] at same
    exact (withoutSlashes_trim_eq_iff.mp same.symm).1
  · intro trimmed
    have kept : withoutSlashes (givenApiUrl (withApiUrl env settings.apiBase)).trim = settings.apiBase := by
      rw [given]
      exact withoutSlashes_trim_eq_iff.mpr ⟨trimmed, mirrors.apiBase_last⟩
    obtain ⟨-, base, parsed⟩ := apiBase_of_load loaded
    have read := readApiBase_givenApiUrl mirrors.apiBase.symm parsed
    have read_again := readApiBase_givenApiUrl kept parsed
    rw [load_congr (fun name other => get?_withApiUrl _ other) (read_again.trans read.symm), loaded]

end Again

/-! ## What is kept -/

/-- The text of the interface in settings that were loaded begins with no blank character and ends in no slash. It is
trimmed exactly if the text that was given hides no blank character before the slashes at its end, and exactly
then it gives the same settings when it is given in turn. The client keeps it as it is, and the URL of every request
is read from it with a path behind it that begins with one slash. -/
theorem apiBase_kept {env : Environment} {settings : Settings} (loaded : load env = .ok settings) :
    (∀ c ∈ settings.apiBase.head?, isBlank c = false) ∧ settings.apiBase.getLast? ≠ some '/' ∧
    (settings.apiBase.IsTrimmed ↔ ¬(givenApiUrl env).trim.HidesBlank) ∧
    (load (withApiUrl env settings.apiBase) = .ok settings ↔ settings.apiBase.IsTrimmed) ∧
    let c := Http.Client.ofSettings settings
    c.apiBase = settings.apiBase ∧ ∀ call, ∃ path : Text, path.head? ≠ some '/' ∧
      c.address (c.pathOf call) = settings.apiBase ++ '/' :: path ∧
      ∀ request, c.requestOf call = .ok request →
        ∃ url, Url.parse (settings.apiBase ++ '/' :: path) = .ok url ∧ request.url = Http.Client.stripped url := by
  obtain ⟨-, mirrors⟩ := holds_of_load loaded
  have kept := mirrors.apiBase
  have trimmed := (givenApiUrl env).isTrimmed_trim
  have same := Http.Client.apiBase_ofSettings loaded
  refine ⟨?_, mirrors.apiBase_last, ?_, load_again_iff loaded, same, fun call => ?_⟩
  · rw [kept]
    exact trimmed.head_of_isPrefix (dropEndWhile_isPrefix _ _)
  · rw [kept]
    exact isTrimmed_withoutSlashes_iff trimmed
  · have address : (Http.Client.ofSettings settings).address ((Http.Client.ofSettings settings).pathOf call) =
        settings.apiBase ++ '/' :: Text.joined ['/'] ((Http.Client.ofSettings settings).segmentsOf call) := by
      rw [Http.Client.address, same, Http.Client.pathOf_eq]
    refine ⟨_, ?_, address, fun request made => ?_⟩
    · rw [Http.Client.segmentsOf, joined_cons_cons, List.head?_append_of_ne_nil _ (by decide)]
      decide
    · obtain ⟨url, parsed, url_eq, -⟩ := Http.Client.exists_parse_of_requestOf made
      exact ⟨url, address ▸ parsed, url_eq⟩

/-- Blank characters around a text with slashes at its end, one of them being none of ASCII. -/
theorem apiBase_kept_padded :
    let env : Environment := [(tokenName, "t".toList), (apiUrlName, "\u3000http://[::1]/api//\t".toList),
      (repositoryName, "o/r".toList), (shaName, "c".toList)]
    ∃ settings, load env = .ok settings ∧ settings.apiBase = "http://[::1]/api".toList ∧
      settings.apiBase.IsTrimmed ∧ load (withApiUrl env settings.apiBase) = .ok settings ∧
      (Http.Client.ofSettings settings).apiBase = settings.apiBase := by
  intro env
  obtain ⟨settings, loaded, base⟩ :
      ∃ settings, load env = .ok settings ∧ settings.apiBase = "http://[::1]/api".toList := ⟨_, by rfl, by decide⟩
  obtain ⟨-, -, -, again, client, -⟩ := apiBase_kept loaded
  have trimmed : settings.apiBase.IsTrimmed := by
    rw [base]
    decide
  exact ⟨settings, loaded, base, trimmed, again.mpr trimmed, client⟩

/-- A space between two slashes at the end is kept, and lost when what is kept is given in turn. -/
theorem apiBase_not_kept :
    let env (given : Text) : Environment := [(tokenName, "t".toList), (apiUrlName, given),
      (repositoryName, "o/r".toList), (shaName, "c".toList)]
    let settings (apiBase : Text) : Settings := ⟨"t".toList, apiBase, "o".toList, "r".toList, "c".toList, none, none,
      defaultMinCoverage⟩
    load (env "http://[::1]/ /".toList) = .ok (settings "http://[::1]/ ".toList) ∧
      ¬Text.IsTrimmed "http://[::1]/ ".toList ∧
      load (env "http://[::1]/ ".toList) = .ok (settings "http://[::1]".toList) :=
  ⟨by rfl, by decide, by rfl⟩

end Settings

end CoverageNote
