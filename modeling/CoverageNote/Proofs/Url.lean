import CoverageNote.Url.Parser

/-!
# What a URL keeps of its text

Reading a URL brings its parts to a normal form, so little of the text is left as it was. But what stands
behind the last slash stays, if it is made of plain characters : it ends the fragment if there is one, else
the query if there is one, and else it is the last segment of the path (`Url.suffix_resource_of_parse`). Texts
that end in different words are therefore different URLs.

The path of a URL is a walk along the segments of its text, down and up again. What only leads down behind a
path is added to it (`Url.exists_pathOf_append`).

The parts of a URL for the web come from those of its text by `Url.readAuthority_eq_ok`. Such a URL also has
a host (`Url.hasHost_of_parse`), and without a `#` in its text it has no fragment
(`Url.fragment_of_parse`).
-/

namespace CoverageNote

/-! ## Cutting a text before its end -/

namespace Text

/-- More text behind a cut goes to its second part, if it does not hold the sign. -/
theorem cut?_append {c : Char} {tail : Text} (h : c ∉ tail) (t : Text) :
    cut? c (t ++ tail) = (cut? c t).map fun p => (p.1, p.2 ++ tail) := by
  cases found : cut? c t with
  | none => exact cut?_eq_none_iff.mpr (by simp [cut?_eq_none_iff.mp found, h])
  | some parts =>
    obtain ⟨before, after⟩ := parts
    obtain ⟨rfl, absent⟩ := cut?_eq_some_iff.mp found
    exact cut?_eq_some_iff.mpr ⟨by simp, absent⟩

/-- Nothing is dropped behind a text whose characters all stay. -/
theorem dropEndWhile_append {p : Char → Bool} {tail : Text} (filled : tail ≠ [])
    (h : ∀ c ∈ tail, p c = false) (t : Text) : dropEndWhile p (t ++ tail) = t ++ tail := by
  refine dropEndWhile_eq_self fun c hc => h c ?_
  rw [List.getLast?_append, List.getLast?_eq_some_getLast filled] at hc
  cases hc
  exact List.getLast_mem filled

/-- What is dropped from the front stops at the latest at a character that stays. -/
theorem dropWhile_append_cons {p : Char → Bool} {c : Char} (h : p c = false) (t rest : Text) :
    ∃ before, (t ++ c :: rest).dropWhile p = before ++ c :: rest := by
  induction t with
  | nil => exact ⟨[], by simp [h]⟩
  | cons d t ih =>
    rw [List.cons_append, List.dropWhile_cons]
    split
    · exact ih
    · exact ⟨d :: t, rfl⟩

/-- What stands behind the first `d` holds all from `c` on, if `c` is not before it. -/
theorem exists_append_of_not_mem {c d : Char} {a b p r : Text} (h : a ++ c :: p = b ++ d :: r)
    (absent : c ∉ b) (ne : c ≠ d) : ∃ z, r = z ++ c :: p := by
  rcases List.append_eq_append_iff.mp h with ⟨m, rfl, rest⟩ | ⟨m, rfl, rest⟩
  · cases m with
    | nil => exact absurd (List.cons.inj rest).1 ne
    | cons e m =>
      rw [(List.cons.inj rest).1] at absent
      simp at absent
  · cases m with
    | nil => exact absurd (List.cons.inj rest).1.symm ne
    | cons e m => exact ⟨m, (List.cons.inj rest).2⟩

end Text

namespace Url

/-! ## Words -/

/-- A character that every part of a URL keeps, and that does not part segments. -/
def isPlain (c : Char) : Bool :=
  !(inPath c || inWebQuery c || c == '/' || c == '\\')

/-- A text that is kept as it is in every part of a URL, also as the last segment of the path. -/
def isWord (t : Text) : Bool :=
  t.all isPlain && !isDot t && !isDotDot t

section Plain

variable {c : Char} (plain : isPlain c = true)
include plain

/-- A plain character is none of those that are not plain. -/
theorem ne_of_isPlain {d : Char} (h : isPlain d = false) : c ≠ d := by
  rintro rfl
  rw [plain] at h
  cases h

/-- In a path a plain character stands for itself. -/
theorem inPath_of_isPlain : inPath c = false := by
  simp only [isPlain, Bool.not_eq_true', Bool.or_eq_false_iff] at plain
  exact plain.1.1.1

theorem inWebQuery_of_isPlain : inWebQuery c = false := by
  simp only [isPlain, Bool.not_eq_true', Bool.or_eq_false_iff] at plain
  exact plain.1.1.2

theorem inFragment_of_isPlain : inFragment c = false :=
  (Bool.or_eq_false_iff.mp (inPath_of_isPlain plain)).1

/-- A plain character is not dropped at the edges of a URL. -/
theorem isEdge_of_isPlain : isEdge c = false := by
  have control := (Bool.or_eq_false_iff.mp (inFragment_of_isPlain plain)).1
  have space : c.toNat ≠ 0x20 := fun e =>
    ne_of_isPlain plain (d := ' ') (by decide) (Char.ext (UInt32.toNat_inj.mp e))
  simp only [isControl, Bool.or_eq_false_iff, decide_eq_false_iff_not] at control
  simp only [isEdge, decide_eq_false_iff_not]
  omega

/-- A plain character is not dropped within a URL. -/
theorem isIgnored_of_isPlain : isIgnored c = false := by
  simp [isIgnored, ne_of_isPlain plain (d := '\t') (by decide),
    ne_of_isPlain plain (d := '\n') (by decide), ne_of_isPlain plain (d := '\r') (by decide)]

end Plain

/-- A text is encoded piece by piece. -/
theorem percentEncode_append (set : Char → Bool) (first second : Text) :
    percentEncode set (first ++ second) = percentEncode set first ++ percentEncode set second :=
  List.flatMap_append

/-- A text of characters that stand for themselves is encoded as it is. -/
theorem percentEncode_eq_self {set : Char → Bool} {t : Text} (h : ∀ c ∈ t, set c = false) :
    percentEncode set t = t := by
  induction t with
  | nil => rfl
  | cons c t ih =>
    have first := h c List.mem_cons_self
    rw [percentEncode, List.flatMap_cons, first]
    exact congrArg (c :: ·) (ih fun d hd => h d (List.mem_cons_of_mem c hd))

theorem visible_append (first second : Text) :
    visible (first ++ second) = visible first ++ visible second := by
  simp [visible]

theorem slashed_eq_self {t : Text} (h : '\\' ∉ t) : slashed t = t := by
  rw [slashed, List.map_congr_left (g := id), List.map_id]
  exact fun c hc => if_neg (ne_of_mem_of_not_mem hc h)

theorem slashed_append (first second : Text) :
    slashed (first ++ second) = slashed first ++ slashed second := by
  simp [slashed]

/-! ## Walks -/

/-- A segment as a path keeps it. -/
def kept (s : Text) : Text :=
  percentEncode inPath (visible s)

/-- A segment that leads down. -/
def isDown (s : Text) : Bool :=
  !isDot (visible s) && !isDotDot (visible s)

/-- The place behind a segment that others follow. -/
def Place.pass (p : Place) (s : Text) : Place :=
  if isDotDot (visible s) then p.leave
  else if isDot (visible s) then p
  else p.enter false s

theorem Place.path_enter (p : Place) (s : Text) : (p.enter false s).path = p.path ++ [kept s] := rfl

/-- A walk takes its first segments before the others. -/
theorem Place.walk_append (ss : List Text) (s : Text) (rest : List Text) (p : Place) :
    p.walk false (ss ++ s :: rest) = (ss.foldl pass p).walk false (s :: rest) := by
  induction ss generalizing p with
  | nil => rfl
  | cons first ss ih =>
    have more : ss ++ s :: rest ≠ [] := by simp
    rw [List.cons_append, walk, List.foldl_cons, ← ih, pass]
    · split
      · rfl
      · split <;> rfl
    · exact more

/-- A walk that only leads down keeps all segments. -/
theorem Place.path_walk_of_isDown {ss : List Text} (down : ∀ s ∈ ss, isDown s = true) (p : Place) :
    (p.walk false ss).path = p.path ++ ss.map kept := by
  induction ss generalizing p with
  | nil => simp [walk]
  | cons s ss ih =>
    have first := down s List.mem_cons_self
    simp only [isDown, Bool.and_eq_true, Bool.not_eq_true'] at first
    have later := ih fun s' hs' => down s' (List.mem_cons_of_mem s hs')
    cases ss with
    | nil => simp [walk, first, path_enter]
    | cons s' ss =>
      rw [walk, if_neg (by simp [first]), if_neg (by simp [first]), later, path_enter]
      · simp
      · exact nofun

/-- The last segment of a walk leads where it would lead before others, up to an empty segment. -/
theorem Place.path_walk_singleton (s : Text) (p : Place) :
    (p.walk false [s]).path = (p.pass s).path ∨ (p.walk false [s]).path = (p.pass s).path ++ [[]] := by
  rw [walk, pass]
  split
  · exact .inr rfl
  split
  · exact .inr rfl
  · exact .inl rfl

/-- The segments of a text. A slash before the first one counts for nothing. -/
def segmentsOf (t : Text) : List Text :=
  ((t.dropHead? ['/']).getD t).fields '/'

/-- A path goes on with the segments that are put behind it. -/
theorem segmentsOf_append {t : Text} (filled : t ≠ []) (rest : Text) :
    segmentsOf (t ++ '/' :: rest) = segmentsOf t ++ rest.fields '/' := by
  obtain ⟨d, t, rfl⟩ := List.exists_cons_of_ne_nil filled
  unfold segmentsOf
  by_cases slash : d = '/'
  · subst slash
    exact Text.fields_append '/' t rest
  · have whole (u : Text) : (Text.dropHead? (d :: u) ['/']).getD (d :: u) = d :: u := by
      simp [Text.dropHead?, Ne.symm slash]
    rw [List.cons_append, whole, whole]
    exact Text.fields_append '/' (d :: t) rest

/-- What leads down behind a path is added to it. An empty segment at the end of the path may be left out. -/
theorem exists_pathOf_append (t : Text) {rest : Text} (down : ∀ s ∈ rest.fields '/', isDown s = true) :
    ∃ stem, (pathOf t = stem ∨ pathOf t = stem ++ [[]]) ∧
      pathOf (t ++ '/' :: rest) = stem ++ (rest.fields '/').map kept := by
  by_cases empty : t = []
  · subst empty
    exact ⟨[], .inr rfl, Place.path_walk_of_isDown down Place.root⟩
  · obtain ⟨s, ss, behind⟩ := List.exists_cons_of_ne_nil (Text.fields_ne_nil '/' rest)
    obtain ⟨front, last, before⟩ : ∃ front last, segmentsOf t = front ++ [last] :=
      ⟨_, _, (List.dropLast_concat_getLast (Text.fields_ne_nil '/' _)).symm⟩
    refine ⟨((segmentsOf t).foldl Place.pass Place.root).path, ?_, ?_⟩
    · show (Place.root.walk false (segmentsOf t)).path = _ ∨ (Place.root.walk false (segmentsOf t)).path = _
      rw [before, Place.walk_append, List.foldl_append]
      exact Place.path_walk_singleton last _
    · show (Place.root.walk false (segmentsOf (t ++ '/' :: rest))).path = _
      rw [segmentsOf_append empty, behind, Place.walk_append]
      exact Place.path_walk_of_isDown (behind ▸ down) _

section Word

variable {tail : Text} (word : isWord tail = true)
include word

theorem isPlain_of_mem : ∀ c ∈ tail, isPlain c = true := by
  simp only [isWord, Bool.and_eq_true, List.all_eq_true] at word
  exact word.1.1

theorem not_mem_of_isWord {c : Char} (h : isPlain c = false) : c ∉ tail :=
  fun hc => ne_of_isPlain (isPlain_of_mem word c hc) h rfl

theorem visible_of_isWord : visible tail = tail :=
  List.filter_eq_self.mpr fun c hc => by simp [isIgnored_of_isPlain (isPlain_of_mem word c hc)]

theorem slashed_of_isWord : slashed tail = tail :=
  slashed_eq_self (not_mem_of_isWord word (by decide))

/-! ## The end of a path -/

theorem kept_of_isWord : kept tail = tail := by
  rw [kept, visible_of_isWord word]
  exact percentEncode_eq_self fun c hc => inPath_of_isPlain (isPlain_of_mem word c hc)

/-- A word leads into a directory, as it is neither `.` nor `..`. -/
theorem isDown_of_isWord : isDown tail = true := by
  have shown := visible_of_isWord word
  simp only [isWord, Bool.and_eq_true] at word
  simp only [isDown, shown, word.1.2, word.2, Bool.and_self]

/-- A word behind the last slash of a path is its last segment. -/
theorem pathOf_append (t : Text) : ∃ before, pathOf (t ++ '/' :: tail) = before ++ [tail] := by
  have whole := Text.fields_eq_singleton (not_mem_of_isWord word (c := '/') (by decide))
  have down : ∀ s ∈ tail.fields '/', isDown s = true := by
    rw [whole]
    exact List.forall_mem_singleton.mpr (isDown_of_isWord word)
  obtain ⟨stem, -, path_eq⟩ := exists_pathOf_append t down
  refine ⟨stem, ?_⟩
  rw [path_eq, whole, List.map_singleton, kept_of_isWord word]

end Word

/-! ## The parts of a text -/

/-- The scheme stands before the first colon, and before any slash. -/
theorem cutScheme?_eq_some {t scheme rest : Text} (h : cutScheme? t = some (scheme, rest)) :
    ∃ before, t = before ++ ':' :: rest ∧ '/' ∉ before := by
  unfold cutScheme? at h
  split at h
  · cases h
  next before after parted =>
  obtain ⟨rfl, -⟩ := Text.cut?_eq_some_iff.mp parted
  split at h
  · cases h
  next c name shown =>
  split at h
  · next fit =>
    cases h
    refine ⟨before, rfl, fun slash => ?_⟩
    have seen : '/' ∈ c :: name := shown ▸ List.mem_filter.mpr ⟨slash, rfl⟩
    simp only [Bool.and_eq_true, List.all_eq_true] at fit
    rcases List.mem_cons.mp seen with rfl | seen
    · cases fit.1
    · cases fit.2 _ seen
  · cases h

/-- The end of a text ends the last of its parts. -/
theorem cut_append {tail : Text} (hash : '#' ∉ tail) (mark : '?' ∉ tail) (t : Text) :
    (∃ before, (cut (t ++ tail)).fragment = some (before ++ visible tail)) ∨
      (cut (t ++ tail)).fragment = none ∧
        ((∃ before, (cut (t ++ tail)).query = some (before ++ visible tail)) ∨
          (cut (t ++ tail)).query = none ∧ (cut (t ++ tail)).hierarchy = t ++ tail) := by
  unfold cut cutOff
  rw [Text.cut?_append hash]
  cases Text.cut? '#' t with
  | some parts => exact .inl ⟨visible parts.2, by simp [visible_append]⟩
  | none =>
    simp only [Option.map_none]
    rw [Text.cut?_append mark]
    cases Text.cut? '?' t with
    | some parts => exact .inr ⟨trivial, .inl ⟨visible parts.2, by simp [visible_append]⟩⟩
    | none => exact .inr ⟨trivial, .inr ⟨rfl, rfl⟩⟩

theorem cut_fragment {t : Text} (h : '#' ∉ t) : (cut t).fragment = none := by
  simp [cut, cutOff, Text.cut?_eq_none_iff.mpr h]

/-! ## The parts of a URL -/

/-- The host of a URL for the web is not empty. -/
theorem Host.ofWeb_ne_empty {t : Text} {host : Host} (h : Host.ofWeb t = .ok host) :
    host ≠ .name [] := by
  rintro rfl
  unfold Host.ofWeb at h
  split at h
  · unfold Host.bracketed at h
    split at h
    · split at h <;> cases h
    · cases h
  · split at h
    · cases h
    · cases h
    · split at h
      · split at h <;> cases h
      · cases h
        contradiction

/-- The text of the host in an authority, and what stands behind it. -/
def location (authority : Text) : Text × Text :=
  cutHost false ((cutUser? authority).getD ([], authority)).2

/-- Read the port behind a host, if there is one. -/
def portBehind (scheme : Text) : Text → Except Problem (Option Nat × Text)
  | ':' :: rest => readPort scheme rest
  | _ => .ok (none, [])

/-- A URL behind its scheme, by the parts of its text. -/
theorem readAuthority_eq_ok {scheme : Text} {c : Cut} {t : Text} {u : Url}
    (h : readAuthority scheme c t = .ok u) :
    u.scheme = scheme ∧ u.query = c.keptQuery scheme ∧ u.fragment = c.keptFragment ∧
      (isWeb scheme = true → ∃ host rest,
        Host.ofWeb (location (t.takeWhile (· != '/'))).1 = .ok host ∧
          portBehind scheme (location (t.takeWhile (· != '/'))).2 = .ok (u.port, rest) ∧
          u.host = some host ∧ u.path = .segments (pathOf (rest ++ t.dropWhile (· != '/')))) := by
  unfold readAuthority at h
  unfold location
  simp only [bind, Except.bind, pure, Except.pure, throw, throwThe, MonadExceptOf.throw] at h
  generalize (cutUser? _).getD _ = parts at h ⊢
  generalize cutHost false parts.2 = location at h ⊢
  generalize cutOff ':' parts.1 = names at h
  split at h
  · cases h
  split at h
  · cases h
  cases web : isWeb scheme with
  | false =>
    simp only [web, Bool.false_eq_true, if_false] at h
    split at h
    · cases h
    split at h
    · cases h
    split at h
    · split at h
      · cases h
      split at h <;> cases h
      exact ⟨rfl, rfl, rfl, nofun⟩
    · split at h <;> cases h
      exact ⟨rfl, rfl, rfl, nofun⟩
  | true =>
    simp only [web, if_true] at h
    split at h
    · cases h
    next host read =>
    split at h
    · cases h
    split at h
    · next behind =>
      split at h
      · cases h
      next port named =>
      split at h <;> cases h
      exact ⟨rfl, rfl, rfl, fun _ => ⟨host, port.2, read, by rw [behind]; exact named, rfl, by simp⟩⟩
    · next bare =>
      split at h <;> cases h
      have none_eq : portBehind scheme location.2 = .ok (none, []) := by
        unfold portBehind
        split
        · next rest behind => exact absurd behind (bare rest)
        · rfl
      exact ⟨rfl, rfl, rfl, fun _ => ⟨host, [], read, none_eq, rfl, by simp⟩⟩

theorem readFileScheme_scheme {c : Cut} {u : Url} (h : readFileScheme c = .ok u) :
    u.scheme = fileScheme := by
  unfold readFileScheme at h
  simp only [bind, Except.bind, pure, Except.pure] at h
  split at h
  · cases h
    rfl
  · split at h
    · cases h
    · cases h
      rfl

/-- A URL for the web, apart from those of files, is read off an authority behind its scheme. -/
theorem readScheme_eq_ok {scheme rest : Text} {u : Url} (h : readScheme scheme rest = .ok u)
    (web : (impliedPort? u.scheme).isSome = true) :
    u.scheme = scheme ∧ readAuthority scheme (cut rest)
      ((slashed (visible (cut rest).hierarchy)).dropWhile (· == '/')) = .ok u := by
  unfold readScheme at h
  split at h
  · rw [readFileScheme_scheme h] at web
    cases web
  split at h
  · exact ⟨(readAuthority_eq_ok h).1, h⟩
  next other =>
  have scheme_eq : u.scheme = scheme := by
    dsimp only at h
    split at h
    · exact (readAuthority_eq_ok h).1
    · cases h
      rfl
  rw [scheme_eq] at web
  simp [isWeb, web] at other

/-- A URL of the web was read as a scheme and, behind the slashes, an authority. -/
theorem parse_eq_ok {t : Text} {u : Url} (parsed : parse t = .ok u)
    (web : (impliedPort? u.scheme).isSome = true) :
    ∃ rest, cutScheme? (trimmed t) = some (u.scheme, rest) ∧
      readAuthority u.scheme (cut rest)
        ((slashed (visible (cut rest).hierarchy)).dropWhile (· == '/')) = .ok u := by
  unfold parse at parsed
  split at parsed
  · next scheme rest parted =>
    obtain ⟨scheme_eq, read⟩ := readScheme_eq_ok parsed web
    exact ⟨rest, scheme_eq ▸ parted, scheme_eq ▸ read⟩
  · cases parsed

/-! ## What every URL for the web has -/

/-- A URL of the web has a host. -/
theorem hasHost_of_parse {t : Text} {u : Url} (parsed : parse t = .ok u)
    (web : (impliedPort? u.scheme).isSome = true) : u.hasHost = true := by
  obtain ⟨rest, -, read⟩ := parse_eq_ok parsed web
  obtain ⟨-, -, -, parts⟩ := readAuthority_eq_ok read
  obtain ⟨host, -, known, -, host_eq, -⟩ := parts (by simp [isWeb, web])
  unfold hasHost
  rw [host_eq]
  split
  · next h => cases h
  · next h => exact absurd (Option.some.inj h) (Host.ofWeb_ne_empty known)
  · rfl

theorem mem_of_mem_trimmed {t : Text} {c : Char} (h : c ∈ trimmed t) : c ∈ t := by
  have inner := (List.dropWhile_sublist isEdge).subset (List.mem_reverse.mp h)
  exact (List.dropWhile_sublist isEdge).subset (List.mem_reverse.mp inner)

/-- Without a `#` in its text a URL has no fragment. -/
theorem fragment_of_parse {t : Text} {u : Url} (parsed : parse t = .ok u)
    (web : (impliedPort? u.scheme).isSome = true) (h : '#' ∉ t) : u.fragment = none := by
  obtain ⟨rest, parted, read⟩ := parse_eq_ok parsed web
  obtain ⟨-, -, fragment_eq, -⟩ := readAuthority_eq_ok read
  obtain ⟨before, trimmed_eq, -⟩ := cutScheme?_eq_some parted
  have absent : '#' ∉ rest := fun hash =>
    h (mem_of_mem_trimmed (trimmed_eq ▸ List.mem_append_right _ (List.mem_cons_of_mem _ hash)))
  rw [fragment_eq, Cut.keptFragment, cut_fragment absent]
  rfl

/-! ## The end of a URL -/

/-- What a URL names at its host : all that stands behind the authority. -/
def resource (u : Url) : Text :=
  u.path.text ++ behind '?' u.query ++ behind '#' u.fragment

/-- The end of the fragment is the end of the URL. -/
theorem suffix_resource_of_fragment {u : Url} {tail kept : Text} (h : u.fragment = some kept)
    (suffix : tail <:+ kept) : tail <:+ u.resource := by
  rw [resource, h]
  exact (suffix.trans (List.suffix_cons '#' kept)).trans (List.suffix_append _ _)

/-- The end of the query is the end of a URL without a fragment. -/
theorem suffix_resource_of_query {u : Url} {tail kept : Text} (fragment : u.fragment = none)
    (h : u.query = some kept) (suffix : tail <:+ kept) : tail <:+ u.resource := by
  rw [resource, fragment, h, behind, behind, List.append_nil]
  exact (suffix.trans (List.suffix_cons '?' kept)).trans (List.suffix_append _ _)

/-- The last segment is the end of a URL without a query and a fragment. -/
theorem suffix_resource_of_path {u : Url} {tail : Text} {before : List Text}
    (fragment : u.fragment = none) (query : u.query = none)
    (h : u.path = .segments (before ++ [tail])) : tail <:+ u.resource := by
  rw [resource, fragment, query, h, behind, behind, List.append_nil, List.append_nil, Path.text,
    List.flatMap_append, List.flatMap_singleton]
  exact (List.suffix_cons '/' tail).trans (List.suffix_append _ _)

section

variable {base middle tail : Text} {c : Char} (word : isWord tail = true)
include word

/-- Cutting off the scheme leaves the text from the last slash on, and what stands before it. -/
theorem cutScheme?_trimmed {scheme rest : Text}
    (parted : cutScheme? (trimmed (base ++ '/' :: c :: (middle ++ '/' :: tail))) = some (scheme, rest)) :
    ∃ base', rest = base' ++ '/' :: c :: (middle ++ '/' :: tail) := by
  have edges : ∀ d ∈ '/' :: tail, isEdge d = false := by
    intro d hd
    rcases List.mem_cons.mp hd with rfl | hd
    · decide
    · exact isEdge_of_isPlain (isPlain_of_mem word d hd)
  obtain ⟨front, dropped⟩ := Text.dropWhile_append_cons (p := isEdge) (c := '/') (by decide) base
    (c :: (middle ++ '/' :: tail))
  have kept : trimmed (base ++ '/' :: c :: (middle ++ '/' :: tail)) =
      front ++ '/' :: c :: (middle ++ '/' :: tail) := by
    rw [trimmed, dropped, show front ++ '/' :: c :: (middle ++ '/' :: tail) =
        (front ++ '/' :: c :: middle) ++ '/' :: tail by simp,
      Text.dropEndWhile_append (by simp) edges]
  obtain ⟨before, whole, absent⟩ := cutScheme?_eq_some parted
  exact Text.exists_append_of_not_mem (kept.symm.trans whole) absent (by decide)

variable (plain : isPlain c = true)
include plain

/-- The path begins at the last slash at the latest, for there is an authority before it. -/
theorem dropWhile_hierarchy : ∃ before,
    ((slashed (visible (base ++ '/' :: c :: (middle ++ '/' :: tail)))).dropWhile (· == '/')).dropWhile
      (· != '/') = before ++ '/' :: tail := by
  have shown : slashed (visible (base ++ '/' :: c :: (middle ++ '/' :: tail))) =
      (slashed (visible base) ++ ['/']) ++ c :: (slashed (visible middle) ++ '/' :: tail) := by
    have slash (t : Text) : slashed (visible ('/' :: t)) = '/' :: slashed (visible t) := rfl
    have here (t : Text) : slashed (visible (c :: t)) = c :: slashed (visible t) := by
      have kept : c ≠ '\\' := ne_of_isPlain plain (by decide)
      simp [visible, slashed, isIgnored_of_isPlain plain, kept]
    rw [visible_append, slashed_append, slash, here, visible_append, slashed_append, slash,
      visible_of_isWord word, slashed_of_isWord word]
    simp
  obtain ⟨authority, first⟩ := Text.dropWhile_append_cons (p := (· == '/')) (c := c)
    (by simpa using ne_of_isPlain plain (d := '/') (by decide)) (slashed (visible base) ++ ['/'])
    (slashed (visible middle) ++ '/' :: tail)
  rw [shown, first, show authority ++ c :: (slashed (visible middle) ++ '/' :: tail) =
    (authority ++ c :: slashed (visible middle)) ++ '/' :: tail by simp]
  exact Text.dropWhile_append_cons (by decide) _ tail

/-- What stands behind the last slash stays there, if it is a word and the URL is one for the web. Before it
the text has to hold a slash and a plain character behind it : else the word might be the host. -/
theorem suffix_resource_of_parse {u : Url}
    (parsed : parse (base ++ '/' :: c :: (middle ++ '/' :: tail)) = .ok u)
    (web : (impliedPort? u.scheme).isSome = true) : tail <:+ u.resource := by
  obtain ⟨rest, parted, read⟩ := parse_eq_ok parsed web
  obtain ⟨front, rfl⟩ := cutScheme?_trimmed word parted
  obtain ⟨-, query_eq, fragment_eq, parts⟩ := readAuthority_eq_ok read
  obtain ⟨-, before, -, -, -, path_eq⟩ := parts (by simp [isWeb, web])
  have kept {set : Char → Bool} (h : ∀ {d}, isPlain d = true → set d = false) (t : Text) :
      tail <:+ percentEncode set (t ++ visible tail) := by
    rw [visible_of_isWord word, percentEncode_append,
      percentEncode_eq_self fun d hd => h (isPlain_of_mem word d hd)]
    exact List.suffix_append _ _
  have whole : front ++ '/' :: c :: (middle ++ '/' :: tail) =
      (front ++ '/' :: c :: (middle ++ ['/'])) ++ tail := by simp
  rw [whole] at query_eq fragment_eq
  -- the word ends the last part of the text, and each part keeps it
  rcases cut_append (not_mem_of_isWord word (by decide)) (not_mem_of_isWord word (by decide))
      (front ++ '/' :: c :: (middle ++ ['/'])) with
    ⟨before, fragment⟩ | ⟨fragment, ⟨before, query⟩ | ⟨query, hierarchy⟩⟩
  · rw [Cut.keptFragment, fragment] at fragment_eq
    exact suffix_resource_of_fragment fragment_eq (kept inFragment_of_isPlain before)
  · rw [Cut.keptFragment, fragment] at fragment_eq
    rw [Cut.keptQuery, query, if_pos (by simp [isWeb, web])] at query_eq
    exact suffix_resource_of_query fragment_eq query_eq (kept inWebQuery_of_isPlain before)
  · rw [Cut.keptFragment, fragment] at fragment_eq
    rw [Cut.keptQuery, query] at query_eq
    rw [whole, hierarchy, ← whole] at path_eq
    obtain ⟨authority, dropped⟩ := dropWhile_hierarchy word plain
    rw [dropped, ← List.append_assoc] at path_eq
    obtain ⟨segments, path⟩ := pathOf_append word (before ++ authority)
    rw [path] at path_eq
    exact suffix_resource_of_path fragment_eq query_eq path_eq

end

end Url

end CoverageNote
