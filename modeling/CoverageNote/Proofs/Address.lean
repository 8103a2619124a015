import CoverageNote.Proofs.Control
import CoverageNote.Proofs.Requests

/-!
# What is put behind a URL

A request names its URL by a text that is put together : the URL of an interface, and behind it a slash and the
rest of a path. Whatever the rest is, the URL that is read has the scheme, the host and the port of the
interface (`Url.place_of_parse_append`). The rest may end up in a query or in a fragment that the interface
has, but never in the authority : controls and spaces that were trimmed at the end of the one text stand
within the other, and there they make the host or the port unreadable.

Its path goes on from the path of the interface if nothing of it is a sign of a URL : the interface has
neither query nor fragment, and behind it come single segments (`Url.isSegment`). Then the URL is
`Url.Below` the interface (`Url.below_of_parse_append`).
-/

namespace CoverageNote

/-! ## Cutting at the first sign -/

namespace Text

variable {sign : Char} {before : Text} (absent : sign ∉ before)
include absent

theorem takeWhile_ne : before.takeWhile (· != sign) = before :=
  List.takeWhile_eq_self_iff.mpr fun c hc => by simpa using ne_of_mem_of_not_mem hc absent

theorem takeWhile_ne_append (after : Text) : (before ++ sign :: after).takeWhile (· != sign) = before := by
  have passed := List.takeWhile_eq_self_iff.mp (takeWhile_ne absent)
  rw [List.takeWhile_append_of_pos passed, List.takeWhile_cons_of_neg (by simp), List.append_nil]

omit absent in
/-- What stands before the first sign is the same with the sign behind it. -/
theorem takeWhile_append_sign (t after : Text) :
    (t ++ sign :: after).takeWhile (· != sign) = t.takeWhile (· != sign) := by
  by_cases inside : sign ∈ t
  · obtain ⟨before, middle, rfl, absent⟩ := List.eq_append_cons_of_mem inside
    rw [List.append_assoc, List.cons_append, takeWhile_ne_append absent, takeWhile_ne_append absent]
  · rw [takeWhile_ne_append inside, takeWhile_ne inside]

omit absent in
/-- What begins with the first sign goes on behind it, however long the text becomes. -/
theorem dropWhile_append_sign (t after : Text) :
    (t ++ sign :: after).dropWhile (· != sign) = t.dropWhile (· != sign) ++ sign :: after := by
  have whole := List.takeWhile_append_dropWhile (p := (· != sign)) (l := t ++ sign :: after)
  rw [takeWhile_append_sign] at whole
  refine (List.append_right_inj (t.takeWhile (· != sign))).mp ?_
  rw [whole, ← List.append_assoc, List.takeWhile_append_dropWhile]

end Text

namespace Url

/-! ## Cutting a text with more behind it -/

/-- More text behind an address leaves its scheme as it is. -/
theorem cutScheme?_append {t scheme rest : Text} (h : cutScheme? t = some (scheme, rest)) (more : Text) :
    cutScheme? (t ++ more) = some (scheme, rest ++ more) := by
  unfold cutScheme? at h ⊢
  cases parted : t.cut? ':' with
  | none =>
    rw [parted] at h
    cases h
  | some parts =>
    obtain ⟨before, after⟩ := parts
    obtain ⟨rfl, absent⟩ := Text.cut?_eq_some_iff.mp parted
    have longer : Text.cut? ':' (before ++ ':' :: after ++ more) = some (before, after ++ more) :=
      Text.cut?_eq_some_iff.mpr ⟨by simp, absent⟩
    rw [parted] at h
    rw [longer]
    dsimp only at h ⊢
    split at h
    · cases h
    · split at h
      · next fit =>
        cases h
        rw [if_pos fit]
      · cases h

theorem cutOff_fst (sign : Char) (t : Text) : (cutOff sign t).1 = t.takeWhile (· != sign) := by
  unfold cutOff
  split
  · next before after parted =>
    obtain ⟨rfl, absent⟩ := Text.cut?_eq_some_iff.mp parted
    exact (Text.takeWhile_ne_append absent after).symm
  · next absent => exact (Text.takeWhile_ne (Text.cut?_eq_none_iff.mp absent)).symm

/-- The hierarchy of an address ends before its first `?` or `#`. -/
theorem cut_hierarchy (t : Text) :
    (cut t).hierarchy = t.takeWhile fun c => c != '?' && c != '#' := by
  show (cutOff '?' (cutOff '#' t).1).1 = _
  simp only [cutOff_fst, List.takeWhile_takeWhile, Bool.decide_and, Bool.decide_eq_true]

theorem cut_of_not_mem {t : Text} (hash : '#' ∉ t) (mark : '?' ∉ t) : cut t = ⟨t, none, none⟩ := by
  simp [cut, cutOff, Text.cut?_eq_none_iff.mpr hash, Text.cut?_eq_none_iff.mpr mark]

/-- An address without a query and a fragment holds neither of their signs. -/
theorem not_mem_of_cut {t : Text} (query : (cut t).query = none) (fragment : (cut t).fragment = none) :
    '#' ∉ t ∧ '?' ∉ t := by
  unfold cut cutOff at query fragment
  cases hash : t.cut? '#' with
  | some parts =>
    rw [hash] at fragment
    cases fragment
  | none =>
    rw [hash] at query
    cases mark : t.cut? '?' with
    | some parts =>
      dsimp only at query
      rw [mark] at query
      cases query
    | none => exact ⟨Text.cut?_eq_none_iff.mp hash, Text.cut?_eq_none_iff.mp mark⟩

/-- A text is trimmed at its end no more if something stands behind it. -/
theorem exists_trimmed_append {t more : Text} (filled : trimmed t ≠ []) (behind : more ≠ [])
    (last : ∀ c ∈ more.getLast?, isEdge c = false) :
    ∃ edges, trimmed (t ++ more) = trimmed t ++ edges ++ more ∧ edges <:+ t ∧
      ∀ c ∈ edges, isEdge c = true := by
  obtain ⟨edges, split, edge⟩ := Text.exists_dropEndWhile_append isEdge (t.dropWhile isEdge)
  have start : (t ++ more).dropWhile isEdge = t.dropWhile isEdge ++ more := by
    rw [List.dropWhile_append, if_neg]
    intro empty
    exact filled (by rw [trimmed, List.isEmpty_iff.mp empty]; rfl)
  refine ⟨edges, ?_, ?_, edge⟩
  · have stop : Text.dropEndWhile isEdge (t.dropWhile isEdge ++ more) = t.dropWhile isEdge ++ more :=
      Text.dropEndWhile_eq_self fun c hc => by
        rw [List.getLast?_append, List.getLast?_eq_some_getLast behind] at hc
        rw [List.getLast?_eq_some_getLast behind] at last
        exact last c hc
    rw [trimmed, start, stop]
    exact congrArg (· ++ more) split
  · exact (List.suffix_append _ edges).trans (split ▸ List.dropWhile_suffix isEdge)

/-! ## Controls behind an authority -/

/-- The user of an authority does not reach into what is put behind it, if that holds no `@`. -/
theorem cutUser_append {behind : Text} (absent : '@' ∉ behind) (t : Text) :
    ((cutUser? (t ++ behind)).getD ([], t ++ behind)).2 = ((cutUser? t).getD ([], t)).2 ++ behind := by
  have passed : ∀ c ∈ behind.reverse, (c != '@') = true := fun c hc => by
    simpa using ne_of_mem_of_not_mem (List.mem_reverse.mp hc) absent
  unfold cutUser?
  by_cases mem : '@' ∈ t
  · rw [if_pos (by simp [mem]), if_pos (by simpa using mem), List.reverse_append,
      List.takeWhile_append_of_pos passed]
    simp
  · rw [if_neg (by simp [mem, absent]), if_neg (by simpa using mem)]
    rfl

/-- What is put behind an authority goes to its port, and to its host only if there is no port. -/
theorem cutHost_append {behind : Text} (absent : ':' ∉ behind) (bracket : Bool) (t : Text) :
    cutHost bracket (t ++ behind) =
      if (cutHost bracket t).2 = [] then ((cutHost bracket t).1 ++ behind, [])
      else ((cutHost bracket t).1, (cutHost bracket t).2 ++ behind) := by
  induction t generalizing bracket with
  | nil =>
    rw [List.nil_append, cutHost, if_pos rfl, List.nil_append]
    induction behind generalizing bracket with
    | nil => rfl
    | cons c behind ih =>
      rw [List.mem_cons, not_or] at absent
      rw [cutHost, if_neg fun h => absent.1 h.1.symm, ih absent.2]
  | cons c t ih =>
    rw [List.cons_append, cutHost, cutHost]
    split
    · rfl
    · generalize (if c = '[' then true else if c = ']' then false else bracket) = inside
      by_cases whole : (cutHost inside t).2 = []
      · simp [ih, whole]
      · simp [ih, whole]

theorem cutHost_fst_append_snd (bracket : Bool) (t : Text) :
    (cutHost bracket t).1 ++ (cutHost bracket t).2 = t := by
  induction t generalizing bracket with
  | nil => rfl
  | cons c t ih =>
    rw [cutHost]
    split
    · rfl
    · exact congrArg (c :: ·) (ih _)

theorem cutHost_snd (bracket : Bool) (t : Text) :
    (cutHost bracket t).2 = [] ∨ ∃ rest, (cutHost bracket t).2 = ':' :: rest := by
  induction t generalizing bracket with
  | nil => exact .inl rfl
  | cons c t ih =>
    rw [cutHost]
    split
    · next colon =>
      rw [colon.1]
      exact .inr ⟨t, rfl⟩
    · exact ih _

theorem location_snd (t : Text) : (location t).2 = [] ∨ ∃ rest, (location t).2 = ':' :: rest :=
  cutHost_snd false _

theorem mem_of_mem_location {c : Char} {t : Text} (h : c ∈ (location t).2) : c ∈ t := by
  have inner : c ∈ ((cutUser? t).getD ([], t)).2 := by
    rw [← cutHost_fst_append_snd false ((cutUser? t).getD ([], t)).2]
    exact List.mem_append_right _ h
  unfold cutUser? at inner
  split at inner
  · exact List.mem_reverse.mp ((List.takeWhile_sublist _).subset (List.mem_reverse.mp inner))
  · exact inner

/-- The same authority names the same place, and what it leaves begins the path. -/
theorem readAuthority_congr {scheme t t' : Text} {c c' : Cut} {base u : Url} (web : isWeb scheme = true)
    (known : readAuthority scheme c t = .ok base) (read : readAuthority scheme c' t' = .ok u)
    (same : t'.takeWhile (· != '/') = t.takeWhile (· != '/')) :
    u.host = base.host ∧ u.port = base.port ∧
      ∃ rest, base.path = .segments (pathOf (rest ++ t.dropWhile (· != '/'))) ∧
        u.path = .segments (pathOf (rest ++ t'.dropWhile (· != '/'))) := by
  obtain ⟨-, -, -, parts⟩ := readAuthority_eq_ok known
  obtain ⟨host, rest, host_ok, port_ok, host_eq, path_eq⟩ := parts web
  obtain ⟨-, -, -, parts'⟩ := readAuthority_eq_ok read
  obtain ⟨host', rest', host_ok', port_ok', host_eq', path_eq'⟩ := parts' web
  rw [same, host_ok] at host_ok'
  rw [same, port_ok] at port_ok'
  obtain ⟨port_eq, rest_eq⟩ := Prod.mk.inj (Except.ok.inj port_ok')
  refine ⟨?_, port_eq.symm, rest, path_eq, ?_⟩
  · rw [host_eq, host_eq', Except.ok.inj host_ok']
  · rw [path_eq', rest_eq]

/-- There is no authority in an empty text. -/
theorem ne_nil_of_readAuthority {scheme t : Text} {c : Cut} {u : Url} (web : isWeb scheme = true)
    (h : readAuthority scheme c t = .ok u) : t ≠ [] := by
  rintro rfl
  obtain ⟨-, -, -, parts⟩ := readAuthority_eq_ok h
  obtain ⟨host, -, known, -⟩ := parts web
  have unknown : Host.ofWeb (location []).1 = .error .emptyHost := by rfl
  rw [List.takeWhile_nil, unknown] at known
  cases known

/-- What stands behind the slashes after a scheme : the authority and the path. -/
def beyondSlashes (hierarchy : Text) : Text :=
  (slashed (visible hierarchy)).dropWhile (· == '/')

theorem not_mem_beyondSlashes (t : Text) : '\\' ∉ beyondSlashes t := by
  intro mem
  obtain ⟨c, -, same⟩ := List.mem_map.mp ((List.dropWhile_sublist _).subset mem)
  split at same
  · cases same
  · contradiction

theorem isEdge_of_isDigit {c : Char} (h : c.isDigit = true) : isEdge c = false := by
  simp only [Char.isDigit, Bool.and_eq_true, decide_eq_true_eq, ge_iff_le, UInt32.le_iff_toNat_le] at h
  simp only [isEdge, decide_eq_false_iff_not, Char.toNat]
  exact Nat.not_le_of_lt (Nat.lt_of_lt_of_le (by decide) h.1)

section Edges

variable {edges : Text} (edge : ∀ c ∈ edges, isEdge c = true)
include edge

theorem not_mem_of_isEdge {c : Char} (h : isEdge c = false) : c ∉ edges := fun mem => by
  rw [edge c mem] at h
  cases h

/-- Controls and spaces at the end of an authority stand behind its port, or behind its host. -/
theorem location_append (t : Text) :
    location (t ++ edges) =
      if (location t).2 = [] then ((location t).1 ++ edges, [])
      else ((location t).1, (location t).2 ++ edges) := by
  unfold location
  rw [cutUser_append (not_mem_of_isEdge edge (by decide)),
    cutHost_append (not_mem_of_isEdge edge (by decide))]

/-- No port is read from digits with a control or a space behind them. -/
theorem readPort_append {scheme digits : Text} {p : Option Nat × Text}
    (read : readPort scheme digits = .ok p) (plain : '\\' ∉ digits) (filled : edges ≠ []) :
    readPort scheme (digits ++ edges) = .error .invalidPort := by
  have whole : digits.dropWhile Char.isDigit = [] := by
    by_contra rest
    obtain ⟨c, rest, parted⟩ := List.exists_cons_of_ne_nil rest
    have other : c ≠ '\\' := by
      rintro rfl
      exact plain ((List.dropWhile_sublist Char.isDigit).subset (parted ▸ List.mem_cons_self))
    unfold readPort at read
    dsimp only at read
    rw [parted] at read
    split at read
    · cases read
    · rw [if_pos (by simp [other])] at read
      cases read
  have digit : ∀ c ∈ digits, Char.isDigit c = true := List.dropWhile_eq_nil_iff.mp whole
  obtain ⟨e, rest, rfl⟩ := List.exists_cons_of_ne_nil filled
  have first : isEdge e = true := edge e List.mem_cons_self
  have noDigit : ¬ e.isDigit = true := fun digit => by
    rw [isEdge_of_isDigit digit] at first
    cases first
  have slash : e ≠ '\\' := by
    rintro rfl
    cases first
  unfold readPort
  rw [List.takeWhile_append_of_pos digit, List.dropWhile_append_of_pos digit,
    List.takeWhile_cons_of_neg noDigit, List.dropWhile_cons_of_neg noDigit]
  dsimp only
  split
  · rfl
  · rw [if_pos (by simp [slash])]

/-- An authority names no place if a control or a space stands behind it. -/
theorem location_append_of_ok {scheme authority : Text} {p : Option Nat × Text}
    (read : portBehind scheme (location authority).2 = .ok p) (plain : '\\' ∉ authority)
    {host' : Host} {p' : Option Nat × Text}
    (known' : Host.ofWeb (location (authority ++ edges)).1 = .ok host')
    (read' : portBehind scheme (location (authority ++ edges)).2 = .ok p') : edges = [] := by
  by_contra filled
  rw [location_append edge] at known' read'
  rcases location_snd authority with empty | ⟨digits, behind⟩
  · rw [if_pos empty] at known'
    rw [← List.dropLast_concat_getLast filled, ← List.append_assoc] at known'
    obtain ⟨problem, unknown⟩ := Host.ofWeb_concat
      (by simpa [isEdge] using edge _ (List.getLast_mem filled)) ((location authority).1 ++ edges.dropLast)
    rw [unknown] at known'
    cases known'
  · have inner : '\\' ∉ digits := fun mem =>
      plain (mem_of_mem_location (behind ▸ List.mem_cons_of_mem ':' mem))
    rw [if_neg (by simp [behind]), behind] at read'
    rw [behind] at read
    change readPort scheme (digits ++ edges) = .ok p' at read'
    rw [readPort_append edge read inner filled] at read'
    cases read'

/-- So the authority is the same with more behind it : a text with a slash holds all of it, and a text without
one is the authority. -/
theorem authority_append {scheme t more : Text} {c c' : Cut} {base u : Url}
    (web : isWeb scheme = true) (plain : '\\' ∉ t) (known : readAuthority scheme c t = .ok base)
    (read : readAuthority scheme c' (t ++ edges ++ '/' :: more) = .ok u) :
    (t ++ edges ++ '/' :: more).takeWhile (· != '/') = t.takeWhile (· != '/') := by
  rw [Text.takeWhile_append_sign]
  by_cases inside : '/' ∈ t
  · obtain ⟨before, after, rfl, absent⟩ := List.eq_append_cons_of_mem inside
    rw [List.append_assoc, List.cons_append, Text.takeWhile_ne_append absent,
      Text.takeWhile_ne_append absent]
  · obtain ⟨-, -, -, parts⟩ := readAuthority_eq_ok known
    obtain ⟨_, _, -, port_ok, -⟩ := parts web
    obtain ⟨-, -, -, parts'⟩ := readAuthority_eq_ok read
    obtain ⟨_, _, host_ok', port_ok', -⟩ := parts' web
    have absent : '/' ∉ t ++ edges := by
      simp [inside, not_mem_of_isEdge edge (c := '/') (by decide)]
    rw [Text.takeWhile_ne inside] at port_ok
    rw [Text.takeWhile_ne_append absent] at host_ok' port_ok'
    rw [location_append_of_ok edge port_ok plain host_ok' port_ok', List.append_nil]

theorem slashed_of_isEdge : slashed (visible edges) = visible edges :=
  slashed_eq_self fun mem => not_mem_of_isEdge edge (by decide) (List.mem_of_mem_filter mem)

/-- What stands beyond the slashes, if it is not empty, goes on with what is put behind it. -/
theorem beyondSlashes_append {t : Text} (filled : beyondSlashes t ≠ []) (more : Text) :
    beyondSlashes (t ++ edges ++ '/' :: more) =
      beyondSlashes t ++ visible edges ++ '/' :: slashed (visible more) := by
  have whole : slashed (visible (t ++ edges ++ '/' :: more)) =
      slashed (visible t) ++ (visible edges ++ '/' :: slashed (visible more)) := by
    have slash : slashed (visible ('/' :: more)) = '/' :: slashed (visible more) := rfl
    rw [visible_append, visible_append, slashed_append, slashed_append, slashed_of_isEdge edge, slash,
      List.append_assoc]
  unfold beyondSlashes at filled ⊢
  rw [whole, List.dropWhile_append, if_neg (mt List.isEmpty_iff.mp filled), List.append_assoc]

end Edges

/-! ## URLs with more behind them -/

/-- What stands behind a query or a fragment belongs to it, and else what stands behind the path. -/
theorem hierarchy_append {rest edges : Text} (edge : ∀ c ∈ edges, isEdge c = true) (more : Text) :
    (cut (rest ++ (edges ++ '/' :: more))).hierarchy = (cut rest).hierarchy ∨
      (cut (rest ++ (edges ++ '/' :: more))).hierarchy =
        (cut rest).hierarchy ++ edges ++ '/' :: (cut more).hierarchy := by
  have passed : ∀ c ∈ edges, (c != '?' && c != '#') = true := by
    intro c hc
    have mark : '?' ∉ edges := not_mem_of_isEdge edge (by decide)
    have hash : '#' ∉ edges := not_mem_of_isEdge edge (by decide)
    simpa using ⟨ne_of_mem_of_not_mem hc mark, ne_of_mem_of_not_mem hc hash⟩
  simp only [cut_hierarchy]
  rw [List.takeWhile_append]
  split
  · next whole =>
    refine .inr ?_
    rw [(List.takeWhile_sublist _).eq_of_length whole, List.takeWhile_append_of_pos passed,
      List.takeWhile_cons_of_pos (by decide), List.append_assoc]
  · exact .inl rfl

/-- A scheme of the web is followed by an authority, however many slashes there are. -/
theorem readScheme_of_web {scheme rest : Text} (web : (impliedPort? scheme).isSome = true) :
    readScheme scheme rest =
      readAuthority scheme (cut rest) (beyondSlashes (cut rest).hierarchy) := by
  unfold readScheme
  rw [if_neg, if_pos (by simp [isWeb, web])]
  · rfl
  · rintro rfl
    cases web

section Behind

variable {t more : Text} {base u : Url} (known : parse t = .ok base)
  (read : parse (t ++ '/' :: more) = .ok u) (web : (impliedPort? u.scheme).isSome = true)
  (last : ∀ c ∈ ('/' :: more).getLast?, isEdge c = false)
include known read web last

/-- Both texts are read as an authority behind the same scheme. What was trimmed at the end of the one stands
within the other. -/
theorem readAuthority_of_parse_append :
    ∃ rest edges, edges <:+ t ∧ (∀ c ∈ edges, isEdge c = true) ∧
      readAuthority u.scheme (cut rest) (beyondSlashes (cut rest).hierarchy) = .ok base ∧
      readAuthority u.scheme (cut (rest ++ (edges ++ '/' :: more)))
        (beyondSlashes (cut (rest ++ (edges ++ '/' :: more))).hierarchy) = .ok u := by
  obtain ⟨rest', parted', read'⟩ := parse_eq_ok read web
  unfold parse at known
  split at known
  case h_2 => cases known
  next scheme rest parted =>
  have filled : trimmed t ≠ [] := by
    intro empty
    rw [empty] at parted
    cases parted
  obtain ⟨edges, split, suffix, edge⟩ := exists_trimmed_append filled (List.cons_ne_nil '/' more) last
  rw [split, List.append_assoc, cutScheme?_append parted] at parted'
  obtain ⟨rfl, rfl⟩ := Prod.mk.inj (Option.some.inj parted')
  rw [readScheme_of_web web] at known
  exact ⟨rest, edges, suffix, edge, known, read'⟩

/-- What is put behind the text of a URL leaves the scheme, the host and the port as they are. -/
theorem place_of_parse_append : u.scheme = base.scheme ∧ u.host = base.host ∧ u.port = base.port := by
  obtain ⟨rest, edges, -, edge, inner, outer⟩ := readAuthority_of_parse_append known read web last
  have isweb : isWeb u.scheme = true := by simp [isWeb, web]
  have same : (beyondSlashes (cut (rest ++ (edges ++ '/' :: more))).hierarchy).takeWhile (· != '/') =
      (beyondSlashes (cut rest).hierarchy).takeWhile (· != '/') := by
    rcases hierarchy_append edge more with same | longer
    · rw [same]
    · have filled := ne_nil_of_readAuthority isweb inner
      rw [longer, beyondSlashes_append edge filled] at outer ⊢
      have shown : ∀ c ∈ visible edges, isEdge c = true := fun c hc => edge c (List.mem_of_mem_filter hc)
      exact authority_append shown isweb (not_mem_beyondSlashes _) inner outer
  obtain ⟨host, port, -⟩ := readAuthority_congr isweb inner outer same
  exact ⟨(readAuthority_eq_ok inner).1.symm, host, port⟩

/-- And if the URL has no query and no fragment, and does not end in a control or a space, it is put behind
the path. -/
theorem path_of_parse_append (query : base.query = none) (fragment : base.fragment = none)
    (hash : '#' ∉ more) (mark : '?' ∉ more) (ended : ∀ c ∈ (visible t).getLast?, isEdge c = false) :
    u.query = none ∧ u.fragment = none ∧ ∃ path, base.path = .segments (pathOf path) ∧
      u.path = .segments (pathOf (path ++ '/' :: slashed (visible more))) := by
  obtain ⟨rest, edges, suffix, edge, inner, outer⟩ := readAuthority_of_parse_append known read web last
  have isweb : isWeb u.scheme = true := by simp [isWeb, web]
  obtain ⟨-, query_eq, fragment_eq, -⟩ := readAuthority_eq_ok inner
  obtain ⟨hash', mark'⟩ := not_mem_of_cut
    (Option.map_eq_none_iff.mp (query_eq.symm.trans query))
    (Option.map_eq_none_iff.mp (fragment_eq.symm.trans fragment))
  have none : visible edges = [] := by
    by_contra filled
    obtain ⟨front, whole⟩ := suffix.filter fun c => !isIgnored c
    change front ++ visible edges = visible t at whole
    have final : (visible t).getLast? = some ((visible edges).getLast filled) := by
      rw [← whole, List.getLast?_append, List.getLast?_eq_some_getLast filled]
      rfl
    have shown := edge _ (List.mem_of_mem_filter (List.getLast_mem filled))
    rw [ended _ final] at shown
    cases shown
  have whole : cut (rest ++ (edges ++ '/' :: more)) = ⟨rest ++ (edges ++ '/' :: more), .none, .none⟩ := by
    refine cut_of_not_mem ?_ ?_
    · simp [hash, hash', not_mem_of_isEdge edge (c := '#') (by decide)]
    · simp [mark, mark', not_mem_of_isEdge edge (c := '?') (by decide)]
  rw [whole, ← List.append_assoc] at outer
  rw [cut_of_not_mem hash' mark'] at inner
  rw [beyondSlashes_append edge (ne_nil_of_readAuthority isweb inner), none, List.append_nil] at outer
  obtain ⟨-, query_eq', fragment_eq', -⟩ := readAuthority_eq_ok outer
  obtain ⟨-, -, rest', path_eq, path_eq'⟩ :=
    readAuthority_congr isweb inner outer (Text.takeWhile_append_sign _ _)
  rw [Text.dropWhile_append_sign, ← List.append_assoc] at path_eq'
  exact ⟨query_eq', fragment_eq', _, path_eq, path_eq'⟩

end Behind

/-! ## Segments behind a URL -/

/-- A text that is one segment of a path. -/
def isSegment (t : Text) : Bool :=
  (t.all fun c => !"/\\?#".toList.contains c) && isDown t

/-- A single segment holds none of the signs of a path. -/
theorem not_mem_of_isSegment {s : Text} (fit : isSegment s = true) {c : Char}
    (sign : "/\\?#".toList.contains c = true) : c ∉ s := by
  intro mem
  simp only [isSegment, Bool.and_eq_true, List.all_eq_true] at fit
  have free := fit.1 c mem
  rw [sign] at free
  cases free

/-- What the path of a URL goes on from : all of its segments, or all but an empty one at the end. -/
def stems (u : Url) : List (List Text) :=
  match u.path with
  | .segments ss => if ss.getLast? = some [] then [ss, ss.dropLast] else [ss]
  | .plain _ => []

theorem mem_stems {u : Url} {stem : List Text}
    (h : u.path = .segments stem ∨ u.path = .segments (stem ++ [[]])) : stem ∈ u.stems := by
  unfold stems
  rcases h with same | same
  · rw [same]
    dsimp only
    split <;> simp
  · rw [same]
    simp

/-- A URL whose path goes on from the path of another one, and which says nothing more. -/
structure Below (u base : Url) (segments : List Text) : Prop where
  query : u.query = none
  fragment : u.fragment = none
  path : ∃ stem ∈ base.stems, u.path = .segments (stem ++ segments.map kept)

/-- A URL is below another if it has no query and no fragment, and its path goes on from a stem of the other's. -/
theorem below_iff {u base : Url} {segments : List Text} :
    (u.query = none ∧ u.fragment = none ∧
      ∃ stem ∈ base.stems, u.path = .segments (stem ++ segments.map kept)) ↔ u.Below base segments :=
  ⟨fun h => ⟨h.1, h.2.1, h.2.2⟩, fun h => ⟨h.query, h.fragment, h.path⟩⟩

instance (u base : Url) (segments : List Text) : Decidable (u.Below base segments) :=
  decidable_of_iff _ below_iff

theorem visible_joined (parts : List Text) :
    visible (Text.joined ['/'] parts) = Text.joined ['/'] (parts.map visible) := by
  induction parts with
  | nil => rfl
  | cons p ps ih =>
    cases ps with
    | nil => simp [Text.joined_singleton]
    | cons q ps =>
      simp only [List.map_cons] at ih ⊢
      rw [Text.joined_cons_cons, visible_append, visible_append, ih, Text.joined_cons_cons]
      rfl

theorem visible_visible (t : Text) : visible (visible t) = visible t := by
  simp [visible]

section Segments

variable {segments : List Text} (fit : ∀ s ∈ segments, isSegment s = true)
include fit

/-- Segments put together hold no sign of a path but the slashes between them. -/
theorem not_mem_joined {c : Char} (sign : "/\\?#".toList.contains c = true) (ne : c ≠ '/') :
    c ∉ Text.joined ['/'] segments := by
  rw [Text.mem_joined_iff (by simpa using ne)]
  rintro ⟨s, hs, mem⟩
  exact not_mem_of_isSegment (fit s hs) sign mem

/-- Segments put together come apart again as they were. -/
theorem fields_joined_of_isSegment (filled : segments ≠ []) :
    Text.fields '/' (slashed (visible (Text.joined ['/'] segments))) = segments.map visible := by
  have plain : '\\' ∉ visible (Text.joined ['/'] segments) := fun mem =>
    not_mem_joined fit (by decide) (by decide) (List.mem_of_mem_filter mem)
  rw [slashed_eq_self plain, visible_joined]
  refine Text.fields_joined (by simpa using filled) fun p hp => ?_
  obtain ⟨s, hs, rfl⟩ := List.mem_map.mp hp
  exact fun mem => not_mem_of_isSegment (fit s hs) (by decide) (List.mem_of_mem_filter mem)

/-- Segments put behind the text of a URL are put behind its path. -/
theorem below_of_parse_append {t : Text} {base u : Url} (known : parse t = .ok base)
    (read : parse (t ++ '/' :: Text.joined ['/'] segments) = .ok u)
    (web : (impliedPort? u.scheme).isSome = true)
    (last : ∀ c ∈ ('/' :: Text.joined ['/'] segments).getLast?, isEdge c = false)
    (filled : segments ≠ []) (query : base.query = none) (fragment : base.fragment = none)
    (ended : ∀ c ∈ (visible t).getLast?, isEdge c = false) : u.Below base segments := by
  obtain ⟨query_eq, fragment_eq, path, path_eq, path_eq'⟩ := path_of_parse_append known read web last
    query fragment (not_mem_joined fit (by decide) (by decide)) (not_mem_joined fit (by decide) (by decide))
    ended
  have parts := fields_joined_of_isSegment fit filled
  have down : ∀ s ∈ Text.fields '/' (slashed (visible (Text.joined ['/'] segments))), isDown s = true := by
    intro s hs
    rw [parts] at hs
    obtain ⟨s, inside, rfl⟩ := List.mem_map.mp hs
    have here := fit s inside
    simp only [isSegment, Bool.and_eq_true] at here
    simpa only [isDown, visible_visible] using here.2
  obtain ⟨stem, stem_eq, whole⟩ := exists_pathOf_append path down
  have shown : (segments.map visible).map kept = segments.map kept := by
    simp [kept, visible_visible]
  refine ⟨query_eq, fragment_eq, stem, mem_stems ?_, ?_⟩
  · rcases stem_eq with same | same
    · exact .inl (path_eq.trans (congrArg Path.segments same))
    · exact .inr (path_eq.trans (congrArg Path.segments same))
  · rw [path_eq', whole, parts, shown]

end Segments

end Url

end CoverageNote
