import CoverageNote.Host.Script
import CoverageNote.Proofs.Conversation

/-!
# Two runs compared

What a plan can ask is seen on the plan itself, for all answers at once (`Plan.Asks`). Two worlds that
agree on it make no difference to the plan (`Plan.Asks.run_congr`), so two runs that part at one place are
the same from there on as soon as what is left of them asks nothing that tells them apart.

A run is cut into its parts at the point where the body is laid out (`Posting.run_post`, `Posting.finish`).
Two comparisons follow. A dry run shows the body that a real run would write, and differs from it before
that point in the mode alone (`Posting.post_previews`). And it makes no difference whether the details are
given or come from the report, nor does a report that fails make another than the placeholder
(`Posting.post_details_anywhere`); here the runs are compared by their logs.
-/

namespace CoverageNote

variable {α β σ ε : Type}

/-! ## What a plan can ask -/

namespace Plan

variable {allowed : Question → Prop} {p : Plan α}

/-- All that the plan asks is `allowed`, whatever the answers are. -/
def Asks (allowed : Question → Prop) : Plan α → Prop
  | done _ => True
  | say _ rest => rest.Asks allowed
  | ask q next => allowed q ∧ ∀ answer, (next answer).Asks allowed

theorem Asks.mono {allowed' : Question → Prop} (h : p.Asks allowed)
    (imp : ∀ q, allowed q → allowed' q) : p.Asks allowed' := by
  induction p with
  | done _ => trivial
  | say _ _ ih => exact ih h
  | ask q _ ih => exact ⟨imp q h.1, fun answer => ih answer (h.2 answer)⟩

theorem Asks.bind {f : α → Plan β} (h : p.Asks allowed) (h' : ∀ a, (f a).Asks allowed) :
    (p >>= f).Asks allowed := by
  show (p.bind f).Asks allowed
  induction p with
  | done a => exact h' a
  | say _ _ ih => exact ih h
  | ask _ _ ih => exact ⟨h.1, fun answer => ih answer (h.2 answer)⟩

/-- What is asked when the plan is carried out is allowed. -/
theorem Asks.question (h : p.Asks allowed) (world : World σ ε) (s : σ) :
    ∀ e ∈ exchanges (p.run world s).trace, allowed e.question := by
  induction p generalizing s with
  | done _ => simp
  | say _ _ ih => exact ih h s
  | ask q next ih =>
    intro e he
    rcases List.mem_cons.mp he with rfl | he
    · exact h.1
    · exact ih _ (h.2 _) _ e he

/-- Worlds that agree on what the plan can ask make no difference to it. -/
theorem Asks.run_congr (h : p.Asks allowed) {world world' : World σ ε}
    (agree : ∀ q, allowed q → ∀ s, world.answer q s = world'.answer q s) (s : σ) :
    p.run world s = p.run world' s := by
  induction p generalizing s with
  | done _ => rfl
  | say _ _ ih => simp only [run, ih h]
  | ask q next ih => simp only [run, agree q h.1, ih _ (h.2 _)]

end Plan

/-! ## What a log shows -/

/-- An event in the log of a run. -/
inductive Event where
  | said (n : Note)
  | report
  | connect
  | call (c : Call)
deriving Repr, DecidableEq

/-- The event that a moment is in the log. -/
def Moment.event? : Moment ε → Option Event
  | .said n => some (.said n)
  | .asked .settings _ _ => none
  | .asked .report _ _ => some .report
  | .asked (.connect _) _ _ => some .connect
  | .asked (.call c) _ _ => some (.call c)

/-- The log of a run : what was said, and what was asked once the settings were known. -/
def log (trace : List (Moment ε)) : List Event :=
  trace.filterMap Moment.event?

theorem log_append (first second : List (Moment ε)) :
    log (first ++ second) = log first ++ log second :=
  List.filterMap_append

namespace Posting

/-! ## What a run asks at the host -/

/-- The question is a call, and writes no other body than this. -/
def WritesOnly (body : Text) : Question → Prop
  | .call c => ∀ written, c.body? = some written → written = body
  | .settings | .report | .connect _ => False

/-- A run from the point where it is connected. -/
def place (sha body : Text) : Plan (Except Failure Outcome) := do
  .tell (.heading "Resolve Target".toList)
  let target ← target sha
  .tell (.value "Target".toList target.text)
  .tell (.heading "Post Comment".toList)
  upsert target body

theorem publish_eq (settings : Settings) (body : Text) :
    publish settings body = Plan.query (.connect settings) >>= fun
      | .error failure => pure (.error failure)
      | .ok _ => place settings.sha body := rfl

theorem writesOnly_of_reads {body : Text} {c : Call} (h : c.body? = none) :
    WritesOnly body (.call c) := by
  intro written hw
  rw [h] at hw
  cases hw

/-- A lookup asks one thing. -/
theorem asks_lookup {allowed : Question → Prop} {q : Question} (h : allowed q)
    (fields : List (Text × Text)) (message : Text) (read : Except Failure q.Answer → α) :
    (lookup q fields message read).Asks allowed := by
  refine ⟨h, fun answer => ?_⟩
  cases answer with
  | ok _ => trivial
  | error failure => trivial

/-- The target is looked up without writing. -/
theorem asks_target (sha body : Text) : (target sha).Asks (WritesOnly body) := by
  rw [target_eq]
  exact asks_lookup (writesOnly_of_reads rfl) _ _ _

theorem asks_comments (target : Target) (body : Text) :
    (comments target).Asks (WritesOnly body) := by
  cases target with
  | pullRequest number => exact asks_lookup (writesOnly_of_reads rfl) _ _ _
  | commit sha => exact asks_lookup (writesOnly_of_reads rfl) _ _ _

/-- Something said, and then a write of the body. -/
theorem asks_write (n : Note) {c : Call} {body : Text} (h : c.body? = some body)
    (outcome : Outcome) :
    (do .tell n
        let written ← Plan.query (.call c)
        return written.map fun _ => outcome : Plan (Except Failure Outcome)).Asks
      (WritesOnly body) :=
  ⟨fun _ written => Option.some.inj (written.symm.trans h), fun _ => trivial⟩

theorem asks_create (target : Target) (body : Text) :
    (create target body).Asks (WritesOnly body) := by
  cases target with
  | pullRequest number => exact asks_write _ rfl _
  | commit sha => exact asks_write _ rfl _

theorem asks_change (target : Target) (id : Nat) (body : Text) :
    (change target id body).Asks (WritesOnly body) := by
  cases target with
  | pullRequest number => exact asks_write _ rfl _
  | commit sha =>
    refine ⟨fun _ written => Option.some.inj written.symm, fun written => ?_⟩
    cases written with
    | ok _ => trivial
    | error failure => exact asks_create (.commit sha) body

/-- Whatever was found, the body is all that is written. -/
theorem asks_writeOn (target : Target) (body : Text) (found : Option Comment) :
    (writeOn target body found).Asks (WritesOnly body) := by
  cases found with
  | some comment => exact asks_change target comment.id body
  | none => exact asks_create target body

theorem asks_upsert (target : Target) (body : Text) :
    (upsert target body).Asks (WritesOnly body) := by
  rw [upsert_eq]
  exact (asks_comments target body).bind fun listed => asks_writeOn target body _

theorem asks_place (sha body : Text) : (place sha body).Asks (WritesOnly body) :=
  (asks_target sha body).bind fun target => asks_upsert target body

/-! ## The parts of a run -/

/-- A run from the point where its body is laid out. -/
def finish (settings : Settings) (dryRun : Bool) (body : Text) :
    Plan (Except Failure (Option Outcome)) :=
  if dryRun then do
    preview body
    return .ok none
  else do
    let outcome ← publish settings body
    return outcome.map some

theorem proceed_eq (settings : Settings) (dryRun : Bool) :
    proceed settings dryRun = introduce settings dryRun >>= fun _ =>
      details settings.coverageDetails >>= fun details =>
        finish settings dryRun (body settings details) := rfl

/-- Behind the details a run asks for the host and writes nothing but the body. -/
theorem asks_finish (settings : Settings) (dryRun : Bool) (body : Text) :
    (finish settings dryRun body).Asks fun q => q = .connect settings ∨ WritesOnly body q := by
  cases dryRun with
  | true => trivial
  | false =>
    show (publish settings body >>= fun outcome => pure (outcome.map some)).Asks _
    refine Plan.Asks.bind ⟨.inl rfl, fun connected => ?_⟩ fun _ => trivial
    cases connected with
    | error failure => trivial
    | ok _ => exact (asks_place settings.sha body).mono fun _ => .inr

/-- A real run connects to the host, and goes on if that works. -/
theorem run_finish_wet (world : World σ ε) (s : σ) (settings : Settings) (body : Text) :
    (finish settings false body).run world s =
      let connected := world.answer (.connect settings) s
      let placed := (place settings.sha body).run world connected.2.2
      match connected.1 with
      | .error failure => ⟨.error failure, connected.2.2,
        [.asked (.connect settings) (.error failure) connected.2.1]⟩
      | .ok u => ⟨placed.result.map some, placed.state,
        .asked (.connect settings) (.ok u) connected.2.1 :: placed.trace⟩ := by
  show ((publish settings body) >>= fun outcome => pure (outcome.map some)).run world s = _
  rw [publish_eq]
  simp only [Plan.run_bind, Plan.run_query]
  cases (world.answer (.connect settings) s).1 with
  | error failure => rfl
  | ok u => simp

/-- The trace of a run whose settings are known, up to its mode. -/
def opening (settings : Settings) (sent : List ε) : List (Moment ε) :=
  [.asked .settings (.ok settings) sent, .said (.heading "Session".toList),
    .said (.value "Repository".toList (settings.owner ++ ['/'] ++ settings.repo)),
    .said (.value "Commit".toList settings.sha)]

/-- What the mode of a run is called. -/
def modeText (dryRun : Bool) : Text :=
  if dryRun then "dry-run".toList else "post-comment".toList

/-- A run whose settings are known, in its parts : the opening, the mode, the search for the details, and
what is done with the body. -/
theorem run_post {world : World σ ε} {s : σ} {settings : Settings}
    (loaded : (world.answer .settings s).1 = .ok settings) (dryRun : Bool) :
    let found := (details settings.coverageDetails).run world (world.answer .settings s).2.2
    let ended := (finish settings dryRun (body settings found.result)).run world found.state
    (post dryRun).run world s =
      ⟨ended.result, ended.state, opening settings (world.answer .settings s).2.1 ++
        .said (.value "Mode".toList (modeText dryRun)) :: (found.trace ++ ended.trace)⟩ := by
  intro found ended
  rw [post_eq]
  simp only [Plan.run_bind, Plan.run_query, loaded, proceed_eq, run_introduce]
  rfl

/-- A run that has its settings goes on with the details and then with the rest. -/
theorem exchanges_post {world : World σ ε} {s : σ} {settings : Settings}
    (loaded : (world.answer .settings s).1 = .ok settings) (dryRun : Bool) :
    let found := (details settings.coverageDetails).run world (world.answer .settings s).2.2
    let ended := (finish settings dryRun (body settings found.result)).run world found.state
    exchanges ((post dryRun).run world s).trace =
      ⟨.settings, .ok settings⟩ :: (exchanges found.trace ++ exchanges ended.trace) := by
  intro found ended
  rw [run_post loaded dryRun, ← exchanges_append]
  rfl

/-! ## A dry run and a real one -/

/-- The texts that stand on the screen as they are. -/
def plainLines (trace : List (Moment ε)) : List Text :=
  trace.filterMap fun
    | .said (.plain line) => some line
    | _ => none

theorem plainLines_details (world : World σ ε) (s : σ) (supplied : Option Text) :
    plainLines ((details supplied).run world s).trace = [] := by
  cases given : supplied.filter fun t => !t.isEmpty with
  | some text =>
    rw [details_of_some given]
    rfl
  | none =>
    rw [details_of_none given, reportedDetails, run_lookup]
    cases (world.answer .report s).1 with
    | ok output => rfl
    | error failure => rfl

/-- A real run writes the body that is laid out from its details, and no other. -/
theorem body?_post {world : World σ ε} {s : σ} {settings : Settings}
    (loaded : (world.answer .settings s).1 = .ok settings) {c : Call}
    {answer : Except Failure c.Answer} {written : Text}
    (asked : ⟨.call c, answer⟩ ∈ exchanges ((post false).run world s).trace)
    (h : c.body? = some written) :
    written = body settings
      ((details settings.coverageDetails).run world (world.answer .settings s).2.2).result := by
  rw [exchanges_post loaded false] at asked
  rcases List.mem_cons.mp asked with asked | asked
  · cases asked
  rcases List.mem_append.mp asked with asked | asked
  · cases (detailed_details world _ settings.coverageDetails).question_eq _ asked
  · rcases (asks_finish settings false _).question world _ _ asked with connecting | writes
    · cases connecting
    · exact writes written h

/-- A dry run shows what a real run would write. Without settings both fail alike, and do nothing else.
With them the two say and ask the same until the body is laid out, apart from the mode; then the dry run
shows the body and asks nothing more, and the real run connects to the host and writes no other body. -/
theorem post_previews (world : World σ ε) (s : σ) :
    let dry := (post true).run world s
    let wet := (post false).run world s
    (∃ failure sent, dry.trace = [.asked .settings (.error failure) sent] ∧
        wet.trace = dry.trace ∧ wet.result = dry.result ∧
        dry.result = .error (failure.within "failed to load settings".toList)) ∨
      ∃ body before found placed,
        dry.result = .ok none ∧
        (∀ e ∈ exchanges dry.trace, e.question = .settings ∨ e.question = .report) ∧
        plainLines dry.trace = [body] ∧
        (∀ c answer written, ⟨.call c, answer⟩ ∈ exchanges wet.trace →
          c.body? = some written → written = body) ∧
        dry.trace = before ++ .said (.value "Mode".toList "dry-run".toList) :: (found ++
          [.said (.heading "Dry Run: Coverage Comment".toList), .said (.plain body)]) ∧
        wet.trace = before ++ .said (.value "Mode".toList "post-comment".toList) :: (found ++
          placed) ∧
        ∃ settings answer sent rest, placed = .asked (.connect settings) answer sent :: rest := by
  intro dry wet
  cases loaded : (world.answer .settings s).1 with
  | error failure =>
    refine .inl ⟨failure, (world.answer .settings s).2.1, ?_, ?_, ?_, ?_⟩ <;>
      simp [dry, wet, post_eq, Plan.run_bind, loaded]
  | ok settings =>
    let found := (details settings.coverageDetails).run world (world.answer .settings s).2.2
    let body := body settings found.result
    have dry_eq := run_post loaded true
    have wet_eq := run_post loaded false
    have offline := (conversation_post world s true).offline (.inl rfl)
    refine .inr ⟨body, _, found.trace, _, ?_, offline, ?_, ?_, congrArg Run.trace dry_eq,
      congrArg Run.trace wet_eq, _, _, _, _, rfl⟩
    · rw [show dry = _ from dry_eq]
      rfl
    · rw [show dry = _ from dry_eq]
      show plainLines (found.trace ++
        [.said (.heading "Dry Run: Coverage Comment".toList), .said (.plain body)]) = [body]
      rw [plainLines, List.filterMap_append]
      exact congrArg (· ++ [body]) (plainLines_details world _ settings.coverageDetails)
    · intro c answer written asked h
      exact body?_post loaded asked h

/-- Both writes of a real run, the one that fails and the one after it, have the body that is shown. -/
theorem post_previews_troubled :
    let dry := (post true).run (troubled (.ok ())).world ()
    let wet := (post false).run (troubled (.ok ())).world ()
    dry.result = .ok none ∧ ∃ body, plainLines dry.trace = [body] ∧
      ⟨.call (.updateCommitComment 7 body), .error (.plain "locked".toList)⟩ ∈ exchanges wet.trace ∧
      ⟨.call (.createCommitComment "c".toList body), .ok ()⟩ ∈ exchanges wet.trace := by
  intro dry wet
  have asked := exchanges_troubled (.ok ())
  have update : ⟨.call (.updateCommitComment 7 troubledBody), .error (.plain "locked".toList)⟩ ∈
      exchanges wet.trace := by
    rw [show exchanges wet.trace = _ from asked]
    simp
  have create : ⟨.call (.createCommitComment "c".toList troubledBody), .ok ()⟩ ∈ exchanges wet.trace := by
    refine List.mem_of_getLast? ?_
    rw [show exchanges wet.trace = _ from asked]
    rfl
  rcases post_previews (troubled (.ok ())).world () with
    ⟨failure, sent, alone, -⟩ | ⟨body, _, _, _, none, -, shown, written, -⟩
  · cases congrArg List.length alone
  · have same : troubledBody = body := written _ _ troubledBody update rfl
    exact ⟨none, troubledBody, same ▸ shown, update, create⟩

/-! ## Where the details come from -/

/-- A run by a script, whose settings hold these details. -/
def scriptedRun (settings : Settings) (host : HostScript) (dryRun : Bool) (supplied : Option Text)
    (report : Except Failure Text) : Run (Except Failure (Option Outcome)) Unit Empty :=
  (post dryRun).run
    (Script.world ⟨.ok { settings with coverageDetails := supplied }, report, host⟩) ()

/-- A run by a script from the point where the body is laid out from these details. -/
def scriptedEnd (settings : Settings) (host : HostScript) (dryRun : Bool) (details : Text) :
    Run (Except Failure (Option Outcome)) Unit Empty :=
  (finish settings dryRun (body settings details)).run
    (Script.world ⟨.ok settings, .ok details, host⟩) ()

variable (settings : Settings) (host : HostScript) (dryRun : Bool)

/-- Where the details came from makes no difference from this point on. -/
theorem scriptedEnd_eq (supplied : Option Text) (report : Except Failure Text) (details : Text) :
    let ended := (finish { settings with coverageDetails := supplied } dryRun
      (body settings details)).run
        (Script.world ⟨.ok { settings with coverageDetails := supplied }, report, host⟩) ()
    ended.result = (scriptedEnd settings host dryRun details).result ∧
      log ended.trace = log (scriptedEnd settings host dryRun details).trace := by
  cases dryRun with
  | true => exact ⟨rfl, rfl⟩
  | false =>
    have agree (q : Question) (asked : WritesOnly (body settings details) q) (s : Unit) :
        (Script.world ⟨.ok { settings with coverageDetails := supplied }, report, host⟩).answer q s =
          (Script.world ⟨.ok settings, .ok details, host⟩).answer q s := by
      cases q with
      | call c => rfl
      | settings | report | connect _ => cases asked
    have same := (asks_place settings.sha (body settings details)).run_congr agree
    have answered (given : Settings) (loaded : Except Failure Settings)
        (report : Except Failure Text) :
        (Script.world ⟨loaded, report, host⟩).answer (.connect given) () =
          (host.connection, [], ()) := rfl
    simp only [scriptedEnd, run_finish_wet, answered, same]
    cases host.connection with
    | error failure => exact ⟨rfl, rfl⟩
    | ok _ => exact ⟨rfl, rfl⟩

/-- A run by a script, in its parts. -/
theorem scriptedRun_eq (supplied : Option Text) (report : Except Failure Text) :
    let r := scriptedRun settings host dryRun supplied report
    let found := (details supplied).run
      (Script.world ⟨.ok { settings with coverageDetails := supplied }, report, host⟩) ()
    let ended := scriptedEnd settings host dryRun found.result
    r.result = ended.result ∧
      log r.trace = log (opening settings [] ++ [.said (.value "Mode".toList (modeText dryRun))] :
        List (Moment Empty)) ++ (log found.trace ++ log ended.trace) := by
  intro r found ended
  obtain ⟨result, ending⟩ := scriptedEnd_eq settings host dryRun supplied report found.result
  rw [show r = _ from run_post rfl dryRun, ← ending, ← log_append]
  exact ⟨result, rfl⟩

/-- Without details the report is asked for, and a failure is told and replaced. -/
theorem run_details_of_empty {supplied : Option Text} (empty : supplied = none ∨ supplied = some [])
    (world : World σ ε) (s : σ) :
    (details supplied).run world s =
      let reported := world.answer .report s
      match reported.1 with
      | .ok output => ⟨output, reported.2.2, [.asked .report (.ok output) reported.2.1]⟩
      | .error failure => ⟨detailsUnavailable, reported.2.2,
        [.asked .report (.error failure) reported.2.1,
          .said (.warning [("error".toList, failure.oneLine),
            ("message".toList, "coverage report command failed".toList)])]⟩ := by
  have absent : supplied.filter (fun t => !t.isEmpty) = none := by
    rcases empty with rfl | rfl <;> rfl
  rw [details_of_none absent, reportedDetails, run_lookup]
  dsimp only
  cases (world.answer .report s).1 with
  | ok output => rfl
  | error failure => rfl

/-- Details that are given are the details, and nothing is asked for. -/
theorem run_details_of_ne_nil {text : Text} (h : text ≠ []) (world : World σ ε) (s : σ) :
    (details (some text)).run world s = ⟨text, s, []⟩ := by
  have present : (some text).filter (fun t => !t.isEmpty) = some text := by simpa using h
  rw [details, present]
  rfl

variable {supplied : Option Text} {text : Text}

/-- The log of a run by a script, up to its mode. -/
def openingLog (settings : Settings) (dryRun : Bool) : List Event :=
  log (opening settings [] ++ [.said (.value "Mode".toList (modeText dryRun))] :
    List (Moment Empty))

/-- A run with details goes on as with these details, whatever the report would be. -/
theorem scriptedRun_of_ne_nil (filled : text ≠ []) (report : Except Failure Text) :
    let r := scriptedRun settings host dryRun (some text) report
    let ended := scriptedEnd settings host dryRun text
    r.result = ended.result ∧ log r.trace = openingLog settings dryRun ++ log ended.trace := by
  have parts := scriptedRun_eq settings host dryRun (some text) report
  rw [run_details_of_ne_nil filled] at parts
  exact parts

/-- A run without details goes on as with the report. -/
theorem scriptedRun_of_ok (empty : supplied = none ∨ supplied = some []) (text : Text) :
    let r := scriptedRun settings host dryRun supplied (.ok text)
    let ended := scriptedEnd settings host dryRun text
    r.result = ended.result ∧
      log r.trace = openingLog settings dryRun ++ .report :: log ended.trace := by
  have parts := scriptedRun_eq settings host dryRun supplied (.ok text)
  rw [run_details_of_empty empty] at parts
  exact parts

/-- A run without details whose report fails goes on as with the placeholder. -/
theorem scriptedRun_of_error (empty : supplied = none ∨ supplied = some []) (failure : Failure) :
    let r := scriptedRun settings host dryRun supplied (.error failure)
    let ended := scriptedEnd settings host dryRun detailsUnavailable
    r.result = ended.result ∧
      log r.trace = openingLog settings dryRun ++ .report ::
        .said (.warning [("error".toList, failure.oneLine),
          ("message".toList, "coverage report command failed".toList)]) :: log ended.trace := by
  have parts := scriptedRun_eq settings host dryRun supplied (.error failure)
  rw [run_details_of_empty empty] at parts
  exact parts

/-- A run whose details are given asks for no report. -/
theorem scriptedRun_never_reports (filled : text ≠ []) (report : Except Failure Text) :
    (∀ e ∈ exchanges (scriptedRun settings host dryRun (some text) report).trace,
        e.question ≠ .report) ∧
      ∀ report', scriptedRun settings host dryRun (some text) report =
        scriptedRun settings host dryRun (some text) report' := by
  let given := { settings with coverageDetails := some text }
  let world (report : Except Failure Text) := Script.world ⟨.ok given, report, host⟩
  have parts (report : Except Failure Text) : (post dryRun).run (world report) () = _ :=
    run_post rfl dryRun
  simp only [show given.coverageDetails = some text from rfl, run_details_of_ne_nil filled]
    at parts
  have asks := asks_finish given dryRun (body given text)
  constructor
  · intro e he reports
    rw [scriptedRun, parts report] at he
    rcases List.mem_cons.mp he with rfl | he
    · cases reports
    · have asked := asks.question (world report) () e he
      rw [reports] at asked
      rcases asked with h | h <;> cases h
  · intro report'
    have agree (q : Question) (asked : q = .connect given ∨ WritesOnly (body given text) q)
        (s : Unit) : (world report).answer q s = (world report').answer q s := by
      cases q with
      | connect _ | call _ => rfl
      | settings | report => rcases asked with h | h <;> cases h
    have same := asks.run_congr agree
    rw [scriptedRun, scriptedRun, parts report, parts report', same]
    rfl

/-- It makes no difference where the details come from. A report that is not empty has the same effect as
details that say the same, and a report that fails the same as details that are the placeholder; the logs
differ in the event of the report, and in the warning if it fails. Where there are details the report is
never asked for, so that it makes no difference at all. -/
theorem post_details_anywhere (settings : Settings) (host : HostScript) (dryRun : Bool) :
    let run := scriptedRun settings host dryRun
    (∀ supplied, supplied = none ∨ supplied = some [] → ∀ text, text ≠ [] → ∀ report,
      (run supplied (.ok text)).result = (run (some text) report).result ∧
        ∃ before after, log (run supplied (.ok text)).trace = before ++ .report :: after ∧
          log (run (some text) report).trace = before ++ after) ∧
    (∀ supplied, supplied = none ∨ supplied = some [] → ∀ failure report,
      (run supplied (.error failure)).result = (run (some detailsUnavailable) report).result ∧
        ∃ before after,
          log (run supplied (.error failure)).trace = before ++ .report ::
            .said (.warning [("error".toList, failure.oneLine),
              ("message".toList, "coverage report command failed".toList)]) :: after ∧
          log (run (some detailsUnavailable) report).trace = before ++ after) ∧
    ∀ text, text ≠ [] → ∀ report,
      (∀ e ∈ exchanges (run (some text) report).trace, e.question ≠ .report) ∧
        ∀ report', run (some text) report = run (some text) report' := by
  intro run
  refine ⟨fun supplied empty text filled report => ?_, fun supplied empty failure report => ?_,
    fun text filled report => scriptedRun_never_reports settings host dryRun filled report⟩
  · obtain ⟨asked, askedLog⟩ := scriptedRun_of_ok settings host dryRun empty text
    obtain ⟨given, givenLog⟩ := scriptedRun_of_ne_nil settings host dryRun filled report
    exact ⟨asked.trans given.symm, _, _, askedLog, givenLog⟩
  · have filled : detailsUnavailable ≠ [] := by decide
    obtain ⟨asked, askedLog⟩ := scriptedRun_of_error settings host dryRun empty failure
    obtain ⟨given, givenLog⟩ := scriptedRun_of_ne_nil settings host dryRun filled report
    exact ⟨asked.trans given.symm, _, _, askedLog, givenLog⟩

/-- Where the change of a comment fails and a new one is written, too, a report that fails has the effect of the
placeholder. -/
theorem post_details_anywhere_troubled :
    let run := scriptedRun (settingsFor "http://[::1]".toList "c".toList) (troubled (.ok ())).host false
    let failed := run none (.error (.plain "no profile".toList))
    failed.result = .ok (some (.created (.commit "c".toList))) ∧
      (run (some detailsUnavailable) (.ok [])).result = failed.result ∧
      ∃ before after, log failed.trace = before ++ .report ::
          .said (.warning [("error".toList, "no profile".toList),
            ("message".toList, "coverage report command failed".toList)]) :: after ∧
        log (run (some detailsUnavailable) (.ok [])).trace = before ++ after := by
  intro run failed
  obtain ⟨-, missing, -⟩ :=
    post_details_anywhere (settingsFor "http://[::1]".toList "c".toList) (troubled (.ok ())).host false
  obtain ⟨same, logs⟩ := missing none (.inl rfl) (.plain "no profile".toList) (.ok [])
  exact ⟨rfl, same.symm, logs⟩

end Posting

end CoverageNote
