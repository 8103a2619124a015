import CoverageNote.Program

/-!
# The arguments

The arguments are read one after another, and one argument is either the lone `--`, or `--dry-run` for the first time,
or it asks for help or for the version (`CommandLine.AsksFor`), or it is wrong (`CommandLine.Step`). Only `--dry-run`
lets the next one be read. So four lists of arguments ask for a run (`CommandLine.Posts`), and the first argument that
asks for something else, or the one behind `--dry-run`, is what decides of all others (`CommandLine.Asks`).

`Program.run_by_arguments` says what the program does with each list : one that neither posts nor asks is wrong, and
with a list that does not post nothing happens in the world.
-/

namespace CoverageNote

namespace CommandLine

/-! ## One argument -/

/-- The argument asks for help or for the version. Behind the letter of a short option others may stand. -/
inductive AsksFor : Text → Request → Prop
  | longHelp : AsksFor Flag.help.long .longHelp
  | version : AsksFor Flag.version.long .version
  | shortHelp (more : Text) : AsksFor ('-' :: 'h' :: more) .shortHelp
  | shortVersion (more : Text) : AsksFor ('-' :: 'V' :: more) .version

/-- What comes of an argument with others behind it. -/
inductive Step (dryRun : Bool) (t : Text) (rest : List Text) (request : Request) : Prop
  | last (lone : t = "--".toList) (none : rest = []) (posts : request = .post dryRun)
  | dryRun (named : t = Flag.dryRun.long) (unset : dryRun = false) (next : readFrom true rest = request)
  | asks (asks : AsksFor t request)
  | wrong (error : UsageError) (wrong : request = .wrong error)

theorem step_readLetter (dryRun : Bool) (c : Char) (more : Text) (rest : List Text) :
    Step dryRun ('-' :: c :: more) rest (readLetter c) := by
  unfold readLetter
  split
  · next help =>
    cases help
    exact .asks (.shortHelp more)
  · split
    · next version =>
      cases version
      exact .asks (.shortVersion more)
    · exact .wrong _ rfl

/-- A long option decides, unless it is `--dry-run` and the first one. -/
theorem readLong_cases (dryRun : Bool) (t : Text) :
    (∃ error, readLong dryRun t = some (.wrong error)) ∨
      (∃ request, readLong dryRun t = some request ∧ AsksFor ('-' :: '-' :: t) request) ∨
      (readLong dryRun t = none ∧ dryRun = false ∧ t = Flag.dryRun.name) := by
  unfold readLong
  cases cut : Text.cut? '=' t with
  | some parts =>
    dsimp only
    split <;> exact .inl ⟨_, rfl⟩
  | none =>
    dsimp only
    split
    · exact .inl ⟨_, rfl⟩
    · next f found =>
      obtain rfl : f.name = t := by simpa using List.find?_some found
      cases f with
      | help => exact .inr (.inl ⟨_, rfl, .longHelp⟩)
      | version => exact .inr (.inl ⟨_, rfl, .version⟩)
      | dryRun =>
        cases dryRun with
        | true => exact .inl ⟨_, rfl⟩
        | false => exact .inr (.inr ⟨rfl, rfl, rfl⟩)

/-- All that can come of an argument. -/
theorem step_readFrom (dryRun : Bool) (t : Text) (rest : List Text) :
    Step dryRun t rest (readFrom dryRun (t :: rest)) := by
  generalize same : t :: rest = arguments
  fun_cases readFrom dryRun arguments with
  | case1 => cases same
  | case2 =>
    cases same
    exact .last rfl rfl rfl
  | case3 u more =>
    cases same
    exact .wrong _ rfl
  | case4 t rest filled request decided =>
    cases same
    rcases readLong_cases dryRun t with ⟨error, wrong⟩ | ⟨_, asked, asks⟩ | ⟨undecided, -⟩
    · cases decided.symm.trans wrong
      exact .wrong error rfl
    · cases decided.symm.trans asked
      exact .asks asks
    · cases decided.symm.trans undecided
  | case5 t rest filled undecided =>
    cases same
    rcases readLong_cases dryRun t with ⟨_, wrong⟩ | ⟨_, asked, -⟩ | ⟨-, rfl, rfl⟩
    · cases undecided.symm.trans wrong
    · cases undecided.symm.trans asked
    · exact .dryRun rfl rfl rfl
  | case6 c letters rest lone short =>
    cases same
    exact step_readLetter dryRun c letters rest
  | case7 t rest lone long short =>
    cases same
    exact .wrong _ rfl

theorem readFrom_dryRun (rest : List Text) : readFrom false (Flag.dryRun.long :: rest) = readFrom true rest := rfl

theorem readFrom_of_asksFor {t : Text} {request : Request} (asks : AsksFor t request) (dryRun : Bool)
    (rest : List Text) : readFrom dryRun (t :: rest) = request := by
  cases asks <;> rfl

/-! ## All arguments -/

/-- The arguments for a run. -/
def given (dryRun : Bool) : List Text :=
  if dryRun then [Flag.dryRun.long] else []

/-- The arguments ask for a run. -/
def Posts (arguments : List Text) (dryRun : Bool) : Prop :=
  arguments = given dryRun ∨ arguments = given dryRun ++ ["--".toList]

/-- From left to right nothing is wrong before an argument that asks for help or for the version. -/
def Asks (arguments : List Text) (request : Request) : Prop :=
  ∃ dryRun asking rest, arguments = given dryRun ++ asking :: rest ∧ AsksFor asking request

/-- The first argument of a run is a lone `--`, which is the last one then, or it is `--dry-run`. -/
theorem readFrom_cons_eq_post_iff {dryRun d : Bool} {t : Text} {rest : List Text} :
    readFrom dryRun (t :: rest) = .post d ↔
      (t = "--".toList ∧ rest = [] ∧ dryRun = d) ∨
        (t = Flag.dryRun.long ∧ dryRun = false ∧ readFrom true rest = .post d) := by
  constructor
  · intro posts
    have step := step_readFrom dryRun t rest
    rw [posts] at step
    cases step with
    | last lone none same => exact .inl ⟨lone, none, by cases same; rfl⟩
    | dryRun named unset next => exact .inr ⟨named, unset, next⟩
    | asks asks => cases asks
    | wrong error wrong => cases wrong
  · rintro (⟨rfl, rfl, rfl⟩ | ⟨rfl, rfl, next⟩)
    · rfl
    · rw [readFrom_dryRun, next]

theorem read_eq_post_iff {arguments : List Text} {dryRun : Bool} :
    read arguments = .post dryRun ↔
      arguments = given dryRun ∨ arguments = given dryRun ++ ["--".toList] := by
  rcases arguments with _ | ⟨t, _ | ⟨u, _ | ⟨v, rest⟩⟩⟩
  all_goals cases dryRun <;> simp [read, readFrom_cons_eq_post_iff, given, readFrom]

/-- The request is for help or for the version. -/
def Request.IsAnswer (request : Request) : Prop :=
  request = .shortHelp ∨ request = .longHelp ∨ request = .version

theorem AsksFor.isAnswer {t : Text} {request : Request} (asks : AsksFor t request) : request.IsAnswer := by
  cases asks with
  | shortHelp => exact .inl rfl
  | longHelp => exact .inr (.inl rfl)
  | version | shortVersion => exact .inr (.inr rfl)

theorem Request.IsAnswer.ne_post {request : Request} (answer : request.IsAnswer) (dryRun : Bool) :
    request ≠ .post dryRun := by
  rcases answer with rfl | rfl | rfl <;> nofun

theorem Request.IsAnswer.ne_wrong {request : Request} (answer : request.IsAnswer) (error : UsageError) :
    request ≠ .wrong error := by
  rcases answer with rfl | rfl | rfl <;> nofun

/-- The first argument that asks is not before anything but `--dry-run`. -/
theorem asks_of_readFrom_cons {dryRun : Bool} {t : Text} {rest : List Text} {request : Request}
    (answer : request.IsAnswer) (read : readFrom dryRun (t :: rest) = request) :
    AsksFor t request ∨ t = Flag.dryRun.long ∧ dryRun = false ∧ readFrom true rest = request := by
  have step := step_readFrom dryRun t rest
  rw [read] at step
  cases step with
  | last lone none posts => exact absurd posts (answer.ne_post dryRun)
  | dryRun named unset next => exact .inr ⟨named, unset, next⟩
  | asks asks => exact .inl asks
  | wrong error wrong => exact absurd wrong (answer.ne_wrong error)

theorem read_eq_answer_iff {arguments : List Text} {request : Request} :
    read arguments = request ∧ request.IsAnswer ↔ Asks arguments request := by
  constructor
  · rintro ⟨asked, answer⟩
    cases arguments with
    | nil => exact absurd asked.symm (answer.ne_post false)
    | cons t rest =>
      rcases asks_of_readFrom_cons answer asked with asks | ⟨rfl, -, next⟩
      · exact ⟨false, t, rest, rfl, asks⟩
      · cases rest with
        | nil => exact absurd next.symm (answer.ne_post true)
        | cons u rest =>
          rcases asks_of_readFrom_cons answer next with asks | ⟨-, set, -⟩
          · exact ⟨true, u, rest, rfl, asks⟩
          · cases set
  · rintro ⟨dryRun, asking, rest, rfl, asks⟩
    refine ⟨?_, asks.isAnswer⟩
    cases dryRun with
    | false => exact readFrom_of_asksFor asks false rest
    | true => exact readFrom_of_asksFor asks true rest

/-- Arguments that ask for nothing are wrong. -/
theorem read_eq_wrong_iff {arguments : List Text} :
    (∃ error, read arguments = .wrong error) ↔
      (∀ dryRun, ¬Posts arguments dryRun) ∧ ∀ request, ¬Asks arguments request := by
  constructor
  · rintro ⟨error, wrong⟩
    refine ⟨fun dryRun posts => ?_, fun request asks => ?_⟩
    · cases wrong.symm.trans (read_eq_post_iff.mpr posts)
    · obtain ⟨asked, answer⟩ := read_eq_answer_iff.mpr asks
      exact answer.ne_wrong error (asked.symm.trans wrong)
  · rintro ⟨posts, asks⟩
    cases asked : read arguments with
    | wrong error => exact ⟨error, rfl⟩
    | post dryRun => exact absurd (read_eq_post_iff.mp asked) (posts dryRun)
    | shortHelp => exact absurd (read_eq_answer_iff.mp ⟨asked, .inl rfl⟩) (asks _)
    | longHelp => exact absurd (read_eq_answer_iff.mp ⟨asked, .inr (.inl rfl)⟩) (asks _)
    | version => exact absurd (read_eq_answer_iff.mp ⟨asked, .inr (.inr rfl)⟩) (asks _)

end CommandLine

/-! ## The program -/

namespace Program

open CommandLine

variable {σ ε : Type}

/-- Arguments that ask for no run are answered without the world. -/
theorem run_of_not_post {arguments : List Text} (answered : ∀ dryRun, read arguments ≠ .post dryRun)
    (logged : List (Moment ε) → Text) (world : World σ ε) (s : σ) :
    run logged world arguments s = ofAnswer (read arguments) ((read arguments).message?.getD []) s := by
  rw [run]
  split
  · next dryRun posts => exact absurd posts (answered dryRun)
  · rfl

/-- What the program does with its arguments, in any world and with any log. It runs exactly for the arguments that ask
for it, and for those that ask for help or for the version first it prints that. All others are wrong, and it is told
what is wrong with them. Unless it runs nothing is asked, sent, said or logged, and it does the same in every world. -/
theorem run_by_arguments (logged : List (Moment ε) → Text) (world : World σ ε) (arguments : List Text) (s : σ) :
    let p := run logged world arguments s
    (∀ dryRun, read arguments = .post dryRun ↔ Posts arguments dryRun) ∧
    (∀ request, read arguments = request ∧ request.IsAnswer ↔ Asks arguments request) ∧
    ((∃ error, read arguments = .wrong error) ↔
      (∀ dryRun, ¬Posts arguments dryRun) ∧ ∀ request, ¬Asks arguments request) ∧
    (∀ request, Asks arguments request → p.exitCode = 0 ∧ some p.stdout = request.message? ∧ p.stderr = []) ∧
    (∀ error, read arguments = .wrong error → p.exitCode = 2 ∧ p.stdout = [] ∧ p.stderr = error.message) ∧
    ((∀ dryRun, ¬Posts arguments dryRun) →
      p.trace = [] ∧ p.state = s ∧ ∀ logged' (world' : World σ ε), run logged' world' arguments s = p) := by
  intro p
  refine ⟨fun dryRun => read_eq_post_iff, fun request => read_eq_answer_iff, read_eq_wrong_iff,
    fun request asks => ?_, fun error wrong => ?_, fun other => ?_⟩
  · obtain ⟨asked, answer⟩ := read_eq_answer_iff.mpr asks
    have whole : p = _ := run_of_not_post (fun dryRun => asked ▸ answer.ne_post dryRun) logged world s
    rw [whole, asked]
    rcases answer with rfl | rfl | rfl <;> exact ⟨rfl, rfl, rfl⟩
  · have whole : p = _ := run_of_not_post (fun dryRun => by rw [wrong]; nofun) logged world s
    rw [whole, wrong]
    exact ⟨rfl, rfl, rfl⟩
  · have answered : ∀ dryRun, read arguments ≠ .post dryRun := fun dryRun => mt read_eq_post_iff.mp (other dryRun)
    have whole (logged' : List (Moment ε) → Text) (world' : World σ ε) := run_of_not_post answered logged' world' s
    rw [show p = _ from whole logged world]
    exact ⟨rfl, rfl, whole⟩

/-- The letter for help decides before what is behind it, in its own argument and in others. -/
example : read ["--dry-run".toList, "-hx".toList, "--dry-run".toList] = .shortHelp := by decide

end Program

end CoverageNote
