import GitPrompt.Prompt
import GitPrompt.Proofs.Git.Course

/-!
What a prompt shows and which calls it makes, told from git's answers. The alternate format takes
the place of the format in one case only: git ran, and found no working tree.
-/
namespace GitPrompt.Prompt

open Git Session

variable {site : Site} {config : Config}

theorem render_eq_error {scene : Format.Scene} {source : Text} {error : PromptError} :
    render scene source = .error error ↔
      (∃ unread, Format.parse source = .error unread ∧ error = .format unread) ∨
        ∃ tree excess, Format.parse source = .ok tree ∧
          tree.render scene .plain = .error excess ∧ error = .overflow excess := by
  unfold render
  cases parsed : Format.parse source with
  | error unread => simp [eq_comm]
  | ok tree =>
    simp only [showTree]
    cases rendered : tree.render scene .plain <;> simp [rendered, eq_comm]

/-- What a format comes to for a snapshot, with the display of a configuration. -/
def rendering (config : Config) (format : Text) (snapshot : Snapshot) : Except Halt Text :=
  (render ⟨snapshot, ⟨config.colour, config.bashEscapes⟩⟩ format).mapError fun error =>
    error.halt format

theorem rendering_eq_ok {format : Text} {snapshot : Snapshot} {text : Text} :
    rendering config format snapshot = .ok text ↔
      render ⟨snapshot, ⟨config.colour, config.bashEscapes⟩⟩ format = .ok text := by
  unfold rendering
  cases render ⟨snapshot, ⟨config.colour, config.bashEscapes⟩⟩ format with
  | error error => constructor <;> intro same <;> cases same
  | ok shown =>
    constructor <;> intro same <;> cases same <;> rfl

theorem rendering_eq_error {format : Text} {snapshot : Snapshot} {halt : Halt} :
    rendering config format snapshot = .error halt ↔
      ∃ error, render ⟨snapshot, ⟨config.colour, config.bashEscapes⟩⟩ format = .error error ∧
        halt = error.halt format := by
  unfold rendering
  cases render ⟨snapshot, ⟨config.colour, config.bashEscapes⟩⟩ format with
  | error error =>
    constructor
    · intro same
      exact ⟨error, rfl, (Except.error.inj same).symm⟩
    · rintro ⟨found, same, rfl⟩
      cases same
      rfl
  | ok shown =>
    constructor
    · intro same
      cases same
    · rintro ⟨error, same, -⟩
      cases same

theorem rendering_ne_git (config : Config) (format : Text) (snapshot : Snapshot)
    (error : GitError) : rendering config format snapshot ≠ .error (.git error) := by
  intro stopped
  rcases rendering_eq_error.mp stopped with ⟨found, -, same⟩
  cases found <;> cases same

theorem rendering_ne_interrupted (config : Config) (format : Text) (snapshot : Snapshot) :
    rendering config format snapshot ≠ .error .interrupted := by
  intro stopped
  rcases rendering_eq_error.mp stopped with ⟨found, -, same⟩
  cases found <;> cases same

theorem renderLogged_comes (config : Config) (format : Given) (snapshot : Snapshot) :
    Comes (renderLogged ⟨snapshot, ⟨config.colour, config.bashEscapes⟩⟩ format)
      (rendering config format.contents snapshot) [] [] := by
  have parsed : Comes (logParsed format) (.ok ()) [] [] := by
    unfold logParsed
    cases Format.parse format.contents with
    | ok tree => exact comes_log .debug (by decide) _
    | error error => exact comes_pure ()
  apply parsed.bind
  unfold rendering
  cases render ⟨snapshot, ⟨config.colour, config.bashEscapes⟩⟩ format.contents with
  | ok text => exact comes_pure text
  | error error => exact comes_halt _

def note : Log.Entry :=
  ⟨.info, .prompt, Text.words "Not inside a git repository; using the alternate format"⟩

/-- The format and the snapshot that the prompt is made from, or why there are none, after the
commands that were called and the notes that were written. -/
inductive Choice (site : Site) (config : Config) :
    List Command → List Log.Entry → Except Halt (Given × Snapshot) → Prop
  | usual {commands : List Command} {snapshot : Snapshot}
      (course : site.Course config.path commands (.ok snapshot)) :
      Choice site config commands [] (.ok (.text config.format, snapshot))
  | alternate {format : Given} (outside : site.Outside)
      (given : config.elseFormat = some format) :
      Choice site config [.insideWorkTree] [note] (.ok (format, .outsideRepository))
  | stopped {commands : List Command} {halt : Halt}
      (course : site.Course config.path commands (.error halt))
      (barred : site.Outside → config.elseFormat = none) :
      Choice site config commands [] (.error halt)

theorem chosen_eq (site : Site) (config : Config) :
    chosen site config = tryCatch (do
      let snapshot ← readStatus site config.path
      return (.text config.format, snapshot)) (fallback config) := rfl

theorem fallback_of_inside {commands : List Command} {halt : Halt} (inside : ¬ site.Outside)
    (course : site.Course config.path commands (.error halt)) (other : Option Given) :
    fallback { config with elseFormat := other } halt = Session.halt halt := by
  rcases course.interrupted_or_git with rfl | ⟨error, rfl⟩
  · rfl
  · cases error with
    | notARepository place => exact absurd course.outside_of_notARepository inside
    | notStarted reason => rfl
    | failed command details => rfl

theorem chosen_comes (site : Site) (config : Config) :
    ∃ commands notes choice, Choice site config commands notes choice ∧
      Comes (chosen site config) choice
        (commands.map fun command => command.call config.path) notes := by
  rcases readStatus_comes site config.path with ⟨commands, result, course, read⟩
  rw [chosen_eq]
  cases result with
  | ok snapshot =>
    have first := read.map fun snapshot => (Given.text config.format, snapshot)
    exact ⟨commands, [], _, .usual course, first.keep _⟩
  | error halt =>
    have first := read.stop fun snapshot =>
      (pure (Given.text config.format, snapshot) : Session (Given × Snapshot))
    by_cases outside : site.Outside
    · rcases course.of_outside outside with ⟨rfl, same⟩
      cases same
      cases given : config.elseFormat with
      | some format =>
        refine ⟨_, _, _, .alternate outside given, first.handle ?_⟩
        unfold fallback
        rw [given]
        exact (comes_note .info _).bind (comes_pure _)
      | none =>
        refine ⟨_, _, _, .stopped course fun _ => given, first.rethrow ?_⟩
        unfold fallback
        rw [given]
    · exact ⟨_, _, _, .stopped course fun found => absurd found outside,
        first.rethrow (fallback_of_inside outside course config.elseFormat)⟩

def carried (config : Config) : Except Halt (Given × Snapshot) → Except Halt Text
  | .ok (format, snapshot) => rendering config format.contents snapshot
  | .error halt => .error halt

theorem carried_eq_ok {choice : Except Halt (Given × Snapshot)} {text : Text} :
    carried config choice = .ok text ↔
      ∃ format snapshot, choice = .ok (format, snapshot) ∧
        render ⟨snapshot, ⟨config.colour, config.bashEscapes⟩⟩ format.contents = .ok text := by
  cases choice with
  | error halt =>
    constructor
    · intro shown
      cases shown
    · rintro ⟨format, snapshot, ⟨⟩, -⟩
  | ok pair =>
    rcases pair with ⟨format, snapshot⟩
    have same : carried config (.ok (format, snapshot)) =
        rendering config format.contents snapshot := rfl
    rw [same, rendering_eq_ok]
    constructor
    · intro rendered
      exact ⟨format, snapshot, rfl, rendered⟩
    · rintro ⟨_, _, ⟨⟩, rendered⟩
      exact rendered

theorem carried_eq_error {choice : Except Halt (Given × Snapshot)} {halt : Halt} :
    carried config choice = .error halt ↔
      choice = .error halt ∨ ∃ format snapshot error, choice = .ok (format, snapshot) ∧
        render ⟨snapshot, ⟨config.colour, config.bashEscapes⟩⟩ format.contents = .error error ∧
        halt = error.halt format.contents := by
  cases choice with
  | error found => simp [carried]
  | ok pair =>
    rcases pair with ⟨format, snapshot⟩
    have same : carried config (.ok (format, snapshot)) =
        rendering config format.contents snapshot := rfl
    rw [same, rendering_eq_error]
    constructor
    · rintro ⟨error, rendered, stopped⟩
      exact .inr ⟨format, snapshot, error, rfl, rendered, stopped⟩
    · rintro (⟨⟨⟩⟩ | ⟨_, _, error, ⟨⟩, rendered, stopped⟩)
      exact ⟨error, rendered, stopped⟩

theorem run_comes (site : Site) (config : Config) :
    ∃ commands notes choice, Choice site config commands notes choice ∧
      Comes (chosen site config) choice
        (commands.map fun command => command.call config.path) notes ∧
      Comes (run site config) (carried config choice)
        (commands.map fun command => command.call config.path) notes := by
  rcases chosen_comes site config with ⟨commands, notes, choice, made, first⟩
  refine ⟨commands, notes, choice, made, first, ?_⟩
  cases choice with
  | ok pair => exact first.quietly (renderLogged_comes config pair.1 pair.2)
  | error halt => exact first.stop _

def result (site : Site) (config : Config) : Except Halt Text := (run site config).outcome.1

def calls (site : Site) (config : Config) : List Call := (run site config).outcome.2.calls

def entries (site : Site) (config : Config) : List Log.Entry := (run site config).outcome.2.entries

namespace Choice

variable {commands : List Command} {notes : List Log.Entry}
  {choice : Except Halt (Given × Snapshot)}

theorem exists_course (made : Choice site config commands notes choice) :
    ∃ found, site.Course config.path commands found := by
  cases made with
  | usual course => exact ⟨_, course⟩
  | stopped course barred => exact ⟨_, course⟩
  | alternate outside given =>
    have order : Command.all = [] ++ .insideWorkTree :: [.status, .stashList] := rfl
    exact ⟨_, .stopped order nofun (.outside outside)⟩

theorem stopped_of_mem (made : Choice site config commands notes choice) {command : Command}
    {halt : Halt} (called : command ∈ commands) (stops : site.Stops config.path command halt)
    (other : ∀ place, halt ≠ .git (.notARepository place)) : choice = .error halt := by
  cases made with
  | usual course => cases course.stopped_of_mem called stops
  | stopped course barred =>
    cases course.stopped_of_mem called stops
    rfl
  | alternate outside given =>
    cases List.mem_singleton.mp called
    exact absurd (stops.unique (.outside outside)).symm (other _)

theorem alternate_of_outside (made : Choice site config commands notes choice)
    (outside : site.Outside) {format : Given} (given : config.elseFormat = some format) :
    commands = [.insideWorkTree] ∧ notes = [note] ∧
      choice = .ok (format, .outsideRepository) := by
  cases made with
  | usual course => cases (course.of_outside outside).2
  | stopped course barred => cases given.symm.trans (barred outside)
  | alternate found same =>
    cases given.symm.trans same
    exact ⟨rfl, rfl, rfl⟩

end Choice

theorem chosen_indifferent (inside : ¬ site.Outside) (config : Config) (other : Option Given)
    (trace : Trace) :
    (chosen site { config with elseFormat := other }).run.run trace =
      (chosen site config).run.run trace := by
  rw [chosen_eq, chosen_eq, run_tryCatch, run_tryCatch]
  rcases readStatus_comes site config.path with ⟨commands, result, course, read⟩
  cases result with
  | ok snapshot =>
    have first := read.map fun snapshot => (Given.text config.format, snapshot)
    rcases first trace with ⟨entries, -, ran⟩
    dsimp only
    rw [ran]
  | error halt =>
    have first := read.stop fun snapshot =>
      (pure (Given.text config.format, snapshot) : Session (Given × Snapshot))
    rcases first trace with ⟨entries, -, ran⟩
    have kept : fallback config halt = Session.halt halt :=
      fallback_of_inside inside course config.elseFormat
    dsimp only
    rw [ran]
    dsimp only
    rw [fallback_of_inside inside course other, kept]

theorem result_eq_carried (site : Site) (config : Config) :
    result site config = carried config (chosen site config).outcome.1 := by
  rcases run_comes site config with ⟨commands, notes, choice, -, first, ran⟩
  rw [first.outcome.1]
  exact ran.outcome.1

theorem interrupted_or_git_of_chosen {halt : Halt}
    (stopped : (chosen site config).outcome.1 = .error halt) :
    halt = .interrupted ∨ ∃ error, halt = .git error := by
  rcases chosen_comes site config with ⟨commands, notes, choice, made, ran⟩
  rw [ran.outcome.1] at stopped
  subst stopped
  cases made with
  | stopped course barred => exact course.interrupted_or_git

theorem exists_choice (site : Site) (config : Config) :
    ∃ commands notes choice, Choice site config commands notes choice ∧
      calls site config = (commands.map fun command => command.call config.path) ∧
      (entries site config).filter (fun entry => entry.channel = .prompt) = notes ∧
      result site config = carried config choice := by
  rcases run_comes site config with ⟨commands, notes, choice, made, -, ran⟩
  rcases ran.outcome with ⟨shown, called, noted⟩
  exact ⟨commands, notes, choice, made, called, noted, shown⟩

theorem exists_calls (site : Site) (config : Config) :
    ∃ found, site.Course config.path ((calls site config).map Call.command) found := by
  rcases exists_choice site config with ⟨commands, notes, choice, made, called, -, -⟩
  have names : (calls site config).map Call.command = commands := by
    rw [called, List.map_map]
    exact List.map_id commands
  rw [names]
  exact made.exists_course

theorem place_of_mem {call : Call} (among : call ∈ calls site config) :
    call.directory = config.path ∧ call.settings.lookup "GIT_OPTIONAL_LOCKS" = some "0" := by
  rcases exists_choice site config with ⟨commands, notes, choice, made, called, -, -⟩
  rw [called] at among
  rcases List.mem_map.mp among with ⟨command, -, rfl⟩
  exact ⟨rfl, rfl⟩

theorem mem_entries_iff : note ∈ entries site config ↔ site.Outside ∧ config.elseFormat ≠ none := by
  rcases exists_choice site config with ⟨commands, notes, choice, made, -, noted, -⟩
  have kept : note ∈ entries site config ↔ note ∈ notes := by
    rw [← noted, List.mem_filter]
    exact ⟨fun member => ⟨member, rfl⟩, fun both => both.1⟩
  rw [kept]
  cases made with
  | usual course =>
    refine ⟨nofun, fun both => ?_⟩
    cases (course.of_outside both.1).2
  | alternate outside given =>
    have some : config.elseFormat ≠ none := by
      rw [given]
      exact nofun
    exact ⟨fun _ => ⟨outside, some⟩, fun _ => List.mem_cons_self⟩
  | stopped course barred => exact ⟨nofun, fun both => absurd (barred both.1) both.2⟩

theorem result_of_outside {format : Given} (given : config.elseFormat = some format)
    (outside : site.Outside) :
    (calls site config).length = 1 ∧
      result site config = rendering config format.contents .outsideRepository := by
  rcases exists_choice site config with ⟨commands, notes, choice, made, called, -, shown⟩
  rcases made.alternate_of_outside outside given with ⟨rfl, -, rfl⟩
  exact ⟨by rw [called]; rfl, shown⟩

theorem outcome_indifferent (inside : ¬ site.Outside) (config : Config) (other : Option Given) :
    (run site { config with elseFormat := other }).outcome = (run site config).outcome := by
  unfold outcome run
  rw [run_bind, run_bind, chosen_indifferent inside]

theorem result_of_mem {call : Call} {halt : Halt} (among : call ∈ calls site config)
    (stops : site.Stops config.path call.command halt)
    (other : ∀ place, halt ≠ .git (.notARepository place)) : result site config = .error halt := by
  rcases exists_choice site config with ⟨commands, notes, choice, made, called, -, shown⟩
  rw [called] at among
  rcases List.mem_map.mp among with ⟨command, member, rfl⟩
  rw [shown, made.stopped_of_mem member stops other]
  rfl

theorem result_of_passes {status list err err' : Text} (inside : site.Passes .insideWorkTree)
    (told : site.behaviour .status = .completed status err 0)
    (listed : site.behaviour .stashList = .completed list err' 0) :
    result site config = rendering config config.format
      { Porcelain.snapshot status 0 with stashed := Porcelain.stashCount list } := by
  have every := Site.Course.passes_of_finished inside told listed
  rcases exists_choice site config with ⟨commands, notes, choice, made, -, -, shown⟩
  rw [shown]
  cases made with
  | alternate outside => exact absurd inside outside.not_passes
  | stopped course barred =>
    cases course with
    | stopped order passed stops => exact absurd (every _) stops.not_passes
  | usual course =>
    cases course with
    | finished inside' told' listed' =>
      cases told.symm.trans told'
      cases listed.symm.trans listed'
      rfl

theorem result_eq_notARepository :
    (∃ place, result site config = .error (.git (.notARepository place))) ↔
      site.Outside ∧ config.elseFormat = none := by
  rcases exists_choice site config with ⟨commands, notes, choice, made, -, -, shown⟩
  rw [shown]
  cases made with
  | usual course =>
    constructor
    · rintro ⟨place, escaped⟩
      exact absurd escaped (rendering_ne_git _ _ _ _)
    · rintro ⟨outside, -⟩
      cases (course.of_outside outside).2
  | alternate outside given =>
    constructor
    · rintro ⟨place, escaped⟩
      exact absurd escaped (rendering_ne_git _ _ _ _)
    · rintro ⟨-, barred⟩
      cases given.symm.trans barred
  | stopped course barred =>
    constructor
    · rintro ⟨place, escaped⟩
      cases escaped
      have outside := course.outside_of_notARepository
      exact ⟨outside, barred outside⟩
    · rintro ⟨outside, -⟩
      cases (course.of_outside outside).2
      exact ⟨_, rfl⟩

theorem result_of_interrupted {call : Call} (among : call ∈ calls site config)
    (answered : site.behaviour call.command = .interrupted) :
    result site config = .error .interrupted := by
  have stops : site.Stops config.path call.command .interrupted := by
    unfold Site.Stops
    rw [answered]
    exact .interrupted _
  exact result_of_mem among stops nofun

theorem result_eq_interrupted :
    result site config = .error .interrupted ↔
      ∃ call ∈ calls site config, site.behaviour call.command = .interrupted := by
  refine ⟨fun stopped => ?_, fun ⟨call, among, answered⟩ => result_of_interrupted among answered⟩
  rcases exists_choice site config with ⟨commands, notes, choice, made, called, -, shown⟩
  rw [shown] at stopped
  cases made with
  | usual course => exact absurd stopped (rendering_ne_interrupted _ _ _)
  | alternate outside given => exact absurd stopped (rendering_ne_interrupted _ _ _)
  | stopped course barred =>
    cases stopped
    rcases course.exists_interrupted with ⟨command, member, answered⟩
    rw [called]
    exact ⟨_, List.mem_map_of_mem member, answered⟩

/-- What a run asks git, and what it shows for git's answers. -/
structure Protocol (site : Site) (config : Config) : Prop where
  order : (calls site config).map Call.command <+: Command.all
  /-- What git is started with. -/
  started : (calls site config).map (fun call => call.command.invocation) <+:
    [["git", "rev-parse", "--is-inside-work-tree"],
     ["git", "status", "--porcelain=v2", "--branch", "--untracked-files=all"],
     ["git", "stash", "list"]]
  place : ∀ call ∈ calls site config,
    call.directory = config.path ∧ call.settings.lookup "GIT_OPTIONAL_LOCKS" = some "0"
  /-- A command is called when all commands before it pass, and after none that does not. -/
  called : ∀ before command after, Command.all = before ++ command :: after →
    (command ∈ (calls site config).map Call.command ↔ ∀ earlier ∈ before, site.Passes earlier)
  /-- The log tells when the alternate format is used. -/
  noted : note ∈ entries site config ↔ site.Outside ∧ config.elseFormat ≠ none
  alternate : ∀ format, config.elseFormat = some format → site.Outside →
    (calls site config).length = 1 ∧
      result site config = rendering config format.contents .outsideRepository
  /-- In all other cases it makes no difference, not even in the log. -/
  indifferent : ¬ site.Outside → ∀ other,
    (run site { config with elseFormat := other }).outcome = (run site config).outcome
  notStarted : ∀ call ∈ calls site config, ∀ reason,
    site.behaviour call.command = .notStarted reason →
      result site config = .error (.git (.notStarted reason)) ∧
        GitError.kind (.notStarted reason) = .git
  failed : ∀ call ∈ calls site config, call.command ≠ .insideWorkTree → ∀ out err code,
    site.behaviour call.command = .completed out err code → code ≠ 0 →
      result site config = .error (.git (.failed call.command (Text.trim err))) ∧
        GitError.kind (.failed call.command (Text.trim err)) = .git
  interrupted : ∀ call ∈ calls site config, site.behaviour call.command = .interrupted →
    result site config = .error .interrupted
  usual : ∀ status list err err', site.Passes .insideWorkTree →
    site.behaviour .status = .completed status err 0 →
    site.behaviour .stashList = .completed list err' 0 →
      result site config = rendering config config.format
        { Porcelain.snapshot status 0 with stashed := Porcelain.stashCount list }
  escapes : (∃ place, result site config = .error (.git (.notARepository place))) ↔
    site.Outside ∧ config.elseFormat = none

theorem run_protocol (site : Site) (config : Config) : Protocol site config := by
  rcases exists_calls site config with ⟨found, course⟩
  constructor
  case order => exact course.isPrefix
  case started =>
    have spelled := course.isPrefix.map Command.invocation
    rw [List.map_map] at spelled
    exact spelled
  case place => exact fun call => place_of_mem
  case called => exact fun before command after order => course.mem_iff order
  case noted => exact mem_entries_iff
  case alternate => exact fun format given outside => result_of_outside given outside
  case indifferent => exact fun inside other => outcome_indifferent inside config other
  case notStarted =>
    intro call among reason answered
    have stops : site.Stops config.path call.command (.git (.notStarted reason)) := by
      unfold Site.Stops
      rw [answered]
      exact .notStarted _ reason
    exact ⟨result_of_mem among stops nofun, rfl⟩
  case failed =>
    intro call among later out err code answered failure
    have stops : site.Stops config.path call.command
        (.git (.failed call.command (Text.trim err))) := by
      unfold Site.Stops
      rw [answered]
      exact .failed later out err failure
    exact ⟨result_of_mem among stops nofun, rfl⟩
  case interrupted => exact fun call => result_of_interrupted
  case usual =>
    exact fun status list err err' inside told listed => result_of_passes inside told listed
  case escapes => exact result_eq_notARepository

end GitPrompt.Prompt
