import GitPrompt.CommandLine
import GitPrompt.Proofs.CommandLine.Silent
import GitPrompt.Proofs.Prompt.Limit

/-!
What the program writes and which exit code it returns: the whole prompt and zero, or nothing of it
and the report of what went wrong. A silent run differs from another in one case only: the format
that it renders cannot be parsed. Within a limit of digits there is one more way to end, a crash at
a number that is too long.
-/
namespace GitPrompt.CommandLine

open Git
open Text (words)

section
variable {site : Site} {config : Config}

def logged (site : Site) (config : Config) : Text :=
  Log.shown config.verbosity (Prompt.entries site config)

/-- The format is chosen for a snapshot, and the text is all that it renders to. -/
def Succeeds (site : Site) (config : Config) (text : Text) : Prop :=
  ∃ format snapshot, (Prompt.chosen site config).outcome.1 = .ok (format, snapshot) ∧
    Prompt.render ⟨snapshot, ⟨config.colour, config.bashEscapes⟩⟩ format.contents = .ok text

def Misread (site : Site) (config : Config) (source : Text) (error : Format.FormatError) : Prop :=
  ∃ format snapshot, (Prompt.chosen site config).outcome.1 = .ok (format, snapshot) ∧
    source = format.contents ∧ Format.parse source = .error error

def Overflows (site : Site) (config : Config) (source : Text) (excess : Format.Overflow) : Prop :=
  ∃ format snapshot tree, (Prompt.chosen site config).outcome.1 = .ok (format, snapshot) ∧
    source = format.contents ∧ Format.parse source = .ok tree ∧
    tree.render ⟨snapshot, ⟨config.colour, config.bashEscapes⟩⟩ .plain = .error excess

theorem result_eq_ok {text : Text} :
    Prompt.result site config = .ok text ↔ Succeeds site config text := by
  rw [Prompt.result_eq_carried]
  exact Prompt.carried_eq_ok

theorem result_eq_format {source : Text} {error : Format.FormatError} :
    Prompt.result site config = .error (.format source error) ↔
      Misread site config source error := by
  rw [Prompt.result_eq_carried, Prompt.carried_eq_error]
  constructor
  · rintro (stopped | ⟨format, snapshot, found, chosen, rendered, same⟩)
    · rcases Prompt.interrupted_or_git_of_chosen stopped with ⟨⟨⟩⟩ | ⟨_, ⟨⟩⟩
    · rcases Prompt.render_eq_error.mp rendered with
        ⟨unread, parsed, rfl⟩ | ⟨tree, excess, -, -, rfl⟩
      · cases same
        exact ⟨format, snapshot, chosen, rfl, parsed⟩
      · cases same
  · rintro ⟨format, snapshot, chosen, rfl, parsed⟩
    exact .inr ⟨format, snapshot, .format error, chosen,
      Prompt.render_eq_error.mpr (.inl ⟨error, parsed, rfl⟩), rfl⟩

theorem result_of_overflows {source : Text} {excess : Format.Overflow}
    (overflows : Overflows site config source excess) :
    Prompt.result site config = .error (.overflow source excess) := by
  rcases overflows with ⟨format, snapshot, tree, chosen, rfl, parsed, stopped⟩
  rw [Prompt.result_eq_carried, Prompt.carried_eq_error]
  exact .inr ⟨format, snapshot, .overflow excess, chosen,
    Prompt.render_eq_error.mpr (.inr ⟨tree, excess, parsed, stopped, rfl⟩), rfl⟩

theorem result_of_git {error : GitError}
    (stopped : (Prompt.chosen site config).outcome.1 = .error (.git error)) :
    Prompt.result site config = .error (.git error) := by
  rw [Prompt.result_eq_carried, Prompt.carried_eq_error]
  exact .inl stopped

theorem out_haltOutcome (config : Config) (halt : Halt) : (haltOutcome config halt).out = [] := by
  cases halt with
  | interrupted | git error | overflow source excess => rfl
  | format source error =>
    unfold haltOutcome
    dsimp only
    split <;> rfl

theorem exit_haltOutcome (config : Config) (halt : Halt) :
    (halt = .interrupted ∧ (haltOutcome config halt).exit = 130) ∨
      halt ≠ .interrupted ∧ ((haltOutcome config halt).exit = 0 ∨
        (haltOutcome config halt).exit = 1) := by
  cases halt with
  | interrupted => exact .inl ⟨rfl, rfl⟩
  | git error => exact .inr ⟨nofun, .inr rfl⟩
  | overflow source excess => exact .inr ⟨nofun, .inr rfl⟩
  | format source error =>
    refine .inr ⟨nofun, ?_⟩
    unfold haltOutcome
    dsimp only
    split
    · exact .inl rfl
    · exact .inr rfl

theorem run_of_result {result : Except Halt Text}
    (found : Prompt.result site config = result) :
    (run site config).1 =
      ⟨(outcome config result).exit, (outcome config result).out,
        logged site config ++ (outcome config result).err⟩ := by
  subst found
  rfl

theorem run_of_succeeds {text : Text} (shown : Succeeds site config text) :
    (run site config).1 = ⟨0, text ++ ['\n'], logged site config⟩ := by
  rw [run_of_result (result_eq_ok.mpr shown)]
  simp only [outcome, List.append_nil]

theorem run_of_misread {source : Text} {error : Format.FormatError}
    (misread : Misread site config source error) :
    (run site config).1 =
      if config.silent then ⟨0, [], logged site config⟩
      else ⟨1, [], logged site config ++
        ((Failure.ofFormat source error).report config.colour ++ ['\n'])⟩ := by
  rw [run_of_result (result_eq_format.mpr misread)]
  simp only [outcome, haltOutcome]
  split
  · rw [List.append_nil]
  · rfl

theorem exit_run (site : Site) (config : Config) :
    (run site config).1.exit = 0 ∨ (run site config).1.exit = 1 ∨
      (run site config).1.exit = 130 := by
  cases found : Prompt.result site config with
  | ok text => exact .inl (congrArg Outcome.exit (run_of_result found))
  | error halt =>
    rw [run_of_result found]
    rcases exit_haltOutcome config halt with ⟨-, code⟩ | ⟨-, code | code⟩
    · exact .inr (.inr code)
    · exact .inl code
    · exact .inr (.inl code)

theorem exit_eq_130 :
    (run site config).1.exit = 130 ↔ Prompt.result site config = .error .interrupted := by
  cases found : Prompt.result site config with
  | ok text =>
    rw [run_of_result found]
    exact ⟨nofun, nofun⟩
  | error halt =>
    rw [run_of_result found]
    constructor
    · intro exit
      rcases exit_haltOutcome config halt with ⟨rfl, -⟩ | ⟨-, code | code⟩
      · rfl
      · cases exit.symm.trans code
      · cases exit.symm.trans code
    · rintro ⟨⟩
      rfl

theorem out_run {text : Text} :
    (run site config).1.out = text ++ ['\n'] ↔ Prompt.result site config = .ok text := by
  cases found : Prompt.result site config with
  | ok shown =>
    rw [run_of_result found]
    simp [outcome]
  | error halt =>
    rw [run_of_result found]
    simp [outcome, out_haltOutcome]

theorem out_run_of_error {halt : Halt} (found : Prompt.result site config = .error halt) :
    (run site config).1.out = [] := by
  rw [run_of_result found]
  exact out_haltOutcome config halt

theorem reportable_of_failure? {halt : Halt} {failure : Failure}
    (told : halt.failure? = some failure) : failure.reportable = true := by
  cases halt with
  | interrupted => cases told
  | git error => cases told; rfl
  | overflow source excess => cases told; rfl
  | format source error =>
    cases told
    have positive : 1 ≤ (error.position source).line := Nat.succ_pos _
    have placed : (error.position source).place.line = (error.position source).line := rfl
    refine decide_eq_true ?_
    rw [placed]
    omega

/-- The exit code and the two outputs of a run, for everything that can happen in it. A prompt is
written as a whole or not at all. -/
structure Contract (site : Site) (config : Config) : Prop where
  codes : (run site config).1.exit = 0 ∨ (run site config).1.exit = 1 ∨
    (run site config).1.exit = 130
  whole : (run site config).1.out = [] ∨
    ∃ text, Succeeds site config text ∧ (run site config).1.out = text ++ ['\n']
  printed : ∀ text, (run site config).1.out = text ++ ['\n'] ↔ Succeeds site config text
  success : ∀ text, Succeeds site config text →
    (run site config).1 = ⟨0, text ++ ['\n'], logged site config⟩
  interrupted : (run site config).1.exit = 130 ↔
    ∃ call ∈ (run site config).2, site.behaviour call.command = .interrupted
  misread : ∀ source error, Misread site config source error →
    (run site config).1 =
      if config.silent then ⟨0, [], logged site config⟩
      else ⟨1, [], logged site config ++
        ((Failure.ofFormat source error).report config.colour ++ ['\n'])⟩
  overflow : ∀ source excess, Overflows site config source excess →
    (run site config).1 = ⟨1, [], logged site config ++
      (words "glint: " ++ (Failure.ofOverflow source excess).report config.colour ++ ['\n'])⟩
  git : ∀ error, (Prompt.chosen site config).outcome.1 = .error (.git error) →
    (run site config).1 = ⟨1, [], logged site config ++
      (words "glint: " ++ error.failure.report config.colour ++ ['\n'])⟩
  /-- A report shows a line that its source has. -/
  reportable : ∀ halt failure, Prompt.result site config = .error halt →
    halt.failure? = some failure → failure.reportable = true
  /-- There is no other way to end. -/
  covered : (∃ text, Succeeds site config text) ∨
    (∃ source error, Misread site config source error) ∨
    (∃ source excess, Overflows site config source excess) ∨
    (∃ error, (Prompt.chosen site config).outcome.1 = .error (.git error)) ∨
    (Prompt.chosen site config).outcome.1 = .error .interrupted

theorem contract (site : Site) (config : Config) : Contract site config := by
  constructor
  case codes => exact exit_run site config
  case whole =>
    cases found : Prompt.result site config with
    | ok text => exact .inr ⟨text, result_eq_ok.mp found, out_run.mpr found⟩
    | error halt => exact .inl (out_run_of_error found)
  case printed => exact fun text => out_run.trans result_eq_ok
  case success => exact fun text => run_of_succeeds
  case interrupted => exact exit_eq_130.trans Prompt.result_eq_interrupted
  case misread => exact fun source error => run_of_misread
  case overflow => exact fun source excess found => run_of_result (result_of_overflows found)
  case git => exact fun error stopped => run_of_result (result_of_git stopped)
  case reportable => exact fun halt failure _ told => reportable_of_failure? told
  case covered =>
    cases found : Prompt.result site config with
    | ok text => exact .inl ⟨text, result_eq_ok.mp found⟩
    | error halt =>
      rw [Prompt.result_eq_carried, Prompt.carried_eq_error] at found
      rcases found with stopped | ⟨format, snapshot, error, chosen, rendered, -⟩
      · rcases Prompt.interrupted_or_git_of_chosen stopped with rfl | ⟨error, rfl⟩
        · exact .inr (.inr (.inr (.inr stopped)))
        · exact .inr (.inr (.inr (.inl ⟨error, stopped⟩)))
      · rcases Prompt.render_eq_error.mp rendered with
          ⟨unread, parsed, -⟩ | ⟨tree, excess, parsed, overflowed, -⟩
        · exact .inr (.inl ⟨_, unread, format, snapshot, chosen, rfl, parsed⟩)
        · exact .inr (.inr (.inl
            ⟨_, excess, format, snapshot, tree, chosen, rfl, parsed, overflowed⟩))

theorem run_indifferent (read : ∀ source error, ¬ Misread site config source error)
    (silent : Bool) : run site { config with silent } = run site config := by
  have alike : outcome { config with silent } (Prompt.result site config) =
      outcome config (Prompt.result site config) := by
    cases found : Prompt.result site config with
    | ok text => rfl
    | error halt =>
      cases halt with
      | format source error => exact absurd (result_eq_format.mp found) (read source error)
      | git error | overflow source excess | interrupted => rfl
  have same : Prompt.result site { config with silent } = Prompt.result site config := rfl
  refine Prod.ext ?_ rfl
  rw [run_of_result same, run_of_result rfl, alike]
  rfl

section
variable {limit : Option Nat} {crash : Crash}

theorem runWithin_of_crashes (crashes : Prompt.Crashes limit site config crash) :
    runWithin limit site config = (.error crash, (run site config).2) := by
  rcases Prompt.runWithin_crashes crashes {} with ⟨entries, crashed⟩
  rw [runWithin, Session.outcome, crashed]
  rfl

theorem runWithin_of_clear (clear : ∀ crash, ¬ Prompt.Crashes limit site config crash) :
    runWithin limit site config = (.ok (run site config).1, (run site config).2) := by
  have follows := Prompt.runWithin_follows clear {}
  rw [runWithin, run, Session.outcome, Session.outcome, follows]
  rcases (Prompt.run site config).run.run {} with ⟨halt | text, trace⟩ <;> rfl

theorem runWithin_cases (limit : Option Nat) (site : Site) (config : Config) :
    (∃ crash, Prompt.Crashes limit site config crash ∧
        runWithin limit site config = (.error crash, (run site config).2)) ∨
      (∀ crash, ¬ Prompt.Crashes limit site config crash) ∧
        runWithin limit site config = (.ok (run site config).1, (run site config).2) := by
  by_cases some : ∃ crash, Prompt.Crashes limit site config crash
  · rcases some with ⟨crash, crashes⟩
    exact .inl ⟨crash, crashes, runWithin_of_crashes crashes⟩
  · exact .inr ⟨not_exists.mp some, runWithin_of_clear (not_exists.mp some)⟩

/-- What a limit of digits does to a run. No call of git tells it. -/
structure Limited (limit : Option Nat) (site : Site) (config : Config) : Prop where
  calls : (runWithin limit site config).2 = (run site config).2
  crashes : ∀ crash,
    (runWithin limit site config).1 = .error crash ↔ Prompt.Crashes limit site config crash
  clear : (∀ crash, ¬ Prompt.Crashes limit site config crash) →
    (runWithin limit site config).1 = .ok (run site config).1
  overlong : ∀ crash, Prompt.Crashes limit site config crash →
    ∃ digits, (crash = .status digits ∨ crash = .format (.noNumber digits)) ∧
      Text.Overlong limit digits

theorem limited (limit : Option Nat) (site : Site) (config : Config) :
    Limited limit site config := by
  constructor
  case calls =>
    rcases runWithin_cases limit site config with ⟨crash, -, ran⟩ | ⟨-, ran⟩ <;> rw [ran]
  case crashes =>
    refine fun crash => ⟨fun crashed => ?_, fun crashes => by rw [runWithin_of_crashes crashes]⟩
    rcases runWithin_cases limit site config with ⟨found, crashes, ran⟩ | ⟨-, ran⟩
    · rw [ran] at crashed
      cases crashed
      exact crashes
    · rw [ran] at crashed
      cases crashed
  case clear => exact fun clear => by rw [runWithin_of_clear clear]
  case overlong => exact fun crash crashes => crashes.overlong

theorem runWithin_indifferent (limit : Option Nat)
    (read : ∀ source error, ¬ Misread site config source error) (silent : Bool) :
    runWithin limit site { config with silent } = runWithin limit site config := by
  have alike := run_indifferent read silent
  rcases runWithin_cases limit site config with ⟨crash, crashes, ran⟩ | ⟨clear, ran⟩
  · rw [ran, runWithin_of_crashes (crashes.quieted silent), alike]
  · have quiet : ∀ crash, ¬ Prompt.Crashes limit site { config with silent } crash :=
      fun crash crashes => clear crash (crashes.quieted config.silent)
    rw [ran, runWithin_of_clear quiet, alike]

end

end

/-- The contract of a run for accepted arguments, with what a limit of digits changes, and that of
two runs that differ in `--silent` only. -/
theorem run_contract {edition : Edition} {arguments : List Text} {options : Options}
    (accepted : Options.ofArguments arguments edition = .ok options) (environment : Environment)
    (site : Site) (limit : Option Nat) :
    Contract site (config options environment) ∧
      Limited limit site (config options environment) ∧
      Options.ofArguments ("--silent".toList :: arguments) edition = .ok options.hushed ∧
      ∀ others again, Options.ofArguments others edition = .ok again →
        again.hushed = options.hushed →
        (∀ source error, ¬ Misread site (config options environment) source error) →
          run site (config again environment) = run site (config options environment) ∧
            runWithin limit site (config again environment) =
              runWithin limit site (config options environment) := by
  refine ⟨contract site _, limited limit site _, by rw [ofArguments_silent, accepted]; rfl, ?_⟩
  intro others again read alike clear
  have same : config again environment =
      { config options environment with silent := again.silent } :=
    calc
      config again environment =
          { config again.hushed environment with silent := again.silent } := rfl
      _ = { config options.hushed environment with silent := again.silent } := by rw [alike]
      _ = { config options environment with silent := again.silent } := rfl
  rw [same]
  exact ⟨run_indifferent clear again.silent, runWithin_indifferent limit clear again.silent⟩

def quietSite : Site where
  behaviour
    | .insideWorkTree => .completed "true\n".toList [] 0
    | .status => .completed "# branch.head m\n".toList [] 0
    | .stashList => .completed [] [] 0
  directory := ['/']

theorem run_contract_branch :
    let arguments := ["--no-color".toList, "\\b".toList]
    ∃ options, Options.ofArguments arguments .later = .ok options ∧
      Succeeds quietSite (config options []) ['m'] ∧
      (run quietSite (config options [])).1 = ⟨0, ['m', '\n'], []⟩ ∧
      (runWithin Text.usualLimit quietSite (config options [])).1 = .ok ⟨0, ['m', '\n'], []⟩ ∧
      Options.ofArguments ("--silent".toList :: arguments) .later = .ok options.hushed ∧
      runWithin Text.usualLimit quietSite (config options.hushed []) =
        runWithin Text.usualLimit quietSite (config options []) := by
  intro arguments
  let options : Options := { format := some "\\b".toList, noColour := true }
  have accepted : Options.ofArguments arguments .later = .ok options := rfl
  have chosen : (Prompt.chosen quietSite (config options [])).outcome.1 =
      .ok (.text "\\b".toList, { branch := ['m'] }) := rfl
  have shown : Succeeds quietSite (config options []) ['m'] := ⟨_, _, chosen, rfl⟩
  have read : ∀ source error, ¬ Misread quietSite (config options []) source error := by
    rintro source error ⟨format, snapshot, again, rfl, failed⟩
    cases chosen.symm.trans again
    cases failed
  have quiet : logged quietSite (config options []) = [] := rfl
  obtain ⟨holds, limited, silent, alike⟩ :=
    run_contract accepted [] quietSite Text.usualLimit
  have whole : (run quietSite (config options [])).1 = ⟨0, ['m', '\n'], []⟩ := by
    rw [holds.success _ shown, quiet]
    rfl
  refine ⟨options, accepted, shown, whole, ?_, silent, (alike _ _ silent rfl read).2⟩
  rw [limited.clear ?_, whole]
  intro crash crashes
  cases (limited.crashes crash).mpr crashes

/-- A format of a colour with four thousand three hundred and one digits has neither an exit code
nor outputs. -/
theorem not_runWithin_ok_zeros :
    let zeros := List.replicate 4301 '0'
    let source := '#' :: zeros ++ '(' :: "'x')".toList
    ∃ options, Options.ofArguments ["--no-color".toList, source] .later = .ok options ∧
      (runWithin Text.usualLimit quietSite (config options [])).1 =
        .error (.format (.noNumber zeros)) ∧
      ¬ ∃ outcome, (runWithin Text.usualLimit quietSite (config options [])).1 = .ok outcome := by
  intro zeros source
  let options : Options := { format := some source, noColour := true }
  have accepted : Options.ofArguments ["--no-color".toList, source] .later = .ok options := rfl
  have chosen : (Prompt.chosen quietSite (config options [])).outcome.1 =
      .ok (.text source, { branch := ['m'] }) := rfl
  have short : ∀ status list, quietSite.Tells status list →
      ∀ digits, ¬ Porcelain.StatusTooLong Text.usualLimit status digits := by
    rintro status list ⟨-, ⟨err, ⟨⟩⟩, -⟩ digits tooLong
    have unread : Porcelain.snapshotWithin Text.usualLimit _ 0 = .error digits :=
      Porcelain.snapshotWithin_eq_error.mpr tooLong
    cases unread
  have meets : Format.MeetsNumber Text.usualLimit source zeros :=
    Format.meetsNumber_style (Text.ascii_zeros 4301) (Text.overlong_zeros 4300)
  have crash := runWithin_of_crashes (.format short chosen meets)
  refine ⟨options, accepted, by rw [crash], ?_⟩
  rw [crash]
  rintro ⟨outcome, ⟨⟩⟩

end GitPrompt.CommandLine
