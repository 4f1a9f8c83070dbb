import GitPrompt.Proofs.Format.Descent
import GitPrompt.Proofs.Git.Guard
import GitPrompt.Proofs.Porcelain.Headers
import GitPrompt.Proofs.Prompt

/-!
Runs within a limit of digits. Such a run crashes at a number that is too long, in the status that
git tells or in the format that is rendered, and goes as any run does where there is none.
-/
namespace GitPrompt.Prompt

open Git Guarded

variable {limit : Option Nat} {site : Site} {config : Config} {status list digits : Text}

theorem readStatusWithin_follows
    (clear : ∀ status list, site.Tells status list →
      ∀ digits, ¬ Porcelain.StatusTooLong limit status digits) (path : Option Given) :
    Follows (readStatusWithin limit site path) (readStatus site path) := by
  rcases ask_stops_or_tells site path with ⟨commands, halt, course, asked⟩ | ⟨status, list, tells⟩
  · exact (follows_lift _).stop asked
  · apply (follows_lift _).bind (ask_comes tells path)
    dsimp only
    rw [Porcelain.snapshotWithin_of_clear (clear status list tells)]
    exact follows_lift _

theorem readStatusWithin_crashes (tells : site.Tells status list)
    (long : Porcelain.StatusTooLong limit status digits) (path : Option Given) :
    CrashesAs (readStatusWithin limit site path) (readStatus site path) (.status digits) := by
  apply (follows_lift _).crashes (ask_comes tells path)
  dsimp only
  rw [Porcelain.snapshotWithin_eq_error.mpr long]
  exact crashesAs_throw (noted_comes _) _

theorem chosenWithin_follows
    (clear : ∀ status list, site.Tells status list →
      ∀ digits, ¬ Porcelain.StatusTooLong limit status digits) :
    Follows (chosenWithin limit site config) (chosen site config) :=
  ((readStatusWithin_follows clear config.path).map _).tryCatch (fallback config)

theorem chosenWithin_crashes (tells : site.Tells status list)
    (long : Porcelain.StatusTooLong limit status digits) :
    CrashesAs (chosenWithin limit site config) (chosen site config) (.status digits) := by
  have told := (readStatus_tells tells config.path).map fun snapshot =>
    (Given.text config.format, snapshot)
  refine CrashesAs.tryCatch ?_ told _ (fallback config)
  exact (readStatusWithin_crashes tells long config.path).bind fun snapshot =>
    ⟨_, _, Session.comes_pure (Given.text config.format, snapshot)⟩

theorem renderWithin_follows {format : Given}
    (clear : ∀ digits, ¬ Format.MeetsNumber limit format.contents digits) (scene : Format.Scene) :
    Follows (renderWithin limit scene format) (renderLogged scene format) := by
  have told := Format.Descent.parse_of_clear clear
  unfold renderWithin renderLogged logParsed render
  rw [told]
  cases Format.parse format.contents with
  | error error => exact fun trace => rfl
  | ok tree =>
    apply (follows_lift _).bind (Session.comes_log .debug (by decide) _)
    dsimp only
    cases showTree scene tree with
    | ok text => exact fun trace => rfl
    | error error => exact fun trace => rfl

theorem renderWithin_crashes {format : Given}
    (meets : Format.MeetsNumber limit format.contents digits) (config : Config)
    (snapshot : Snapshot) :
    CrashesAs (renderWithin limit ⟨snapshot, ⟨config.colour, config.bashEscapes⟩⟩ format)
      (renderLogged ⟨snapshot, ⟨config.colour, config.bashEscapes⟩⟩ format)
      (.format (.noNumber digits)) := by
  unfold renderWithin
  rw [Format.Descent.parse_of_meets meets]
  exact crashesAs_throw (renderLogged_comes config format snapshot) _

/-- A number that is too long is met, in the status before the format is even read. -/
inductive Crashes (limit : Option Nat) (site : Site) (config : Config) : Crash → Prop
  | status {status list digits : Text} (tells : site.Tells status list)
      (long : Porcelain.StatusTooLong limit status digits) :
      Crashes limit site config (.status digits)
  | format {format : Given} {snapshot : Snapshot} {digits : Text}
      (clear : ∀ status list, site.Tells status list →
        ∀ digits, ¬ Porcelain.StatusTooLong limit status digits)
      (made : (chosen site config).outcome.1 = .ok (format, snapshot))
      (meets : Format.MeetsNumber limit format.contents digits) :
      Crashes limit site config (.format (.noNumber digits))

theorem Crashes.overlong {crash : Crash} (crashes : Crashes limit site config crash) :
    ∃ digits, (crash = .status digits ∨ crash = .format (.noNumber digits)) ∧
      Text.Overlong limit digits := by
  cases crashes with
  | @status status list digits tells long => exact ⟨digits, .inl rfl, long.overlong⟩
  | @format format snapshot digits clear made meets =>
    exact ⟨digits, .inr rfl, meets.overlong.2.2⟩

theorem Crashes.quieted {crash : Crash} (crashes : Crashes limit site config crash)
    (silent : Bool) : Crashes limit site { config with silent } crash := by
  cases crashes with
  | status tells long => exact .status tells long
  | format clear made meets => exact .format clear made meets

theorem runWithin_crashes {crash : Crash} (crashes : Crashes limit site config crash) :
    CrashesAs (runWithin limit site config) (run site config) crash := by
  cases crashes with
  | status tells long =>
    exact (chosenWithin_crashes tells long).bind fun pair =>
      ⟨_, _, renderLogged_comes config pair.1 pair.2⟩
  | @format format snapshot digits clear made meets =>
    rcases chosen_comes site config with ⟨commands, notes, choice, -, comes⟩
    cases comes.outcome.1.symm.trans made
    exact (chosenWithin_follows clear).crashes comes (renderWithin_crashes meets config snapshot)

theorem runWithin_follows (clear : ∀ crash, ¬ Crashes limit site config crash) :
    Follows (runWithin limit site config) (run site config) := by
  have read : ∀ status list, site.Tells status list →
      ∀ digits, ¬ Porcelain.StatusTooLong limit status digits :=
    fun status list tells digits long => clear _ (.status tells long)
  have first : Follows (chosenWithin limit site config) (chosen site config) :=
    chosenWithin_follows read
  rcases chosen_comes site config with ⟨commands, notes, choice, -, comes⟩
  cases choice with
  | error halt => exact first.stop comes
  | ok pair =>
    apply first.bind comes
    exact renderWithin_follows (fun digits meets => clear _ (.format read comes.outcome.1 meets)) _

end GitPrompt.Prompt
