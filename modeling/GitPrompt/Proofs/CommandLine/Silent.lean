import GitPrompt.CommandLine.Options

/-!
The option to be silent, given before any other arguments. These are then read as they are without
it.
-/
namespace GitPrompt.CommandLine

def Options.hushed (options : Options) : Options := { options with silent := true }

namespace Progress

def hushed (progress : Progress) : Progress :=
  { progress with options := progress.options.hushed }

theorem set_hushed (progress : Progress) (switch : Switch) (value : Given) :
    progress.hushed.set switch value = (progress.set switch value).map hushed := by
  cases switch <;> rfl

theorem setAll_hushed (progress : Progress) (settings : List (Switch × Given)) :
    progress.hushed.setAll settings = (progress.setAll settings).map hushed := by
  induction settings generalizing progress with
  | nil => rfl
  | cons setting rest ih =>
    simp only [setAll, List.foldlM_cons] at ih ⊢
    rw [set_hushed]
    cases progress.set setting.1 setting.2 with
    | error refusal => rfl
    | ok next => exact ih next

theorem map_expect_hushed (read : Except Refusal Progress) (leftOver : List Text)
    (expectation : Expectation) :
    (read.map hushed).map (fun progress => (progress.leave leftOver).expect expectation) =
      (read.map fun progress => (progress.leave leftOver).expect expectation).map hushed := by
  cases read <;> rfl

theorem readOperand_hushed (progress : Progress) (operand : Text) :
    progress.hushed.readOperand operand = (progress.readOperand operand).hushed := by
  unfold readOperand hushed
  split <;> rfl

theorem readTerminator_hushed (progress : Progress) :
    progress.hushed.readTerminator = progress.readTerminator.hushed := by
  unfold readTerminator hushed
  split <;> rfl

theorem readCluster_hushed (progress : Progress) (cluster : Cluster) :
    progress.hushed.readCluster cluster = (progress.readCluster cluster).map hushed := by
  unfold readCluster
  cases cluster.awaiting with
  | some switch => rfl
  | none =>
    dsimp only
    rw [setAll_hushed, map_expect_hushed]

variable (edition : Edition)

theorem readArgument_hushed (progress : Progress) (argument : Text) :
    progress.hushed.readArgument edition argument =
      (progress.readArgument edition argument).map hushed := by
  unfold readArgument
  cases Argument.ofText argument with
  | ambiguous candidates => rfl
  | unknown => rfl
  | operand =>
    dsimp only
    rw [readOperand_hushed]
    rfl
  | option switch isLong attached =>
    dsimp only
    cases Cluster.ofSwitch edition switch isLong attached with
    | error refusal => rfl
    | ok cluster => exact readCluster_hushed progress cluster

theorem step_hushed (progress : Progress) (argument : Text) :
    progress.hushed.step edition argument = (progress.step edition argument).map hushed := by
  have plain : (if argument = terminator then .ok progress.hushed.readTerminator
        else progress.hushed.readArgument edition argument) =
      (if argument = terminator then .ok progress.readTerminator
        else progress.readArgument edition argument : Except Refusal Progress).map hushed := by
    rw [readTerminator_hushed, readArgument_hushed]
    split <;> rfl
  have same : progress.hushed.expectation = progress.expectation := rfl
  unfold step
  rw [same]
  cases progress.expectation with
  | anything => exact plain
  | afterFormat => exact plain
  | operands =>
    dsimp only
    rw [readOperand_hushed]
    rfl
  | value switch settings =>
    dsimp only
    rw [setAll_hushed]
    split
    · rfl
    · cases progress.setAll (settings ++ [(switch, .text argument)]) <;> rfl

theorem run_hushed (progress : Progress) (arguments : List Text) :
    progress.hushed.run edition arguments = (progress.run edition arguments).map hushed := by
  induction arguments generalizing progress with
  | nil => rfl
  | cons argument rest ih =>
    simp only [run, List.foldlM_cons] at ih ⊢
    rw [step_hushed]
    cases progress.step edition argument with
    | error refusal => rfl
    | ok next => exact ih next

theorem finish_hushed (progress : Progress) :
    progress.hushed.finish = progress.finish.map Options.hushed := by
  have same : progress.hushed.expectation = progress.expectation := rfl
  have left : progress.hushed.leftOver = progress.leftOver := rfl
  unfold finish
  rw [same, left]
  cases progress.expectation with
  | value switch settings => rfl
  | _ =>
    dsimp only
    split <;> rfl

end Progress

theorem ofArguments_silent (arguments : List Text) (edition : Edition) :
    Options.ofArguments ("--silent".toList :: arguments) edition =
      (Options.ofArguments arguments edition).map Options.hushed := by
  have first : Progress.step edition {} "--silent".toList = .ok (Progress.hushed {}) := rfl
  have clear : ambiguity? ("--silent".toList :: arguments) = ambiguity? arguments := rfl
  unfold Options.ofArguments
  rw [clear]
  cases ambiguity? arguments with
  | some refusal => rfl
  | none =>
    have read : Progress.run edition {} ("--silent".toList :: arguments) =
        (Progress.run edition {} arguments).map Progress.hushed := by
      rw [← Progress.run_hushed]
      simp only [Progress.run, List.foldlM_cons]
      rw [first]
      rfl
    dsimp only
    rw [read]
    cases Progress.run edition {} arguments with
    | error refusal => rfl
    | ok progress => exact progress.finish_hushed

end GitPrompt.CommandLine
