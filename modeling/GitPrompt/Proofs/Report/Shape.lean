import GitPrompt.Proofs.Report

/-!
The shape of the report of a format that cannot be read: a heading, a bar, a line of the format, and
a caret with the message. Only a line feed that is shown as it is breaks it, after a backslash.
-/
namespace GitPrompt

open Text (OneLine joined oneLine_words words)

namespace Format

variable {source : Text} {error : FormatError}

/-- A backslash before a line feed is what cannot be read. -/
def FormatError.EscapesFeed (source : Text) (error : FormatError) : Prop :=
  error.kind = .unrecognizedEscape ∧ source[error.offset + 1]? = some '\n'

theorem Misread.fault_iff {text : Text} {fault : Fault} (misread : Misread text fault)
    (escape : fault.kind = .unrecognizedEscape) (c : Char) :
    fault = .unrecognizedEscape c ↔ text[1]? = some c := by
  cases misread with
  | literalOpen plain => cases escape
  | literalCut plain rest => cases escape
  | loneBackslash => simp
  | escape opens ordinary letter rest => simp

theorem fault_iff_escapesFeed (failed : parse source = .error error) :
    error.fault = .unrecognizedEscape '\n' ↔ error.EscapesFeed source := by
  have told (escape : error.kind = .unrecognizedEscape) :
      error.fault = .unrecognizedEscape '\n' ↔ source[error.offset + 1]? = some '\n' := by
    rw [(misread_of_parse failed escape).fault_iff escape, List.getElem?_drop]
  constructor
  · intro feed
    have escape : error.kind = .unrecognizedEscape := by rw [FormatError.kind, feed]; rfl
    exact ⟨escape, (told escape).mp feed⟩
  · intro escaped
    exact (told escaped.1).mpr escaped.2

theorem message_of_feed (source : Text) (feed : error.fault = .unrecognizedEscape '\n') :
    error.message source = ['\'', '\\'] ++ '\n' :: "' is neither a field nor a group".toList := by
  rw [FormatError.message, feed, Fault.message, Text.words_eq]
  rfl

theorem oneLine_message_iff (failed : parse source = .error error) :
    OneLine (error.message source) ↔ ¬ error.EscapesFeed source := by
  rw [← fault_iff_escapesFeed failed]
  constructor
  · intro single feed
    rw [message_of_feed source feed] at single
    exact absurd single (by decide)
  · intro other
    exact oneLine_message_of_parse failed other

end Format

namespace Report

def title (source : Text) (error : Format.FormatError) : Text :=
  words "error: unable to parse format (" ++ words error.kind.name ++ words " at " ++
    (error.position source).text ++ [')']

def above (source : Text) (error : Format.FormatError) : List Text :=
  [title source error, " │".toList, margin ++ sourceLine source (error.position source).line]

def caretLine (source : Text) (error : Format.FormatError) (text : Text) : Text :=
  margin ++ List.replicate ((error.position source).place.column - 1).toNat ' ' ++
    '^' :: ' ' :: text

/-- The lines of a report as it should be. The last one holds the caret and the whole message. -/
def FourLines (report source : Text) (error : Format.FormatError) : Prop :=
  report.splitOn '\n' = above source error ++ [caretLine source error (error.message source)]

def FiveLines (report source : Text) (error : Format.FormatError) : Prop :=
  report.splitOn '\n' = above source error ++
    [caretLine source error "'\\".toList, "' is neither a field nor a group".toList]

theorem oneLine_title (source : Text) (error : Format.FormatError) :
    OneLine (title source error) := by
  have start : OneLine (words "error: unable to parse format (") := oneLine_words (by decide)
  have location : OneLine (words " at ") := oneLine_words (by decide)
  have named := (start.append error.kind.oneLine_name).append location
  exact (named.append (error.position source).place.oneLine_text).append (by decide)

theorem report_ofFormat (source : Text) (error : Format.FormatError) :
    (Failure.ofFormat source error).report false =
      picture (title source error) (sourceLine source (error.position source).line)
        ((error.position source).place.column - 1).toNat (error.message source) := by
  have start : words "error" ++ words ": unable to " ++ words "parse" ++ words " format (" =
      words "error: unable to parse format (" := by
    simp only [Text.words_eq]
    decide
  have headed : heading { colour := false } "parse" error.kind (error.position source).place =
      title source error := by
    rw [Report.heading, label, paint_colourless, start]
    rfl
  calc
    (Failure.ofFormat source error).report false = joined ['\n'] (excerpt { colour := false }
        (Report.heading { colour := false } "parse" error.kind (error.position source).place)
        source (error.position source).place (error.message source)) := rfl
    _ = _ := by
      rw [headed, joined_excerpt]
      rfl

section
variable {heading line start last : Text}

theorem splitOn_picture_feed (titled : OneLine heading) (single : OneLine line)
    (first : OneLine start) (later : OneLine last) (column : Nat) :
    (picture heading line column (start ++ '\n' :: last)).splitOn '\n' =
      [heading, " │".toList, margin ++ line,
        margin ++ List.replicate column ' ' ++ '^' :: ' ' :: start, last] := by
  have split : picture heading line column (start ++ '\n' :: last) =
      picture heading line column start ++ '\n' :: last := by
    simp [picture, joined, List.intercalate]
  rw [split, List.splitOn_append_cons_self, splitOn_picture titled single first,
    List.splitOn_eq_singleton later]
  rfl

end

theorem fourLines_of_oneLine {source : Text} {error : Format.FormatError}
    (flat : OneLine (error.message source)) :
    FourLines ((Failure.ofFormat source error).report false) source error := by
  have single : OneLine (sourceLine source (error.position source).line) :=
    oneLine_sourceLine source _
  rw [FourLines, report_ofFormat]
  exact splitOn_picture (oneLine_title source error) single flat

theorem fiveLines_of_feed (source : Text) {error : Format.FormatError}
    (feed : error.fault = .unrecognizedEscape '\n') :
    FiveLines ((Failure.ofFormat source error).report false) source error := by
  have single : OneLine (sourceLine source (error.position source).line) :=
    oneLine_sourceLine source _
  have begun : OneLine ['\'', '\\'] := by decide
  have rest : OneLine "' is neither a field nor a group".toList := by decide
  rw [FiveLines, report_ofFormat, Format.message_of_feed source feed]
  exact splitOn_picture_feed (oneLine_title source error) single begun rest _

theorem FiveLines.not_fourLines {report source : Text} {error : Format.FormatError}
    (five : FiveLines report source error) : ¬ FourLines report source error := by
  intro four
  have lengths := congrArg List.length (five.symm.trans four)
  simp at lengths

end Report

open Format Report

/-- A report has its four lines exactly if its message has no line feed, which is so unless what
cannot be read is a backslash before a line feed. Then a fifth line holds what follows the feed. -/
theorem Prompt.report_fourLines_iff {scene : Scene} {source : Text} {error : FormatError}
    (stopped : render scene source = .error (.format error)) :
    ∃ failure, ((PromptError.format error).halt source).failure? = some failure ∧
      (OneLine (error.message source) ↔ ¬ error.EscapesFeed source) ∧
      (FourLines (failure.report false) source error ↔ ¬ error.EscapesFeed source) ∧
      (error.EscapesFeed source → FiveLines (failure.report false) source error) := by
  have failed : parse source = .error error := by
    rcases render_eq_error.mp stopped with ⟨unread, failed, same⟩ | ⟨tree, excess, -, -, same⟩
    · cases same
      exact failed
    · cases same
  have flat := oneLine_message_iff failed
  have five (escaped : error.EscapesFeed source) :
      FiveLines ((Failure.ofFormat source error).report false) source error :=
    fiveLines_of_feed source ((fault_iff_escapesFeed failed).mpr escaped)
  refine ⟨.ofFormat source error, rfl, flat, ?_, five⟩
  constructor
  · intro four escaped
    exact (five escaped).not_fourLines four
  · intro other
    exact fourLines_of_oneLine (flat.mpr other)

theorem Prompt.report_fourLines_iff_return :
    let source := "'a\n'\\\r".toList
    let error : FormatError := ⟨.unrecognizedEscape '\r', 4⟩
    render ⟨{ branch := ['m'] }, {}⟩ source = .error (.format error) ∧
      OneLine (error.message source) ∧
      ∃ failure, ((PromptError.format error).halt source).failure? = some failure ∧
        FourLines (failure.report false) source error := by
  intro source error
  have stopped : render ⟨{ branch := ['m'] }, {}⟩ source = .error (.format error) := rfl
  have other : ¬ error.EscapesFeed source := fun escaped => absurd escaped.2 (by decide)
  rcases report_fourLines_iff stopped with ⟨failure, reported, flat, four, -⟩
  exact ⟨stopped, flat.mpr other, failure, reported, four.mpr other⟩

/-- A backslash before a line feed makes five lines of the report. -/
theorem Prompt.not_report_fourLines_feed :
    let source := "\\\n".toList
    let error : FormatError := ⟨.unrecognizedEscape '\n', 0⟩
    render ⟨{ branch := ['m'] }, {}⟩ source = .error (.format error) ∧
      ¬ OneLine (error.message source) ∧
      ∃ failure, ((PromptError.format error).halt source).failure? = some failure ∧
        ((failure.report false).splitOn '\n').length = 5 := by
  intro source error
  have broken : error.message source = "'\\\n' is neither a field nor a group".toList :=
    message_of_feed source rfl
  have five : FiveLines ((Failure.ofFormat source error).report false) source error :=
    fiveLines_of_feed source rfl
  refine ⟨rfl, ?_, .ofFormat source error, rfl, congrArg List.length five⟩
  rw [broken]
  decide

end GitPrompt
