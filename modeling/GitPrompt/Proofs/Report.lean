import GitPrompt.Proofs.Format.Message
import GitPrompt.Proofs.Position
import GitPrompt.Proofs.Prompt
import GitPrompt.Proofs.Render.Overflow
import GitPrompt.Proofs.Text.Lines

/-!
The report of a format that cannot be shown repeats one line of the format, with a caret below it.
The line is counted by line feeds and taken from the lines at every line boundary, so the report
points at the place of the error where the two ways to count agree.
-/
namespace GitPrompt

open Text (OneLine joined oneLine_words words)

theorem ErrorKind.oneLine_name (kind : ErrorKind) : OneLine (words kind.name) := by
  cases kind <;> exact oneLine_words (by decide)

theorem Field.oneLine_title (field : Field) : OneLine (words field.title) := by
  cases field with
  | branch => exact oneLine_words (by decide)
  | tracking => exact oneLine_words (by decide)
  | count which => cases which <;> exact oneLine_words (by decide)

theorem Format.Overflow.oneLine_message (overflow : Overflow) : OneLine overflow.message := by
  have counted : OneLine (words " count ") := oneLine_words (by decide)
  have outside : OneLine (words " is outside the range 0-") := oneLine_words (by decide)
  have start := overflow.field.oneLine_title.append counted
  exact ((start.append (Text.oneLine_signed overflow.value)).append outside).append
    (Text.oneLine_signed maxCount)

namespace Prompt

namespace PromptError

def offset (source : Text) : PromptError → Int
  | .format error => (error.position source).offset
  | .overflow excess => excess.offset

def message (source : Text) : PromptError → Text
  | .format error => error.message source
  | .overflow excess => excess.message

end PromptError

theorem exists_place {scene : Format.Scene} {source : Text} {error : PromptError}
    (stopped : render scene source = .error error) :
    ∃ place : Nat, error.offset source = place ∧ place ≤ source.length := by
  rcases render_eq_error.mp stopped with ⟨unread, -, rfl⟩ | ⟨tree, excess, parsed, found, rfl⟩
  · refine ⟨_, rfl, ?_⟩
    rw [Format.FormatError.position, Position.offset_ofOffset]
    exact Position.clamp_le source unread.offset
  · have stops := Format.Sequence.stopsAtFirst_of_parse parsed scene .plain
    rw [found] at stops
    have named := (Format.parse_eq_ok_iff.mp parsed).named stops.1
    rcases named with ⟨before, after, rfl, placed⟩
    refine ⟨before.length, by rw [← Nat.zero_add before.length, ← placed]; rfl, ?_⟩
    rw [List.length_append]
    omega

theorem oneLine_message {scene : Format.Scene} {source : Text} {error : PromptError}
    (stopped : render scene source = .error error)
    (other : ∀ place, error ≠ .format ⟨.unrecognizedEscape '\n', place⟩) :
    OneLine (error.message source) := by
  rcases render_eq_error.mp stopped with ⟨unread, failed, rfl⟩ | ⟨tree, excess, -, -, rfl⟩
  · apply Format.oneLine_message_of_parse failed
    intro raw
    apply other unread.offset
    rw [← raw]
  · exact excess.oneLine_message

end Prompt

namespace Report

def margin : Text := " │    ".toList

/-- The third line of a report is the line around a place of the source, and the last line has
its caret under the place. -/
def PointsAt (report source : Text) (place : Nat) : Prop :=
  ∃ before line after, Position.LineAt source place before line after ∧
    (report.splitOn '\n')[2]? = some (margin ++ line) ∧
    ∃ rest, (report.splitOn '\n').getLast? =
      some (margin ++ List.replicate (place - before.length) ' ' ++ '^' :: rest)

def picture (heading line : Text) (column : Nat) (message : Text) : Text :=
  joined ['\n'] [heading, " │".toList, margin ++ line,
    margin ++ List.replicate column ' ' ++ '^' :: ' ' :: message]

theorem paint_colourless (codes : List Style.Code) (text : Text) :
    (Style.Display.mk false false).paint codes text = text := by
  unfold Style.Display.paint
  split
  · rename_i empty
    exact empty.symm
  · exact Style.Display.enclose_colourless false _ _ text

theorem joined_excerpt (heading source message : Text) (place : Place) :
    joined ['\n'] (excerpt { colour := false } heading source place message) =
      picture heading (sourceLine source place.line) (place.column - 1).toNat message := by
  simp [excerpt, picture, margin, paint_colourless, Text.words_eq]

theorem oneLine_sourceLine (source : Text) (number : Nat) :
    OneLine (sourceLine source (number + 1 : Nat)) := by
  have found : sourceLine source (number + 1 : Nat) = ((Text.lines source)[number]?).getD [] := rfl
  rw [found]
  cases shown : (Text.lines source)[number]? with
  | none => exact List.not_mem_nil
  | some line =>
    intro feed
    have whole := Text.lines_free source line (List.mem_of_getElem? shown) '\n' feed
    exact absurd whole (by decide)

theorem splitOn_picture {heading line message : Text} {column : Nat} (titled : OneLine heading)
    (single : OneLine line) (flat : OneLine message) :
    (picture heading line column message).splitOn '\n' =
      [heading, " │".toList, margin ++ line,
        margin ++ List.replicate column ' ' ++ '^' :: ' ' :: message] := by
  have indented : OneLine (margin ++ List.replicate column ' ') :=
    OneLine.append (by decide) fun member => absurd (List.eq_of_mem_replicate member) (by decide)
  apply List.splitOn_intercalate '\n'
  · intro piece member
    simp only [List.mem_cons, List.not_mem_nil, or_false] at member
    rcases member with rfl | rfl | rfl | rfl
    · exact titled
    · decide
    · exact OneLine.append (by decide) single
    · exact indented.append (.cons (by decide) (.cons (by decide) flat))
  · exact List.cons_ne_nil _ _

theorem getLast?_splitOn {last : Text} (single : OneLine last) (start : Text) :
    ((start ++ '\n' :: last).splitOn '\n').getLast? = some last := by
  rw [List.splitOn_append_cons_self, List.splitOn_eq_singleton single, List.getLast?_append]
  rfl

section
variable {source before line after heading shown message : Text} {place : Nat}

theorem pointsAt_picture_iff (around : Position.LineAt source place before line after)
    (titled : OneLine heading) (single : OneLine shown) (flat : OneLine message) :
    PointsAt (picture heading shown (place - before.length) message) source place ↔
      shown = line := by
  unfold PointsAt
  rw [splitOn_picture titled single flat]
  constructor
  · rintro ⟨first, other, last, again, third, -⟩
    rcases around.unique again with ⟨-, rfl⟩
    exact List.append_cancel_left (Option.some.inj third)
  · rintro rfl
    exact ⟨before, shown, after, around, rfl, ' ' :: message, rfl⟩

theorem not_pointsAt_picture {start last : Text} (single : OneLine last)
    (broken : message = start ++ '\n' :: '\'' :: last) (column : Nat) :
    ¬ PointsAt (picture heading shown column message) source place := by
  rintro ⟨before, line, after, -, -, rest, caret⟩
  have split : ∃ start, picture heading shown column message = start ++ '\n' :: '\'' :: last := by
    refine ⟨joined ['\n'] [heading, " │".toList, margin ++ shown,
      margin ++ List.replicate column ' ' ++ ['^', ' ']] ++ start, ?_⟩
    simp [picture, joined, List.intercalate, broken]
  rcases split with ⟨start, split⟩
  rw [split, getLast?_splitOn (.cons (by decide) single)] at caret
  have first : some '\'' = some ' ' := congrArg List.head? (Option.some.inj caret)
  exact absurd first (by decide)

end

theorem oneLine_heading (activity : String) (plain : OneLine (words activity)) (kind : ErrorKind)
    (place : Place) : OneLine (heading { colour := false } activity kind place) := by
  have start : OneLine (label { colour := false } ++ words ": unable to ") := by
    rw [label, paint_colourless]
    exact (oneLine_words (by decide)).append (oneLine_words (by decide))
  have format : OneLine (words " format (") := oneLine_words (by decide)
  have location : OneLine (words " at ") := oneLine_words (by decide)
  have named := ((start.append plain).append format).append kind.oneLine_name
  exact ((named.append location).append place.oneLine_text).append (by decide)

end Report

open Position Report

theorem Prompt.exists_report (source : Text) (error : PromptError) :
    ∃ failure heading, (error.halt source).failure? = some failure ∧ OneLine heading ∧
      failure.report false = joined ['\n']
        (excerpt { colour := false } heading source
          (ofOffset source (error.offset source)).place (error.message source)) := by
  cases error with
  | format error =>
    refine ⟨.ofFormat source error, _, rfl,
      oneLine_heading "parse" (oneLine_words (by decide)) error.kind (error.position source).place,
      ?_⟩
    rw [PromptError.offset, Format.FormatError.position, ofOffset_offset]
    rfl
  | overflow excess =>
    exact ⟨.ofOverflow source excess, _, rfl,
      oneLine_heading "render" (oneLine_words (by decide)) .overflow _, rfl⟩

/-- Up to the end of a line the two ways to count lines agree when only line feeds end lines. -/
theorem Position.LineAt.getD_lines {source before line after : Text} {place : Nat}
    (around : LineAt source place before line after) (feeds : Text.FeedsOnly (before ++ line)) :
    ((Text.lines source)[before.count '\n']?).getD [] = line := by
  rcases Text.exists_lines feeds.of_append.1 around.begins with ⟨earlier, number, split⟩
  have whole := feeds.of_append.2.not_break around.single
  rw [around.whole, List.append_assoc, split, ← number,
    List.getElem?_append_right (Nat.le_refl _), Nat.sub_self]
  rcases around.ends with rfl | follows
  · rw [List.append_nil]
    by_cases empty : line = []
    · rw [empty]
      rfl
    · rw [Text.lines_last whole empty]
      rfl
  · rcases List.head?_eq_some_iff.mp follows with ⟨rest, rfl⟩
    rw [Text.lines_line whole]
    rfl

/-- A report points at the place of its error exactly if the lines at every line boundary have the
line around the place under its number, and the message is not that of a line feed after a
backslash. The first is so when no other boundary than line feeds comes before the end of that
line. -/
theorem Prompt.report_pointsAt_iff {scene : Format.Scene} {source : Text} {error : PromptError}
    (stopped : render scene source = .error error) :
    ∃ failure, (error.halt source).failure? = some failure ∧
      ∃ (place : Nat) (before line after : Text), error.offset source = place ∧
        LineAt source place before line after ∧
        (PointsAt (failure.report false) source place ↔
          ((Text.lines source)[before.count '\n']?).getD [] = line ∧
            ∀ offset, error ≠ .format ⟨.unrecognizedEscape '\n', offset⟩) ∧
        (Text.FeedsOnly (before ++ line) →
          ((Text.lines source)[before.count '\n']?).getD [] = line) := by
  rcases exists_place stopped with ⟨place, placed, inside⟩
  rcases exists_lineAt inside with ⟨before, line, after, around⟩
  rcases exists_report source error with ⟨failure, heading, reported, titled, report⟩
  refine ⟨failure, reported, place, before, line, after, placed, around, ?_, around.getD_lines⟩
  rw [report, placed, around.ofOffset_eq, joined_excerpt]
  have column : ((place - before.length + 1 : Nat) - 1 : Int).toNat = place - before.length := by
    omega
  change PointsAt (picture heading (sourceLine source (before.count '\n' + 1 : Nat))
    ((place - before.length + 1 : Nat) - 1 : Int).toNat (error.message source)) source place ↔ _
  rw [column]
  by_cases raw : ∃ offset, error = .format ⟨.unrecognizedEscape '\n', offset⟩
  · rcases raw with ⟨offset, rfl⟩
    have flat : OneLine (words " is neither a field nor a group") := oneLine_words (by decide)
    have broken : PromptError.message source (.format ⟨.unrecognizedEscape '\n', offset⟩) =
        ['\'', '\\'] ++ '\n' :: '\'' :: words " is neither a field nor a group" := rfl
    exact ⟨fun points => absurd points (not_pointsAt_picture flat broken _),
      fun both => absurd rfl (both.2 offset)⟩
  · have other := fun offset same => raw ⟨offset, same⟩
    have flat := oneLine_message stopped other
    rw [pointsAt_picture_iff around titled (oneLine_sourceLine source _) flat]
    exact ⟨fun same => ⟨same, other⟩, fun both => both.1⟩

theorem Prompt.report_pointsAt_second :
    let source := "'a\nb'\\z".toList
    let error := PromptError.format ⟨.unknownField 'z', 5⟩
    render ⟨{ branch := ['m'] }, {}⟩ source = .error error ∧ error.offset source = 5 ∧
      ∃ failure, (error.halt source).failure? = some failure ∧
        PointsAt (failure.report false) source 5 := by
  intro source error
  have stopped : render ⟨{ branch := ['m'] }, {}⟩ source = .error error := rfl
  rcases report_pointsAt_iff stopped with
    ⟨failure, reported, place, before, line, after, placed, around, pointed, agree⟩
  have second : LineAt source 5 "'a\n".toList "b'\\z".toList [] :=
    ⟨rfl, by decide, .inr rfl, .inl rfl, by decide, by decide⟩
  obtain rfl : place = 5 := Int.ofNat_inj.mp placed.symm
  rcases second.unique around with ⟨rfl, rfl⟩
  have feeds : Text.FeedsOnly ("'a\n".toList ++ "b'\\z".toList) := by decide
  have other : ∀ offset, error ≠ .format ⟨.unrecognizedEscape '\n', offset⟩ := by
    intro offset same
    change PromptError.format _ = PromptError.format _ at same
    cases same
  exact ⟨stopped, rfl, failure, reported, pointed.mpr ⟨agree feeds, other⟩⟩

/-- A line separator in a literal ends the shown line and not the counted one. -/
theorem Prompt.not_report_pointsAt_separator :
    let source := "'a\u2028b'\\z".toList
    let error := PromptError.format ⟨.unknownField 'z', 5⟩
    render ⟨{ branch := ['m'] }, {}⟩ source = .error error ∧ error.offset source = 5 ∧
      ∃ failure, (error.halt source).failure? = some failure ∧
        ¬ PointsAt (failure.report false) source 5 := by
  intro source error
  have only : LineAt source 5 [] source [] :=
    ⟨rfl, by decide, .inl rfl, .inl rfl, by decide, by decide⟩
  refine ⟨rfl, rfl, .ofFormat source ⟨.unknownField 'z', 5⟩, rfl, ?_⟩
  rintro ⟨before, line, after, around, third, -⟩
  rcases only.unique around with ⟨rfl, rfl⟩
  have shown : (((Failure.ofFormat source ⟨.unknownField 'z', 5⟩).report false).splitOn
      '\n')[2]? = some (margin ++ "'a".toList) := by
    decide +kernel
  exact absurd (Option.some.inj (shown.symm.trans third)) (by decide)

end GitPrompt
