import GitPrompt.Proofs.Folding
import GitPrompt.Proofs.Format.Misreading
import GitPrompt.Proofs.Format.Moves
import GitPrompt.Proofs.Format.Tokens
import GitPrompt.Proofs.Text.OneLine

/-!
What is said about a format that cannot be read stays on one line. Only an escaped line feed is
shown as it is, and makes two lines of its message.
-/
namespace GitPrompt.Format

open Text (OneLine oneLine_words oneLine_quoted)

theorem Token.oneLine_described (token : Token) : OneLine token.described := by
  unfold described
  split
  · exact oneLine_words (by decide)
  · exact oneLine_quoted _

theorem Frame.oneLine_title (frame : Frame) : OneLine frame.title := by
  cases frame with
  | group kind =>
    have name : OneLine (Text.words kind.name) := by
      cases kind <;> exact oneLine_words (by decide)
    exact name.append (oneLine_words (by decide))
  | arguments => exact oneLine_words (by decide)
  | style => exact oneLine_words (by decide)

namespace Fault

theorem oneLine_escapeNamed {c : Char} (other : c ≠ '\n') : OneLine (escapeNamed c) :=
  .cons (by decide) (.cons (by decide) (.cons other (by decide)))

theorem oneLine_closerNamed {c : Char} (other : c ≠ '\n') : OneLine (closerNamed c) :=
  .cons (by decide) (.cons other (by decide))

theorem oneLine_openedAt (source : Text) (frame : Frame) (opened : Nat) :
    OneLine (openedAt source frame opened) := by
  have closing : OneLine (Text.words " to close ") := oneLine_words (by decide)
  have opening : OneLine (Text.words " opened at ") := oneLine_words (by decide)
  exact ((closing.append frame.oneLine_title).append opening).append (Place.oneLine_text _)

theorem oneLine_unclosedMessage (source : Text) (frame : Frame) (opened : Nat) (found : Token) :
    OneLine (unclosedMessage source frame opened found) := by
  have closer : OneLine (closerNamed frame.closer.char) := by
    apply oneLine_closerNamed
    cases frame.closer <;> decide
  have place := oneLine_openedAt source frame opened
  unfold unclosedMessage
  split
  · exact ((oneLine_words (by decide)).append closer).append place
  · have found := found.oneLine_described
    have instead : OneLine (Text.words ", found ") := oneLine_words (by decide)
    exact ((((oneLine_words (by decide)).append closer).append place).append instead).append found

def shown? : Fault → Option Char
  | .unrecognizedEscape char => some char
  | .unknownField letter => some letter
  | .colourOpen closer => some closer
  | _ => none

theorem oneLine_message {fault : Fault} (source : Text) (other : fault.shown? ≠ some '\n') :
    OneLine (fault.message source) := by
  have raw {c : Char} (shown : fault.shown? = some c) : c ≠ '\n' := by
    rintro rfl
    exact other shown
  cases fault with
  | literalBeforeBackslash => exact oneLine_words (by decide)
  | literalOpen => exact oneLine_words (by decide)
  | loneBackslash => exact oneLine_words (by decide)
  | unrecognizedEscape char =>
    exact (oneLine_escapeNamed (raw rfl)).append (oneLine_words (by decide))
  | unquoted char => exact (oneLine_quoted _).append (oneLine_words (by decide))
  | strayParen => exact oneLine_words (by decide)
  | unclosed frame opened found => exact oneLine_unclosedMessage source frame opened found
  | unknownField letter =>
    exact (oneLine_escapeNamed (raw rfl)).append (oneLine_words (by decide))
  | straySemicolon => exact oneLine_words (by decide)
  | noCodes found => exact (oneLine_words (by decide)).append found.oneLine_described
  | noBody found => exact (oneLine_words (by decide)).append found.oneLine_described
  | unknownCode text => exact (oneLine_quoted text).append (oneLine_words (by decide))
  | colourOpen closer => exact (oneLine_words (by decide)).append (oneLine_closerNamed (raw rfl))
  | colourShape => exact oneLine_words (by decide)
  | colourText text => exact (oneLine_quoted text).append (oneLine_words (by decide))
  | colourRange value =>
    exact ((oneLine_words (by decide)).append (Text.oneLine_decimal value)).append
      (oneLine_words (by decide))
  | closesNothing found => exact found.oneLine_described.append (oneLine_words (by decide))
  | leftOver found =>
    exact ((oneLine_words (by decide)).append found.oneLine_described).append
      (oneLine_words (by decide))

end Fault

/-- A fault found in the tokens of a format, by the characters that it shows as they are. -/
def Fault.Shows (fault : Fault) (allowed : Char → Prop) : Prop :=
  fault.kind.wider? = some .grammatical ∧ ∀ c ∈ fault.shown?, allowed c

theorem Fault.Shows.mono {fault : Fault} {allowed more : Char → Prop} (shows : fault.Shows allowed)
    (wider : ∀ c, allowed c → more c) : fault.Shows more :=
  ⟨shows.1, fun c shown => wider c (shows.2 c shown)⟩

def showsCloser (c : Char) : Prop := c = ']' ∨ c = '\x7d'

inductive Fault.OfCode : Fault → Prop
  | unknown (text : Text) : OfCode (.unknownCode text)
  | unclosed {closer : Char} (bracket : showsCloser closer) : OfCode (.colourOpen closer)
  | shape : OfCode .colourShape
  | component (text : Text) : OfCode (.colourText text)
  | range (value : Nat) : OfCode (.colourRange value)

theorem Fault.OfCode.shows {fault : Fault} (ofCode : fault.OfCode) : fault.Shows showsCloser := by
  cases ofCode with
  | unclosed bracket =>
    refine ⟨rfl, ?_⟩
    rintro c ⟨⟩
    exact bracket
  | _ => exact ⟨rfl, nofun⟩

section
variable {text : Text} {fault : Fault}

theorem colourComponent_fault (failed : colourComponent text = .error fault) : fault.OfCode := by
  unfold colourComponent at failed
  split at failed
  · cases failed
    exact .component text
  · dsimp only at failed
    split at failed
    · cases failed
      exact .range _
    · cases failed

theorem rgbCode_fault {ground : Style.Ground} (failed : rgbCode ground text = .error fault) :
    fault.OfCode := by
  unfold rgbCode at failed
  split at failed
  · rcases bind_eq_error.mp failed with first | ⟨red, -, failed⟩
    · exact colourComponent_fault first
    rcases bind_eq_error.mp failed with second | ⟨green, -, failed⟩
    · exact colourComponent_fault second
    rcases bind_eq_error.mp failed with third | ⟨blue, -, failed⟩
    · exact colourComponent_fault third
    · cases failed
  · cases failed
    exact .shape

theorem numberCode_fault (failed : styleCode.numberCode text = .error fault) : fault.OfCode := by
  unfold styleCode.numberCode at failed
  split at failed
  · cases outcome : colourComponent text with
    | error found =>
      rw [outcome] at failed
      cases failed
      exact colourComponent_fault outcome
    | ok value =>
      rw [outcome] at failed
      cases failed
  · cases failed
    exact .unknown text

theorem bracketCode_fault {ground : Style.Ground} {closer : Char} (bracket : showsCloser closer)
    (failed : bracketCode ground closer text = .error fault) : fault.OfCode := by
  unfold bracketCode at failed
  split at failed
  · exact rgbCode_fault failed
  · cases failed
    exact .unclosed bracket

theorem styleCode_fault (failed : styleCode text = .error fault) : fault.OfCode := by
  unfold styleCode at failed
  split at failed
  · exact bracketCode_fault (.inl rfl) failed
  · exact bracketCode_fault (.inr rfl) failed
  · split at failed
    · split at failed
      · cases failed
      · exact numberCode_fault failed
    · exact numberCode_fault failed

end

theorem Reading.Stops.shows {reading : Reading} {lexeme : Lexeme} {error : FormatError}
    (stops : Stops reading lexeme error) :
    error.fault.Shows fun c => showsCloser c ∨ lexeme.token = .field c := by
  induction stops with
  | bare other stops ih => exact ih
  | badCode place refused => exact (styleCode_fault refused).shows.mono fun c => .inl
  | unknownField place unknown =>
    refine ⟨rfl, ?_⟩
    rintro c ⟨⟩
    exact .inr rfl
  | _ => exact ⟨rfl, nofun⟩

theorem Misread.shown {text : Text} {fault : Fault} (misread : Misread text fault) :
    ∀ c ∈ fault.shown?, fault = .unrecognizedEscape c := by
  cases misread with
  | escape opens ordinary letter rest =>
    rintro c ⟨⟩
    rfl
  | _ => exact nofun

theorem run_of_parseLexemes {lexemes : List Lexeme} {error : FormatError}
    (failed : parseLexemes lexemes = .error error) :
    Reading.initial.run lexemes = .error error := by
  cases outcome : Reading.initial.run lexemes with
  | error found =>
    rw [parseLexemes, outcome] at failed
    cases failed
    rfl
  | ok reading =>
    rw [parseLexemes, outcome] at failed
    cases failed

theorem parseLexemes_shows {lexemes : List Lexeme} {error : FormatError}
    (failed : parseLexemes lexemes = .error error) :
    error.fault.Shows fun c => showsCloser c ∨ ∃ lexeme ∈ lexemes, lexeme.token = .field c := by
  rcases exists_of_foldlM_error (run_of_parseLexemes failed) with
    ⟨before, lexeme, after, reading, split, -, stopped⟩
  have member : lexeme ∈ lexemes := by
    rw [split]
    exact List.mem_append_right before List.mem_cons_self
  exact (Reading.stops_of_step stopped).shows.mono fun c =>
    .imp_right fun field => ⟨lexeme, member, field⟩

theorem oneLine_message_of_parse {source : Text} {error : FormatError}
    (failed : parse source = .error error) (other : error.fault ≠ .unrecognizedEscape '\n') :
    OneLine (error.message source) := by
  apply Fault.oneLine_message
  intro shown
  rcases bind_eq_error.mp failed with unsplit | ⟨lexemes, split, unread⟩
  · exact other ((misread_of_tokenize unsplit).shown '\n' shown)
  · rcases (parseLexemes_shows unread).2 '\n' shown with closer | ⟨lexeme, member, field⟩
    · rcases closer with square | curly
      · exact absurd square (by decide)
      · exact absurd curly (by decide)
    · have more : lexeme.token ≠ .endOfInput := by
        rw [field]
        exact nofun
      have letter := (tokenize_eq_ok_iff.mp split).sound_of_mem member more
      rw [field] at letter
      have named : isFieldLetter '\n' = true := letter
      exact absurd named (by decide)

theorem misread_of_parse {source : Text} {error : FormatError}
    (failed : parse source = .error error) (escape : error.kind = .unrecognizedEscape) :
    Misread (source.drop error.offset) error.fault := by
  rcases bind_eq_error.mp failed with unsplit | ⟨lexemes, -, unread⟩
  · exact misread_of_tokenize unsplit
  · have grammatical := (parseLexemes_shows unread).1
    change error.kind.wider? = some .grammatical at grammatical
    rw [escape] at grammatical
    cases grammatical

end GitPrompt.Format
