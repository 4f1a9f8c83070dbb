import GitPrompt.Format.Scan
import GitPrompt.Proofs.Format.StyleCode

/-!
What one character can do to a scan, one rule for each way of reading it.
-/
namespace GitPrompt.Format

def Mode.start? : Mode → Option Nat
  | .separator start _ => some start
  | .literal start _ => some start
  | .escape start => some start
  | .letterG start => some start
  | .number start _ => some start
  | .colour start _ _ => some start
  | .plain => none
  | .fieldEnd => none
  | .codes => none

def Mode.mayEnd : Mode → Bool
  | .literal _ _ => false
  | .escape _ => false
  | _ => true

namespace Scan

/-- What becomes of a scan with the next character. In the first rules what was being read has
ended before the character; in the others the character goes on with it, ends it, or is wrong. -/
inductive Reads (scan : Scan) (c : Char) : Except FormatError Scan → Prop
  | plain (mode : scan.settle.mode = .plain) : Reads scan c (.ok (scan.settle.readPlain c))
  | uncalled (mode : scan.settle.mode = .fieldEnd) (other : c ≠ '(') :
      Reads scan c (.ok (scan.settle.readPlain c))
  | called (mode : scan.mode = .fieldEnd) :
      Reads scan c (.ok ((scan.emit .parenOpen .plain).enter .arguments))
  | codes (mode : scan.settle.mode = .codes) : Reads scan c (.ok (scan.settle.readCodes c))
  | separator {start : Nat} {text : Text} (mode : scan.mode = .separator start text) :
      Reads scan c (.ok { scan with mode := .separator start (c :: text) })
  | digit {start : Nat} {digits : Text} (mode : scan.mode = .number start digits) :
      Reads scan c (.ok { scan with mode := .number start (c :: digits) })
  | colour {start : Nat} {closer : Char} {text : Text}
      (mode : scan.mode = .colour start closer text) :
      Reads scan c (.ok { scan with mode := .colour start closer (c :: text) })
  | bracket {start : Nat} {closer : Char} {text : Text}
      (mode : scan.mode = .colour start closer text) :
      Reads scan c (.ok (scan.emitAt (.styleCode (c :: text).reverse) start .codes))
  | literal {start : Nat} {text : Text} (mode : scan.mode = .literal start text) :
      Reads scan c (.ok { scan with mode := .literal start (c :: text) })
  | quote {start : Nat} {text : Text} (mode : scan.mode = .literal start text) :
      Reads scan c (.ok (scan.emitAt (.literal text.reverse) start .plain))
  | cut {start : Nat} {text : Text} (mode : scan.mode = .literal start text) :
      Reads scan c (.error ⟨.literalBeforeBackslash, start⟩)
  | group {start : Nat} (kind : GroupKind) (mode : scan.mode = .escape start) :
      Reads scan c (.ok ((scan.emitAt (.groupOpen kind) start .plain).enter (.group kind)))
  | letterG {start : Nat} (mode : scan.mode = .escape start) :
      Reads scan c (.ok { scan with mode := .letterG start })
  | bare {start : Nat} (mode : scan.mode = .letterG start) :
      Reads scan c (.ok ((scan.emitAt (.groupOpen .bare) start .plain).enter (.group .bare)))
  | escaped {start : Nat} (mode : scan.mode = .escape start) :
      Reads scan c (.ok (scan.emitAt (.escaped c) start .plain))
  | field {start : Nat} (mode : scan.mode = .escape start) :
      Reads scan c (.ok (scan.emitAt (.field c) start .fieldEnd))
  | unrecognized {start : Nat} (mode : scan.mode = .escape start) :
      Reads scan c (.error ⟨.unrecognizedEscape c, start⟩)

theorem reads_escape {scan : Scan} {start : Nat} (c : Char) (mode : scan.mode = .escape start) :
    scan.Reads c (scan.readEscape start c) := by
  unfold readEscape
  split
  · exact .group _ mode
  split
  · exact .letterG mode
  split
  · exact .escaped mode
  split
  · exact .field mode
  · exact .unrecognized mode

theorem reads (scan : Scan) (c : Char) : scan.Reads c (scan.read c) := by
  rcases scan with ⟨offset, lexemes, frames, mode⟩
  cases mode with
  | plain => exact .plain rfl
  | codes => exact .codes rfl
  | escape start => exact reads_escape c rfl
  | separator start text =>
    simp only [Scan.read]
    split
    · exact .separator rfl
    · exact .plain rfl
  | literal start text =>
    simp only [Scan.read]
    split
    · exact .quote rfl
    split
    · exact .cut rfl
    · exact .literal rfl
  | letterG start =>
    simp only [Scan.read]
    split
    · exact .bare rfl
    · rename_i other
      exact .uncalled rfl other
  | fieldEnd =>
    simp only [Scan.read]
    split
    · exact .called rfl
    · rename_i other
      exact .uncalled rfl other
  | number start digits =>
    simp only [Scan.read]
    split
    · exact .digit rfl
    · exact .codes rfl
  | colour start closer text =>
    simp only [Scan.read]
    split
    · exact .bracket rfl
    split
    · exact .codes rfl
    · exact .colour rfl

theorem exists_reads_of_step {scan next : Scan} {c : Char} (stepped : scan.step c = .ok next) :
    ∃ after, scan.Reads c (.ok after) ∧ next = { after with offset := scan.offset + 1 } := by
  have reads := scan.reads c
  unfold step at stepped
  cases outcome : scan.read c with
  | error error =>
    rw [outcome] at stepped
    cases stepped
  | ok after =>
    rw [outcome] at stepped reads
    exact ⟨after, reads, (Except.ok.inj stepped).symm⟩

theorem reads_of_step_error {scan : Scan} {c : Char} {error : FormatError}
    (failed : scan.step c = .error error) : scan.Reads c (.error error) := by
  have reads := scan.reads c
  unfold step at failed
  cases outcome : scan.read c with
  | error found =>
    rw [outcome] at failed reads
    cases failed
    exact reads
  | ok after =>
    rw [outcome] at failed
    cases failed

theorem start_of_step_error {scan : Scan} {c : Char} {error : FormatError}
    (failed : scan.step c = .error error) :
    scan.mode.start? = some error.offset ∧ scan.mode.mayEnd = false := by
  cases reads_of_step_error failed with
  | cut mode =>
    rw [mode]
    exact ⟨rfl, rfl⟩
  | unrecognized mode =>
    rw [mode]
    exact ⟨rfl, rfl⟩

theorem settle_offset (scan : Scan) : scan.settle.offset = scan.offset := by
  rcases scan with ⟨offset, lexemes, frames, mode⟩
  cases mode <;> rfl

theorem settle_frames (scan : Scan) : scan.settle.frames = scan.frames := by
  rcases scan with ⟨offset, lexemes, frames, mode⟩
  cases mode <;> rfl

theorem mayEnd_settle (scan : Scan) : scan.settle.mode.mayEnd = scan.mode.mayEnd := by
  rcases scan with ⟨offset, lexemes, frames, mode⟩
  cases mode <;> rfl

theorem finish_eq_ok {scan : Scan} (ends : scan.mode.mayEnd = true) :
    scan.finish = .ok (⟨.endOfInput, scan.offset⟩ :: scan.settle.lexemes).reverse := by
  rcases scan with ⟨offset, lexemes, frames, mode⟩
  cases mode with
  | literal start text => cases ends
  | escape start => cases ends
  | _ => rfl

theorem finish_eq_error {scan : Scan} (unended : scan.mode.mayEnd = false) :
    ∃ error, scan.finish = .error error ∧ scan.mode.start? = some error.offset ∧
      (error.fault = .literalOpen ∨ error.fault = .loneBackslash) := by
  rcases scan with ⟨offset, lexemes, frames, mode⟩
  cases mode with
  | literal start text => exact ⟨⟨.literalOpen, start⟩, rfl, rfl, .inl rfl⟩
  | escape start => exact ⟨⟨.loneBackslash, start⟩, rfl, rfl, .inr rfl⟩
  | _ => cases unended

theorem start_of_finish_error {scan : Scan} {error : FormatError}
    (failed : scan.finish = .error error) :
    scan.mode.start? = some error.offset ∧ scan.mode.mayEnd = false ∧
      (error.fault = .literalOpen ∨ error.fault = .loneBackslash) := by
  cases ends : scan.mode.mayEnd with
  | true =>
    rw [finish_eq_ok ends] at failed
    cases failed
  | false =>
    rcases finish_eq_error ends with ⟨found, stopped, start, runs⟩
    rw [failed] at stopped
    cases stopped
    exact ⟨start, rfl, runs⟩

theorem exists_run_of_tokenize {source : Text} {lexemes : List Lexeme}
    (tokenized : tokenize source = .ok lexemes) :
    ∃ scan, initial.run source = .ok scan ∧ scan.mode.mayEnd = true ∧
      ⟨.endOfInput, scan.offset⟩ :: scan.settle.lexemes = lexemes.reverse := by
  rcases bind_eq_ok.mp tokenized with ⟨scan, run, finished⟩
  cases ends : scan.mode.mayEnd with
  | false =>
    rcases finish_eq_error ends with ⟨error, failed, -⟩
    rw [failed] at finished
    cases finished
  | true =>
    rw [finish_eq_ok ends] at finished
    refine ⟨scan, run, ends, ?_⟩
    rw [← Except.ok.inj finished, List.reverse_reverse]

end Scan
end GitPrompt.Format
