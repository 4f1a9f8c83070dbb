import GitPrompt.Proofs.Format.Lexing
import GitPrompt.Proofs.Text.Decimal

/-!
The scan of a format, which takes one character at a time, finds the tokens that the rules of
lexing give, and stops at what is no token.
-/
namespace GitPrompt.Format

namespace Scan

/-- The tokens of a format of which `text` is still to be scanned. -/
def complete (scan : Scan) (text : Text) : Except FormatError (List Lexeme) :=
  scan.run text >>= finish

theorem complete_nil (scan : Scan) : scan.complete [] = scan.finish := rfl

theorem complete_cons {scan next : Scan} {c : Char} (read : scan.read c = .ok next)
    (rest : Text) :
    scan.complete (c :: rest) = complete { next with offset := scan.offset + 1 } rest := by
  unfold complete
  rw [run_cons, step, read]
  rfl

theorem complete_error {scan : Scan} {c : Char} {error : FormatError}
    (read : scan.read c = .error error) (rest : Text) :
    scan.complete (c :: rest) = .error error := by
  unfold complete
  rw [run_cons, step, read]
  rfl

variable {offset : Nat} {lexemes : List Lexeme} {frames : List Frame}

theorem complete_collected (mode : Text → Mode) {text : Text}
    (collects : ∀ c ∈ text, ∀ (place : Nat) (read : Text),
      Scan.read ⟨place, lexemes, frames, mode read⟩ c =
        .ok ⟨place, lexemes, frames, mode (c :: read)⟩) (read rest : Text) :
    complete ⟨offset, lexemes, frames, mode read⟩ (text ++ rest) =
      complete ⟨offset + text.length, lexemes, frames, mode (text.reverse ++ read)⟩ rest := by
  induction text generalizing offset read with
  | nil => rfl
  | cons c text ih =>
    have step := collects c List.mem_cons_self offset read
    have others : ∀ d ∈ text, ∀ (place : Nat) (read : Text),
        Scan.read ⟨place, lexemes, frames, mode read⟩ d =
          .ok ⟨place, lexemes, frames, mode (d :: read)⟩ :=
      fun d member => collects d (List.mem_cons_of_mem c member)
    rw [List.cons_append, complete_cons step, ih others]
    simp [Nat.add_assoc, Nat.add_comm 1]

theorem complete_quoted {start : Nat} {text : Text} (plain : ∀ c ∈ text, c ≠ '\'' ∧ c ≠ '\\')
    (read rest : Text) :
    complete ⟨offset, lexemes, frames, .literal start read⟩ (text ++ rest) =
      complete ⟨offset + text.length, lexemes, frames, .literal start (text.reverse ++ read)⟩
        rest := by
  apply complete_collected (Mode.literal start)
  intro c member place read
  simp [Scan.read, plain c member]

theorem complete_literal {text : Text} (plain : ∀ c ∈ text, c ≠ '\'' ∧ c ≠ '\\') (rest : Text) :
    complete ⟨offset, lexemes, frames, .plain⟩ ('\'' :: text ++ '\'' :: rest) =
      complete ⟨offset + text.length + 2, ⟨.literal text, offset⟩ :: lexemes, frames, .plain⟩
        rest := by
  have opened : Scan.read ⟨offset, lexemes, frames, .plain⟩ '\'' =
      .ok ⟨offset, lexemes, frames, .literal offset []⟩ := rfl
  rw [List.cons_append, complete_cons opened, complete_quoted plain]
  have closed : ∀ place : Nat,
      Scan.read ⟨place, lexemes, frames, .literal offset (text.reverse ++ [])⟩ '\'' =
        .ok ⟨place, ⟨.literal text, offset⟩ :: lexemes, frames, .plain⟩ := by
    intro place
    simp [Scan.read, emitAt]
  rw [complete_cons (closed _)]
  simp [Nat.add_assoc, Nat.add_comm 1]

theorem separates_iff (scan : Scan) (c : Char) :
    (isSeparator c && !(c = ',' && scan.inArguments)) = true ↔
      (Scope.within scan.frames).Separates separators c := by
  rcases scan with ⟨_, _, frames, _⟩
  match frames with
  | [] => simp [inArguments, Scope.within, Scope.Separates, isSeparator]
  | .arguments :: _ => simp [inArguments, Scope.within, Scope.Separates, isSeparator]
  | .style :: _ => simp [inArguments, Scope.within, Scope.Separates, isSeparator]
  | .group _ :: _ => simp [inArguments, Scope.within, Scope.Separates, isSeparator]

theorem readPlain_mode (mode : Mode) (c : Char) :
    readPlain ⟨offset, lexemes, frames, mode⟩ c =
      readPlain ⟨offset, lexemes, frames, .plain⟩ c := by
  unfold readPlain inArguments emit emitAt leave
  rfl

theorem read_separator {c : Char} (separates : (Scope.within frames).Separates separators c) :
    Scan.read ⟨offset, lexemes, frames, .plain⟩ c =
      .ok ⟨offset, lexemes, frames, .separator offset [c]⟩ := by
  have accepted := (separates_iff ⟨offset, lexemes, frames, .plain⟩ c).mpr separates
  simp only [Bool.and_eq_true, Bool.not_eq_true'] at accepted
  rcases accepted with ⟨member, noComma⟩
  have others : ∀ d ∈ separators, d ≠ '\'' ∧ d ≠ '\\' ∧ d ≠ '#' ∧ Closer.ofChar? d = none :=
    Text.forall_mem_of_all (by decide)
  rcases others c (List.contains_iff_mem.mp member) with ⟨quote, backslash, hash, closer⟩
  simp only [Scan.read, readPlain, if_neg quote, if_neg backslash, if_neg hash, closer, noComma,
    member, ↓reduceIte, Bool.false_eq_true]

theorem complete_settled {earlier : List Lexeme} {mode later : Mode} {rest : Text}
    (next : ∀ c ∈ rest.head?, Scan.read ⟨offset, earlier, frames, mode⟩ c =
      Scan.read ⟨offset, lexemes, frames, later⟩ c)
    (last : finish ⟨offset, earlier, frames, mode⟩ = finish ⟨offset, lexemes, frames, later⟩) :
    complete ⟨offset, earlier, frames, mode⟩ rest =
      complete ⟨offset, lexemes, frames, later⟩ rest := by
  cases rest with
  | nil => exact last
  | cons c rest =>
    unfold complete
    rw [run_cons, run_cons, step, step, next c rfl]

theorem complete_separators {start : Nat} {text : Text}
    (run : ∀ c ∈ text, (Scope.within frames).Separates separators c) (read rest : Text) :
    complete ⟨offset, lexemes, frames, .separator start read⟩ (text ++ rest) =
      complete ⟨offset + text.length, lexemes, frames, .separator start (text.reverse ++ read)⟩
        rest := by
  apply complete_collected (Mode.separator start)
  intro c member place read
  simp only [Scan.read]
  rw [if_pos ((separates_iff _ c).mpr (run c member))]

theorem complete_separator_end {start : Nat} {rest : Text}
    (whole : ∀ c ∈ rest.head?, ¬ (Scope.within frames).Separates separators c) (read : Text) :
    complete ⟨offset, lexemes, frames, .separator start read⟩ rest =
      complete ⟨offset, ⟨.separator read.reverse, start⟩ :: lexemes, frames, .plain⟩ rest := by
  apply complete_settled
  · intro c next
    simp only [Scan.read]
    rw [if_neg (fun more => whole c next ((separates_iff _ c).mp more))]
    rfl
  · rfl

theorem complete_separator {text rest : Text} (nonempty : text ≠ [])
    (run : ∀ c ∈ text, (Scope.within frames).Separates separators c)
    (whole : ∀ c ∈ rest.head?, ¬ (Scope.within frames).Separates separators c) :
    complete ⟨offset, lexemes, frames, .plain⟩ (text ++ rest) =
      complete ⟨offset + text.length, ⟨.separator text, offset⟩ :: lexemes, frames, .plain⟩
        rest := by
  rcases List.exists_cons_of_ne_nil nonempty with ⟨c, text, rfl⟩
  simp only [List.mem_cons, forall_eq_or_imp] at run
  rw [List.cons_append, complete_cons (read_separator run.1), complete_separators run.2]
  rw [complete_separator_end whole]
  simp [Nat.add_assoc, Nat.add_comm 1]

theorem complete_escaped {c : Char} (special : c = '\'' ∨ c = '\\') (rest : Text) :
    complete ⟨offset, lexemes, frames, .plain⟩ ('\\' :: c :: rest) =
      complete ⟨offset + 2, ⟨.escaped c, offset⟩ :: lexemes, frames, .plain⟩ rest := by
  rcases special with rfl | rfl <;> rfl

theorem complete_group (kind : GroupKind) (rest : Text) :
    complete ⟨offset, lexemes, frames, .plain⟩ (kind.opener ++ rest) =
      complete ⟨offset + kind.opener.length, ⟨.groupOpen kind, offset⟩ :: lexemes,
        .group kind :: frames, .plain⟩ rest := by
  cases kind <;> rfl

theorem complete_backslash (rest : Text) :
    complete ⟨offset, lexemes, frames, .plain⟩ ('\\' :: rest) =
      complete ⟨offset + 1, lexemes, frames, .escape offset⟩ rest := rfl

theorem read_letter {start : Nat} {c : Char} (letter : isFieldLetter c = true) (other : c ≠ 'g') :
    Scan.read ⟨offset, lexemes, frames, .escape start⟩ c =
      .ok ⟨offset, ⟨.field c, start⟩ :: lexemes, frames, .fieldEnd⟩ := by
  simp only [isFieldLetter, isSpecial, Bool.and_eq_true, Option.isNone_iff_eq_none] at letter
  rcases letter with ⟨⟨kind, special⟩, named⟩
  simp only [Bool.not_eq_true', Bool.or_eq_false_iff, beq_eq_false_iff_ne] at special
  simp only [Scan.read, readEscape, kind, if_neg other, special, named, ↓reduceIte]
  simp [emitAt]

theorem complete_field_end {rest : Text} (bare : rest.head? ≠ some '(') :
    complete ⟨offset, lexemes, frames, .fieldEnd⟩ rest =
      complete ⟨offset, lexemes, frames, .plain⟩ rest := by
  apply complete_settled
  · intro c next
    have elsewhere : c ≠ '(' := by
      rintro rfl
      exact bare next
    simp only [Scan.read, if_neg elsewhere, readPlain_mode .fieldEnd]
  · rfl

theorem complete_letterG_end {start : Nat} {rest : Text} (bare : rest.head? ≠ some '(') :
    complete ⟨offset, lexemes, frames, .letterG start⟩ rest =
      complete ⟨offset, ⟨.field 'g', start⟩ :: lexemes, frames, .plain⟩ rest := by
  apply complete_settled
  · intro c next
    have elsewhere : c ≠ '(' := by
      rintro rfl
      exact bare next
    simp only [Scan.read, if_neg elsewhere, settle, emitAt, readPlain_mode .fieldEnd]
  · rfl

theorem complete_field {c : Char} {rest : Text} (letter : isFieldLetter c = true)
    (bare : rest.head? ≠ some '(') :
    complete ⟨offset, lexemes, frames, .plain⟩ ('\\' :: c :: rest) =
      complete ⟨offset + 2, ⟨.field c, offset⟩ :: lexemes, frames, .plain⟩ rest := by
  rw [complete_backslash]
  by_cases other : c = 'g'
  · subst other
    have begun : Scan.read ⟨offset + 1, lexemes, frames, .escape offset⟩ 'g' =
        .ok ⟨offset + 1, lexemes, frames, .letterG offset⟩ := rfl
    rw [complete_cons begun, complete_letterG_end bare]
  · rw [complete_cons (read_letter letter other), complete_field_end bare]

theorem complete_call {c : Char} (letter : isFieldLetter c = true) (other : c ≠ 'g')
    (rest : Text) :
    complete ⟨offset, lexemes, frames, .plain⟩ ('\\' :: c :: '(' :: rest) =
      complete ⟨offset + 3, ⟨.parenOpen, offset + 2⟩ :: ⟨.field c, offset⟩ :: lexemes,
        .arguments :: frames, .plain⟩ rest := by
  rw [complete_backslash, complete_cons (read_letter letter other)]
  rfl

theorem complete_digits {start : Nat} {digits : Text} (ascii : ∀ c ∈ digits, c.isDigit = true)
    (read rest : Text) :
    complete ⟨offset, lexemes, frames, .number start read⟩ (digits ++ rest) =
      complete ⟨offset + digits.length, lexemes, frames, .number start (digits.reverse ++ read)⟩
        rest := by
  apply complete_collected (Mode.number start)
  intro c member place read
  simp only [Scan.read, (Text.isAsciiDigit_iff c).mpr (ascii c member), ↓reduceIte]

theorem complete_number_end {start : Nat} {rest : Text}
    (whole : ∀ c ∈ rest.head?, c.isDigit = false) (read : Text) :
    complete ⟨offset, lexemes, frames, .number start read⟩ rest =
      complete ⟨offset, ⟨.styleCode read.reverse, start⟩ :: lexemes, frames, .codes⟩ rest := by
  apply complete_settled
  · intro c next
    have other : ¬ Text.isAsciiDigit c = true := by
      rw [Text.isAsciiDigit_iff, whole c next]
      exact Bool.false_ne_true
    simp only [Scan.read, if_neg other]
    rfl
  · rfl

theorem read_digit {c : Char} (digit : c.isDigit = true) :
    Scan.read ⟨offset, lexemes, frames, .codes⟩ c =
      .ok ⟨offset, lexemes, frames, .number offset [c]⟩ := by
  have ascii := (Text.isAsciiDigit_iff c).mpr digit
  have others : ∀ d ∈ Text.asciiDigits, d ≠ '(' ∧ (d = ')' || d = '\'' || d = '\\') = false ∧
      d ≠ ';' ∧ d ≠ '[' ∧ d ≠ '\x7b' :=
    Text.forall_mem_of_all (by decide)
  rcases others c (List.contains_iff_mem.mp ascii) with ⟨opened, ended, semicolon, square, curly⟩
  simp only [Scan.read, readCodes, if_neg opened, ended, if_neg semicolon, if_neg square,
    if_neg curly, ascii, ↓reduceIte, Bool.false_eq_true]

theorem complete_number {digits rest : Text} (nonempty : digits ≠ [])
    (ascii : ∀ c ∈ digits, c.isDigit = true) (whole : ∀ c ∈ rest.head?, c.isDigit = false) :
    complete ⟨offset, lexemes, frames, .codes⟩ (digits ++ rest) =
      complete ⟨offset + digits.length, ⟨.styleCode digits, offset⟩ :: lexemes, frames, .codes⟩
        rest := by
  rcases List.exists_cons_of_ne_nil nonempty with ⟨c, digits, rfl⟩
  simp only [List.mem_cons, forall_eq_or_imp] at ascii
  rw [List.cons_append, complete_cons (read_digit ascii.1), complete_digits ascii.2,
    complete_number_end whole]
  simp [Nat.add_assoc, Nat.add_comm 1]

theorem complete_colouring {start : Nat} {closer : Char} {inner : Text}
    (inside : ∀ c ∈ inner, c ≠ closer ∧ c ≠ '(') (read rest : Text) :
    complete ⟨offset, lexemes, frames, .colour start closer read⟩ (inner ++ rest) =
      complete ⟨offset + inner.length, lexemes, frames,
        .colour start closer (inner.reverse ++ read)⟩ rest := by
  apply complete_collected (Mode.colour start closer)
  intro c member place read
  simp only [Scan.read, if_neg (inside c member).1, if_neg (inside c member).2]

theorem complete_bracket (ground : Style.Ground) (rest : Text) :
    complete ⟨offset, lexemes, frames, .codes⟩ (bracketOpen ground :: rest) =
      complete ⟨offset + 1, lexemes, frames,
        .colour offset (bracketClose ground) [bracketOpen ground]⟩ rest := by
  cases ground <;> rfl

theorem complete_colour (ground : Style.Ground) {inner : Text}
    (inside : ∀ c ∈ inner, c ≠ bracketClose ground ∧ c ≠ '(') (rest : Text) :
    complete ⟨offset, lexemes, frames, .codes⟩
        (bracketOpen ground :: inner ++ bracketClose ground :: rest) =
      complete ⟨offset + inner.length + 2,
        ⟨.styleCode (bracketOpen ground :: inner ++ [bracketClose ground]), offset⟩ :: lexemes,
        frames, .codes⟩ rest := by
  rw [List.cons_append, complete_bracket, complete_colouring inside]
  have closed : ∀ (place : Nat) (read : Text),
      Scan.read ⟨place, lexemes, frames, .colour offset (bracketClose ground) read⟩
          (bracketClose ground) =
        .ok ⟨place, ⟨.styleCode (bracketClose ground :: read).reverse, offset⟩ :: lexemes, frames,
          .codes⟩ := by
    intro place read
    simp only [Scan.read, ↓reduceIte]
    rfl
  rw [complete_cons (closed _ _)]
  simp [Nat.add_assoc, Nat.add_comm 1]

theorem complete_unclosed (ground : Style.Ground) {inner rest : Text}
    (inside : ∀ c ∈ inner, c ≠ bracketClose ground ∧ c ≠ '(') (cut : ∀ c ∈ rest.head?, c = '(') :
    complete ⟨offset, lexemes, frames, .codes⟩ (bracketOpen ground :: inner ++ rest) =
      complete ⟨offset + inner.length + 1,
        ⟨.styleCode (bracketOpen ground :: inner), offset⟩ :: lexemes, frames, .codes⟩ rest := by
  have ended : ∀ (place : Nat) (read : Text),
      complete ⟨place, lexemes, frames, .colour offset (bracketClose ground) read⟩ rest =
        complete ⟨place, ⟨.styleCode read.reverse, offset⟩ :: lexemes, frames, .codes⟩ rest := by
    intro place read
    apply complete_settled
    · intro c next
      rw [cut c next]
      cases ground <;> rfl
    · rfl
  rw [List.cons_append, complete_bracket, complete_colouring inside, ended]
  simp [Nat.add_assoc, Nat.add_comm 1]

theorem read_single {c : Char} (alone : isSingleCode c = true) :
    Scan.read ⟨offset, lexemes, frames, .codes⟩ c =
      .ok ⟨offset, ⟨.styleCode [c], offset⟩ :: lexemes, frames, .codes⟩ := by
  simp only [isSingleCode, codesEnd, Bool.and_eq_true, Bool.not_eq_true', bne_iff_ne, ne_eq,
    List.contains_eq_mem, decide_eq_false_iff_not, List.mem_cons, List.not_mem_nil, or_false,
    not_or] at alone
  rcases alone with ⟨⟨⟨⟨⟨opened, closed, quote, backslash⟩, semicolon⟩, square⟩, curly⟩, digit⟩
  have ascii : ¬ Text.isAsciiDigit c = true := by
    rw [Text.isAsciiDigit_iff, digit]
    exact Bool.false_ne_true
  have ended : (c = ')' || c = '\'' || c = '\\') = false := by
    simp [closed, quote, backslash]
  simp only [Scan.read, readCodes, if_neg opened, ended, if_neg semicolon, if_neg square,
    if_neg curly, if_neg ascii, Bool.false_eq_true, ↓reduceIte]
  rfl

theorem complete_codes {start : Nat} {rest list : Text} {codes : List Lexeme}
    (listed : CodesLex rest start list codes) (ended : ∀ c ∈ rest.head?, c ∈ codesEnd) :
    complete ⟨start, lexemes, frames, .codes⟩ (list ++ rest) =
      complete ⟨start + list.length, codes.reverse ++ lexemes, frames, .codes⟩ rest := by
  induction listed generalizing lexemes with
  | done => rfl
  | @semicolon start list more others ih =>
    have step : Scan.read ⟨start, lexemes, frames, .codes⟩ ';' =
        .ok ⟨start, ⟨.semicolon, start⟩ :: lexemes, frames, .codes⟩ := rfl
    rw [List.cons_append, complete_cons step, ih]
    simp [Nat.add_assoc, Nat.add_comm 1]
  | @single start c list more alone others ih =>
    rw [List.cons_append, complete_cons (read_single alone), ih]
    simp [Nat.add_assoc, Nat.add_comm 1]
  | @number start digits list more nonempty ascii whole others ih =>
    have stops : ∀ c ∈ (list ++ rest).head?, c.isDigit = false := by
      intro c next
      cases list with
      | nil =>
        have apart : ∀ d ∈ codesEnd, d.isDigit = false :=
          Text.forall_mem_of_all (by decide)
        exact apart c (ended c next)
      | cons d list => exact whole c next
    rw [List.append_assoc, complete_number nonempty ascii stops, ih]
    simp [Nat.add_assoc]
  | @colour start ground inner list more inside others ih =>
    have split : bracketOpen ground :: inner ++ bracketClose ground :: list ++ rest =
        bracketOpen ground :: inner ++ bracketClose ground :: (list ++ rest) := by
      simp
    rw [split, complete_colour ground inside, ih]
    simp [Nat.add_assoc, Nat.add_comm, Nat.add_left_comm]
  | unclosed ground inside cut =>
    rw [complete_unclosed ground inside cut]
    simp [Nat.add_assoc]

theorem complete_bodiless {rest : Text} (bodiless : ∀ c ∈ rest.head?, c ∈ codesEnd ∧ c ≠ '(') :
    complete ⟨offset, lexemes, frames, .codes⟩ rest =
      complete ⟨offset, lexemes, frames, .plain⟩ rest := by
  apply complete_settled
  · intro c next
    rcases bodiless c next with ⟨ended, other⟩
    simp only [codesEnd, List.mem_cons, List.not_mem_nil, or_false] at ended
    rcases ended with rfl | rfl | rfl | rfl
    · exact absurd rfl other
    · rfl
    · rfl
    · rfl
  · rfl

theorem complete_style (rest : Text) :
    complete ⟨offset, lexemes, frames, .plain⟩ ('#' :: rest) =
      complete ⟨offset + 1, ⟨.styleOpen, offset⟩ :: lexemes, frames, .codes⟩ rest := rfl

theorem complete_body (rest : Text) :
    complete ⟨offset, lexemes, frames, .codes⟩ ('(' :: rest) =
      complete ⟨offset + 1, ⟨.parenOpen, offset⟩ :: lexemes, .style :: frames, .plain⟩ rest := rfl

theorem complete_close (closer : Closer) (rest : Text) :
    complete ⟨offset, lexemes, frames, .plain⟩ (closer.char :: rest) =
      complete ⟨offset + 1, ⟨.close closer, offset⟩ :: lexemes, closeFrame closer frames, .plain⟩
        rest := by
  have step : Scan.read ⟨offset, lexemes, frames, .plain⟩ closer.char =
      .ok (leave ⟨offset, ⟨.close closer, offset⟩ :: lexemes, frames, .plain⟩ closer) := by
    cases closer <;> rfl
  rw [complete_cons step, leave_eq]

theorem complete_comma (rest : Text) :
    complete ⟨offset, lexemes, .arguments :: frames, .plain⟩ (',' :: rest) =
      complete ⟨offset + 1, ⟨.comma, offset⟩ :: lexemes, .arguments :: frames, .plain⟩ rest := rfl

theorem complete_paren (rest : Text) :
    complete ⟨offset, lexemes, frames, .plain⟩ ('(' :: rest) =
      complete ⟨offset + 1, ⟨.parenOpen, offset⟩ :: lexemes, frames, .plain⟩ rest := rfl

theorem complete_stray {c : Char} (unknown : isStray c = true) (rest : Text) :
    complete ⟨offset, lexemes, frames, .plain⟩ (c :: rest) =
      complete ⟨offset + 1, ⟨.unknown c, offset⟩ :: lexemes, frames, .plain⟩ rest := by
  simp only [isStray, Bool.and_eq_true, bne_iff_ne, ne_eq, Option.isNone_iff_eq_none,
    Bool.not_eq_true'] at unknown
  rcases unknown with ⟨⟨⟨⟨⟨quote, backslash⟩, hash⟩, closer⟩, separator⟩, paren⟩
  have noComma : c ≠ ',' := by
    rintro rfl
    exact Bool.noConfusion separator
  have step : Scan.read ⟨offset, lexemes, frames, .plain⟩ c =
      .ok ⟨offset, ⟨.unknown c, offset⟩ :: lexemes, frames, .plain⟩ := by
    simp only [Scan.read, readPlain, if_neg quote, if_neg backslash, if_neg hash, closer,
      decide_eq_false noComma, separator, if_neg paren, Bool.false_and, Bool.false_eq_true,
      ↓reduceIte]
    rfl
  rw [complete_cons step]

theorem complete_open {text : Text} (plain : ∀ c ∈ text, c ≠ '\'' ∧ c ≠ '\\') :
    complete ⟨offset, lexemes, frames, .plain⟩ ('\'' :: text) =
      .error ⟨.literalOpen, offset⟩ := by
  have opened : Scan.read ⟨offset, lexemes, frames, .plain⟩ '\'' =
      .ok ⟨offset, lexemes, frames, .literal offset []⟩ := rfl
  have whole : text = text ++ [] := by simp
  rw [complete_cons opened, whole, complete_quoted plain]
  rfl

theorem complete_cut {text : Text} (plain : ∀ c ∈ text, c ≠ '\'' ∧ c ≠ '\\') (rest : Text) :
    complete ⟨offset, lexemes, frames, .plain⟩ ('\'' :: text ++ '\\' :: rest) =
      .error ⟨.literalBeforeBackslash, offset⟩ := by
  have opened : Scan.read ⟨offset, lexemes, frames, .plain⟩ '\'' =
      .ok ⟨offset, lexemes, frames, .literal offset []⟩ := rfl
  rw [List.cons_append, complete_cons opened, complete_quoted plain, complete_error]
  rfl

theorem complete_lone :
    complete ⟨offset, lexemes, frames, .plain⟩ ['\\'] = .error ⟨.loneBackslash, offset⟩ := rfl

theorem complete_unrecognized {c : Char} (group : GroupKind.ofChar? c = none)
    (special : isSpecial c = false) (letter : isFieldLetter c = false) (rest : Text) :
    complete ⟨offset, lexemes, frames, .plain⟩ ('\\' :: c :: rest) =
      .error ⟨.unrecognizedEscape c, offset⟩ := by
  have unnamed : (Text.isLetter c || fieldSymbols.contains c) = false := by
    simpa [isFieldLetter, group, special] using letter
  have other : c ≠ 'g' := by
    rintro rfl
    revert letter
    decide
  have failed : Scan.read ⟨offset + 1, lexemes, frames, .escape offset⟩ c =
      .error ⟨.unrecognizedEscape c, offset⟩ := by
    simp only [isSpecial, Bool.or_eq_false_iff, beq_eq_false_iff_ne] at special
    simp only [Scan.read, readEscape, group, if_neg other, special, unnamed]
    simp
  rw [complete_backslash, complete_error failed]

end Scan

theorem Lexes.complete {frames : List Frame} {start : Nat} {text : Text} {more : List Lexeme}
    (lexed : Lexes frames start text more) (lexemes : List Lexeme) :
    Scan.complete ⟨start, lexemes, frames, .plain⟩ text = .ok (lexemes.reverse ++ more) := by
  induction lexed generalizing lexemes with
  | done => simp [Scan.complete_nil, Scan.finish, Scan.settle]
  | literal plain others ih => rw [Scan.complete_literal plain, ih]; simp
  | escaped special others ih => rw [Scan.complete_escaped special, ih]; simp
  | field letter bare others ih => rw [Scan.complete_field letter bare, ih]; simp
  | call letter other others ih => rw [Scan.complete_call letter other, ih]; simp
  | group kind others ih => rw [Scan.complete_group, ih]; simp
  | @style frames start list rest codes more listed others ih =>
    have ended : ∀ c ∈ ('(' :: rest).head?, c ∈ codesEnd := by
      intro c next
      cases next
      decide
    have place : start + 1 + list.length = start + list.length + 1 := by omega
    rw [List.cons_append, Scan.complete_style, Scan.complete_codes listed ended, place,
      Scan.complete_body, ih]
    simp
  | @codes frames start list rest codes more listed bodiless others ih =>
    have ended : ∀ c ∈ rest.head?, c ∈ codesEnd := fun c next => (bodiless c next).1
    have place : start + 1 + list.length = start + list.length + 1 := by omega
    rw [List.cons_append, Scan.complete_style, Scan.complete_codes listed ended, place,
      Scan.complete_bodiless bodiless, ih]
    simp
  | close closer others ih => rw [Scan.complete_close, ih]; simp
  | comma others ih => rw [Scan.complete_comma, ih]; simp
  | separator nonempty run whole others ih =>
    rw [Scan.complete_separator nonempty run whole, ih]
    simp
  | paren others ih => rw [Scan.complete_paren, ih]; simp
  | stray unknown others ih => rw [Scan.complete_stray unknown, ih]; simp

end GitPrompt.Format
