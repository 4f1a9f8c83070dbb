import GitPrompt.Proofs.Format.CodeList

/-!
What one lexeme can do to a reading, one rule for each kind of token that is in its place, and one
for each way that a token can be out of place.
-/
namespace GitPrompt.Format.Reading

/-- A lexeme leads from one reading to another. -/
inductive Moves : Reading → Lexeme → Reading → Prop
  | space {levels : List Level} {draft : Draft} (text : Text) (place : Nat) :
      Moves ⟨levels, draft, .ready⟩ ⟨.separator text, place⟩ ⟨levels, draft.space text, .ready⟩
  | literal {levels : List Level} {draft : Draft} (text : Text) (place : Nat) :
      Moves ⟨levels, draft, .ready⟩ ⟨.literal text, place⟩
        ⟨levels, draft.add (.literal text), .ready⟩
  | escaped {levels : List Level} {draft : Draft} (c : Char) (place : Nat) :
      Moves ⟨levels, draft, .ready⟩ ⟨.escaped c, place⟩ ⟨levels, draft.add (.literal [c]), .ready⟩
  | field {levels : List Level} {draft : Draft} (field : Field) (place : Nat) :
      Moves ⟨levels, draft, .ready⟩ ⟨.field field.letter, place⟩
        ⟨levels, draft, .fieldRead field place⟩
  | arguments {levels : List Level} {draft : Draft} (field : Field) (offset place : Nat) :
      Moves ⟨levels, draft, .fieldRead field offset⟩ ⟨.parenOpen, place⟩
        ⟨⟨.arguments field offset [], place, draft⟩ :: levels, .empty, .ready⟩
  | bare {levels : List Level} {draft : Draft} {field : Field} {offset : Nat} {lexeme : Lexeme}
      {next : Reading} (other : lexeme.token ≠ .parenOpen)
      (moves : Moves ⟨levels, draft.add (.field field .nil offset), .ready⟩ lexeme next) :
      Moves ⟨levels, draft, .fieldRead field offset⟩ lexeme next
  | group {levels : List Level} {draft : Draft} (kind : GroupKind) (place : Nat) :
      Moves ⟨levels, draft, .ready⟩ ⟨.groupOpen kind, place⟩
        ⟨⟨.group kind, place, draft⟩ :: levels, .empty, .ready⟩
  | style {levels : List Level} {draft : Draft} (place : Nat) :
      Moves ⟨levels, draft, .ready⟩ ⟨.styleOpen, place⟩ ⟨levels, draft, .codes place [] none⟩
  | code {levels : List Level} {draft : Draft} {opened : Nat} {codes : List Style.Code}
      {semicolon : Option Nat} {text : Text} {code : Style.Code} (derived : CodeDerives code text)
      (place : Nat) :
      Moves ⟨levels, draft, .codes opened codes semicolon⟩ ⟨.styleCode text, place⟩
        ⟨levels, draft, .codes opened (code :: codes) none⟩
  | semicolon {levels : List Level} {draft : Draft} {opened : Nat} {codes : List Style.Code}
      (nonempty : codes ≠ []) (place : Nat) :
      Moves ⟨levels, draft, .codes opened codes none⟩ ⟨.semicolon, place⟩
        ⟨levels, draft, .codes opened codes (some place)⟩
  | body {levels : List Level} {draft : Draft} {opened : Nat} {codes : List Style.Code}
      (nonempty : codes ≠ []) (place : Nat) :
      Moves ⟨levels, draft, .codes opened codes none⟩ ⟨.parenOpen, place⟩
        ⟨⟨.style codes, opened, draft⟩ :: levels, .empty, .ready⟩
  | close {levels : List Level} {draft : Draft} (level : Level) (place : Nat) :
      Moves ⟨level :: levels, draft, .ready⟩ ⟨.close level.opening.frame.closer, place⟩
        ⟨levels, level.outer.add (level.opening.element draft.sequence), .ready⟩
  | comma {levels : List Level} {draft outer : Draft} (field : Field) (offset opened : Nat)
      (before : List Sequence) (place : Nat) :
      Moves ⟨⟨.arguments field offset before, opened, outer⟩ :: levels, draft, .ready⟩
        ⟨.comma, place⟩
        ⟨⟨.arguments field offset (draft.sequence :: before), opened, outer⟩ :: levels, .empty,
          .ready⟩
  | finish {draft : Draft} (place : Nat) :
      Moves ⟨[], draft, .ready⟩ ⟨.endOfInput, place⟩ ⟨[], draft, .ready⟩

section
variable {levels : List Level} {draft : Draft} {lexeme : Lexeme} {next : Reading}

theorem moves_of_stop (stopped : stop ⟨levels, draft, .ready⟩ lexeme = .ok next) :
    Moves ⟨levels, draft, .ready⟩ lexeme next := by
  rcases lexeme with ⟨token, place⟩
  cases levels with
  | nil =>
    cases token with
    | endOfInput =>
      cases stopped
      exact .finish place
    | _ => cases stopped
  | cons level outer =>
    by_cases closes : token = .close level.opening.frame.closer
    · subst closes
      simp only [stop, ↓reduceIte, Except.ok.injEq] at stopped
      subst stopped
      exact .close level place
    · rcases level with ⟨opening, opened, draft⟩
      cases opening with
      | arguments field offset before =>
        simp only [stop, if_neg closes] at stopped
        cases token with
        | comma =>
          cases stopped
          exact .comma field offset opened before place
        | _ => cases stopped
      | _ =>
        simp only [stop, if_neg closes] at stopped
        cases stopped

theorem moves_of_readElement (read : readElement ⟨levels, draft, .ready⟩ lexeme = .ok next) :
    Moves ⟨levels, draft, .ready⟩ lexeme next := by
  rcases lexeme with ⟨token, place⟩
  cases token with
  | separator text =>
    cases read
    exact .space text place
  | literal text =>
    cases read
    exact .literal text place
  | escaped c =>
    cases read
    exact .escaped c place
  | field letter =>
    cases known : Field.ofLetter? letter with
    | none => simp [readElement, known] at read
    | some field =>
      have named := Field.letter_of_ofLetter? known
      subst named
      simp only [readElement, known, Except.ok.injEq] at read
      subst read
      exact .field field place
  | groupOpen kind =>
    cases read
    exact .group kind place
  | styleOpen =>
    cases read
    exact .style place
  | unknown c => cases read
  | parenOpen => cases read
  | _ => exact moves_of_stop read

theorem moves_of_codes {opened : Nat} {codes : List Style.Code} {semicolon : Option Nat}
    (stepped : step ⟨levels, draft, .codes opened codes semicolon⟩ lexeme = .ok next) :
    Moves ⟨levels, draft, .codes opened codes semicolon⟩ lexeme next := by
  rcases lexeme with ⟨token, place⟩
  have others : EndsCodes ⟨token, place⟩ →
      Moves ⟨levels, draft, .codes opened codes semicolon⟩ ⟨token, place⟩ next := by
    intro ends
    rw [step_endsCodes ends] at stepped
    by_cases empty : codes = []
    · rw [if_pos empty] at stepped
      cases stepped
    rw [if_neg empty] at stepped
    cases semicolon with
    | some offset => cases stepped
    | none =>
      by_cases opens : token = .parenOpen
      · subst opens
        cases stepped
        exact .body empty place
      · simp only [if_neg opens] at stepped
        cases stepped
  cases token with
  | styleCode text =>
    simp only [step, readCodes] at stepped
    split at stepped
    · rename_i code read
      cases stepped
      exact .code (styleCode_eq_ok.mp read) place
    · cases stepped
  | semicolon =>
    simp only [step, readCodes] at stepped
    split at stepped
    · cases stepped
    · rename_i fits
      simp only [Bool.or_eq_true, decide_eq_true_eq, not_or, Bool.not_eq_true,
        Option.isSome_eq_false_iff, Option.isNone_iff_eq_none] at fits
      obtain ⟨nonempty, none⟩ := fits
      subst none
      cases stepped
      exact .semicolon nonempty place
  | _ => exact others ⟨fun _ => Token.noConfusion, Token.noConfusion⟩

end

theorem moves_of_step {reading next : Reading} {lexeme : Lexeme}
    (stepped : reading.step lexeme = .ok next) : Moves reading lexeme next := by
  rcases reading with ⟨levels, draft, phase⟩
  cases phase with
  | ready => exact moves_of_readElement stepped
  | fieldRead field offset =>
    rcases lexeme with ⟨token, place⟩
    by_cases called : token = .parenOpen
    · subst called
      cases stepped
      exact .arguments field offset place
    · simp only [step, if_neg called] at stepped
      exact .bare called (moves_of_readElement stepped)
  | codes opened codes semicolon => exact moves_of_codes stepped

theorem moves_of_run {reading final : Reading} {lexeme : Lexeme} {rest : List Lexeme}
    (finished : reading.run (lexeme :: rest) = .ok final) :
    ∃ next, Moves reading lexeme next ∧ next.run rest = .ok final := by
  rw [run_cons] at finished
  obtain ⟨next, stepped, later⟩ := bind_eq_ok.mp finished
  exact ⟨next, moves_of_step stepped, later⟩

/-- A lexeme stops a reading with an error. -/
inductive Stops : Reading → Lexeme → FormatError → Prop
  | leftOver {draft : Draft} {token : Token} (place : Nat)
      (stray : token = .comma ∨ ¬ EndsCodes ⟨token, place⟩) :
      Stops ⟨[], draft, .ready⟩ ⟨token, place⟩ ⟨.leftOver token, place⟩
  | closesNothing {draft : Draft} (closer : Closer) (place : Nat) :
      Stops ⟨[], draft, .ready⟩ ⟨.close closer, place⟩ ⟨.closesNothing (.close closer), place⟩
  | unclosed {levels : List Level} {draft : Draft} {token : Token} (level : Level) (place : Nat)
      (other : token ≠ .close level.opening.frame.closer)
      (between : token = .comma → level.opening.frame ≠ .arguments) :
      Stops ⟨level :: levels, draft, .ready⟩ ⟨token, place⟩
        ⟨.unclosed level.opening.frame level.opened token, place⟩
  | unquoted {levels : List Level} {draft : Draft} (c : Char) (place : Nat) :
      Stops ⟨levels, draft, .ready⟩ ⟨.unknown c, place⟩ ⟨.unquoted c, place⟩
  | strayParen {levels : List Level} {draft : Draft} (place : Nat) :
      Stops ⟨levels, draft, .ready⟩ ⟨.parenOpen, place⟩ ⟨.strayParen, place⟩
  | unknownField {levels : List Level} {draft : Draft} {letter : Char} (place : Nat)
      (unknown : Field.ofLetter? letter = none) :
      Stops ⟨levels, draft, .ready⟩ ⟨.field letter, place⟩ ⟨.unknownField letter, place⟩
  | bare {levels : List Level} {draft : Draft} {field : Field} {offset : Nat} {lexeme : Lexeme}
      {error : FormatError} (other : lexeme.token ≠ .parenOpen)
      (stops : Stops ⟨levels, draft.add (.field field .nil offset), .ready⟩ lexeme error) :
      Stops ⟨levels, draft, .fieldRead field offset⟩ lexeme error
  | badCode {levels : List Level} {draft : Draft} {opened : Nat} {codes : List Style.Code}
      {semicolon : Option Nat} {text : Text} {fault : Fault} (place : Nat)
      (refused : styleCode text = .error fault) :
      Stops ⟨levels, draft, .codes opened codes semicolon⟩ ⟨.styleCode text, place⟩ ⟨fault, place⟩
  | semicolon {levels : List Level} {draft : Draft} {opened : Nat} {codes : List Style.Code}
      {semicolon : Option Nat} (place : Nat) (stray : codes = [] ∨ semicolon.isSome) :
      Stops ⟨levels, draft, .codes opened codes semicolon⟩ ⟨.semicolon, place⟩
        ⟨.straySemicolon, place⟩
  | noCodes {levels : List Level} {draft : Draft} {opened : Nat} {semicolon : Option Nat}
      {lexeme : Lexeme} (ends : EndsCodes lexeme) :
      Stops ⟨levels, draft, .codes opened [] semicolon⟩ lexeme
        ⟨.noCodes lexeme.token, lexeme.offset⟩
  | lastSemicolon {levels : List Level} {draft : Draft} {opened place : Nat}
      {codes : List Style.Code} {lexeme : Lexeme} (ends : EndsCodes lexeme)
      (nonempty : codes ≠ []) :
      Stops ⟨levels, draft, .codes opened codes (some place)⟩ lexeme ⟨.straySemicolon, place⟩
  | noBody {levels : List Level} {draft : Draft} {opened : Nat} {codes : List Style.Code}
      {lexeme : Lexeme} (ends : EndsCodes lexeme) (nonempty : codes ≠ [])
      (other : lexeme.token ≠ .parenOpen) :
      Stops ⟨levels, draft, .codes opened codes none⟩ lexeme ⟨.noBody lexeme.token, lexeme.offset⟩

section
variable {levels : List Level} {draft : Draft} {lexeme : Lexeme} {error : FormatError}

theorem stops_of_stop {token : Token} {place : Nat}
    (failed : stop ⟨levels, draft, .ready⟩ ⟨token, place⟩ = .error error)
    (outermost : stop ⟨[], draft, .ready⟩ ⟨token, place⟩ = .error error →
      Stops ⟨[], draft, .ready⟩ ⟨token, place⟩ error) :
    Stops ⟨levels, draft, .ready⟩ ⟨token, place⟩ error := by
  cases levels with
  | nil => exact outermost failed
  | cons level outer =>
    by_cases closes : token = .close level.opening.frame.closer
    · subst closes
      simp [stop] at failed
    · rcases level with ⟨opening, opened, before⟩
      simp only [stop, if_neg closes] at failed
      cases opening with
      | arguments field offset earlier =>
        cases token with
        | comma => cases failed
        | _ =>
          cases failed
          exact .unclosed _ place closes Token.noConfusion
      | _ =>
        cases failed
        exact .unclosed _ place closes fun _ => Frame.noConfusion

theorem stops_of_readElement
    (failed : readElement ⟨levels, draft, .ready⟩ lexeme = .error error) :
    Stops ⟨levels, draft, .ready⟩ lexeme error := by
  rcases lexeme with ⟨token, place⟩
  cases token with
  | field letter =>
    cases known : Field.ofLetter? letter with
    | some field => simp [readElement, known] at failed
    | none =>
      simp only [readElement, known, Except.error.injEq] at failed
      subst failed
      exact .unknownField place known
  | unknown c =>
    cases failed
    exact .unquoted c place
  | parenOpen =>
    cases failed
    exact .strayParen place
  | close closer =>
    refine stops_of_stop failed ?_
    intro left
    cases left
    exact .closesNothing closer place
  | endOfInput =>
    refine stops_of_stop failed ?_
    intro left
    cases left
  | comma =>
    refine stops_of_stop failed ?_
    intro left
    cases left
    exact .leftOver place (.inl rfl)
  | styleCode text =>
    refine stops_of_stop failed ?_
    intro left
    cases left
    exact .leftOver place (.inr fun ends => ends.1 text rfl)
  | semicolon =>
    refine stops_of_stop failed ?_
    intro left
    cases left
    exact .leftOver place (.inr fun ends => ends.2 rfl)
  | _ => cases failed

theorem stops_of_codes {opened : Nat} {codes : List Style.Code} {semicolon : Option Nat}
    (failed : step ⟨levels, draft, .codes opened codes semicolon⟩ lexeme = .error error) :
    Stops ⟨levels, draft, .codes opened codes semicolon⟩ lexeme error := by
  rcases lexeme with ⟨token, place⟩
  have others : EndsCodes ⟨token, place⟩ →
      Stops ⟨levels, draft, .codes opened codes semicolon⟩ ⟨token, place⟩ error := by
    intro ends
    rw [step_endsCodes ends] at failed
    by_cases empty : codes = []
    · subst empty
      cases failed
      exact .noCodes ends
    rw [if_neg empty] at failed
    cases semicolon with
    | some offset =>
      cases failed
      exact .lastSemicolon ends empty
    | none =>
      by_cases opens : token = .parenOpen
      · simp only [if_pos opens] at failed
        cases failed
      · simp only [if_neg opens, Except.error.injEq] at failed
        subst failed
        exact .noBody ends empty opens
  cases token with
  | styleCode text =>
    simp only [step, readCodes] at failed
    split at failed
    · cases failed
    · rename_i fault refused
      cases failed
      exact .badCode place refused
  | semicolon =>
    simp only [step, readCodes] at failed
    split at failed
    · rename_i stray
      cases failed
      exact .semicolon place (by simpa using stray)
    · cases failed
  | _ => exact others ⟨fun _ => Token.noConfusion, Token.noConfusion⟩

end

theorem stops_of_step {reading : Reading} {lexeme : Lexeme} {error : FormatError}
    (failed : reading.step lexeme = .error error) : Stops reading lexeme error := by
  rcases reading with ⟨levels, draft, phase⟩
  cases phase with
  | ready => exact stops_of_readElement failed
  | fieldRead field offset =>
    by_cases called : lexeme.token = .parenOpen
    · simp [step, called] at failed
    · simp only [step, if_neg called] at failed
      exact .bare called (stops_of_readElement failed)
  | codes opened codes semicolon => exact stops_of_codes failed

end GitPrompt.Format.Reading
