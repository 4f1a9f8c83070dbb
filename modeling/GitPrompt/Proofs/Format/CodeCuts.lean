import GitPrompt.Proofs.Format.Moves

/-!
Beginnings of a list of style codes. A list that is read to its body may be cut anywhere: its codes
are then codes still, but for a colour whose bracket is open, and a body is missing.
-/
namespace GitPrompt.Format

theorem Reading.kind_of_codes_end {levels : List Level} {draft : Draft} {opened : Nat}
    {codes : List Style.Code} {semicolon : Option Nat} (place : Nat) :
    ∃ error, run ⟨levels, draft, .codes opened codes semicolon⟩ [⟨.endOfInput, place⟩] =
      .error error ∧ error.kind = .unexpectedToken := by
  have ends : EndsCodes ⟨.endOfInput, place⟩ := ⟨nofun, nofun⟩
  rw [run_cons, step_endsCodes ends]
  by_cases empty : codes = []
  · rw [if_pos empty]
    exact ⟨_, rfl, rfl⟩
  · rw [if_neg empty]
    cases semicolon with
    | some offset => exact ⟨_, rfl, rfl⟩
    | none => exact ⟨_, rfl, rfl⟩

/-- The beginning of a list of codes has tokens, and where the input ends behind them it has an
error. -/
def CodesCut (reading : Reading) (start : Nat) (list : Text) : Prop :=
  ∃ lexemes, CodesLex [] start list lexemes ∧ ∀ place, ∃ error,
    reading.run (lexemes ++ [⟨.endOfInput, place⟩]) = .error error ∧
      (error.kind = .unexpectedToken ∨ error.kind = .unmatchedDelimiter)

theorem mem_head?_of_take {text : Text} {k : Nat} {c : Char} (first : c ∈ (text.take k).head?) :
    c ∈ text.head? := by
  rw [List.head?_take] at first
  split at first
  · cases first
  · exact first

section
variable {levels : List Level} {draft : Draft} {opened : Nat} {before : List Style.Code}
  {semicolon : Option Nat} {start : Nat}

theorem CodesCut.nothing : CodesCut ⟨levels, draft, .codes opened before semicolon⟩ start [] := by
  refine ⟨[], .done, ?_⟩
  intro place
  obtain ⟨error, failed, kind⟩ := Reading.kind_of_codes_end place
  exact ⟨error, failed, .inl kind⟩

theorem CodesCut.later {reading next : Reading} (lexeme : Lexeme) (piece : Text) {list : Text}
    (cut : CodesCut next (start + piece.length) list)
    (lexes : ∀ lexemes, CodesLex [] (start + piece.length) list lexemes →
      CodesLex [] start (piece ++ list) (lexeme :: lexemes))
    (stepped : reading.step lexeme = .ok next) : CodesCut reading start (piece ++ list) := by
  obtain ⟨lexemes, lexed, ended⟩ := cut
  refine ⟨lexeme :: lexemes, lexes lexemes lexed, ?_⟩
  intro place
  rw [List.cons_append, Reading.run_of_step stepped]
  exact ended place

theorem styleCode_unclosed (ground : Style.Ground) {inner : Text}
    (inside : ∀ c ∈ inner, c ≠ bracketClose ground ∧ c ≠ '(') :
    styleCode (bracketOpen ground :: inner) = .error (.colourOpen (bracketClose ground)) := by
  have closed : inner.getLast? ≠ some (bracketClose ground) := by
    intro last
    exact (inside _ (List.mem_of_getLast? last)).1 rfl
  cases ground with
  | fore => exact if_neg closed
  | back => exact if_neg closed

theorem CodesCut.unclosed (ground : Style.Ground) {inner : Text}
    (inside : ∀ c ∈ inner, c ≠ bracketClose ground ∧ c ≠ '(') :
    CodesCut ⟨levels, draft, .codes opened before semicolon⟩ start
      (bracketOpen ground :: inner) := by
  refine ⟨[⟨.styleCode (bracketOpen ground :: inner), start⟩], .unclosed ground inside nofun, ?_⟩
  intro place
  rw [List.singleton_append, Reading.run_badCode (styleCode_unclosed ground inside)]
  exact ⟨_, rfl, .inr rfl⟩

theorem CodesCut.code {code : Style.Code} {text list : Text} (derived : CodeDerives code text)
    (apart : Apart text list)
    (cut : CodesCut ⟨levels, draft, .codes opened (code :: before) none⟩ (start + text.length)
      list) :
    CodesCut ⟨levels, draft, .codes opened before semicolon⟩ start (text ++ list) := by
  apply cut.later ⟨.styleCode text, start⟩ text
  · intro lexemes lexed
    exact derived.lex apart lexed
  · simp only [Reading.step, Reading.readCodes, styleCode_eq_ok.mpr derived]

theorem CodesCut.append {code : Style.Code} {text list : Text} {k : Nat}
    (derived : CodeDerives code text) (apart : Apart text list)
    (here : ∀ j < text.length, CodesCut ⟨levels, draft, .codes opened before semicolon⟩ start
      (text.take j))
    (later : ∀ j, CodesCut ⟨levels, draft, .codes opened (code :: before) none⟩
      (start + text.length) (list.take j)) :
    CodesCut ⟨levels, draft, .codes opened before semicolon⟩ start ((text ++ list).take k) := by
  rcases Nat.lt_or_ge k text.length with cut | whole
  · rw [List.take_append_of_le_length (by omega)]
    exact here k cut
  · have still : Apart text (list.take (k - text.length)) := by
      intro c last d next
      rw [List.head?_take] at next
      split at next
      · cases next
      · exact apart c last d next
    rw [List.take_append, List.take_of_length_le whole]
    exact .code derived still (later _)

theorem exists_code_of_run {text : Text} {place : Nat} {rest : List Lexeme} {final : Reading}
    (finished : Reading.run ⟨levels, draft, .codes opened before semicolon⟩
      (⟨.styleCode text, place⟩ :: rest) = .ok final) :
    ∃ code, CodeDerives code text ∧
      Reading.run ⟨levels, draft, .codes opened (code :: before) none⟩ rest = .ok final := by
  obtain ⟨next, moves, later⟩ := Reading.moves_of_run finished
  cases moves with
  | code derived place => exact ⟨_, derived, later⟩

end

theorem le_ofDigitChars (digits : Text) (number : Nat) :
    number ≤ Nat.ofDigitChars 10 digits number := by
  induction digits generalizing number with
  | nil => simp
  | cons c rest ih =>
    have more := ih (10 * number + (c.toNat - '0'.toNat))
    rw [Nat.ofDigitChars_cons]
    omega

theorem Component.take {text : Text} {value : Nat} (component : Component text value) (k : Nat) :
    ∃ less, Component (text.take (k + 1)) less := by
  refine ⟨Nat.ofDigitChars 10 (text.take (k + 1)) 0, ?_, ?_, rfl, ?_⟩
  · simpa using component.nonempty
  · intro c member
    exact component.digits c (List.mem_of_mem_take member)
  · have whole := component.reads
    rw [← List.take_append_drop (k + 1) text, Nat.ofDigitChars_append] at whole
    have less := le_ofDigitChars (text.drop (k + 1)) (Nat.ofDigitChars 10 (text.take (k + 1)) 0)
    have small := component.small
    omega

theorem CodeDerives.component {code : Style.Code} {text : Text} (derived : CodeDerives code text)
    (nonempty : text ≠ []) (ascii : ∀ c ∈ text, c.isDigit = true) :
    ∃ value, Component text value := by
  cases derived with
  | letter named =>
    have digit := ascii _ List.mem_cons_self
    rw [isDigit_codeLetter named] at digit
    cases digit
  | number component => exact ⟨_, component⟩
  | rgb ground first second third =>
    have digit := ascii _ List.mem_cons_self
    cases ground <;> cases digit

theorem CodesLex.cut {rest list : Text} {start : Nat} {lexemes : List Lexeme}
    (lexed : CodesLex rest start list lexemes) {levels : List Level} {draft : Draft} {opened : Nat}
    {before : List Style.Code} {semicolon : Option Nat} {more : List Lexeme} {final : Reading}
    (finished : Reading.run ⟨levels, draft, .codes opened before semicolon⟩ (lexemes ++ more) =
      .ok final) (k : Nat) :
    CodesCut ⟨levels, draft, .codes opened before semicolon⟩ start (list.take k) := by
  induction lexed generalizing before semicolon k with
  | done =>
    rw [List.take_nil]
    exact .nothing
  | @semicolon start list tokens others ih =>
    cases k with
    | zero => exact .nothing
    | succ k =>
      obtain ⟨next, stepped, later⟩ := bind_eq_ok.mp finished
      cases Reading.moves_of_step stepped with
      | semicolon nonempty place =>
        exact (ih later k).later _ [';'] (fun lexemes lexed => .semicolon lexed) stepped
  | @single start c list tokens alone others ih =>
    obtain ⟨code, derived, later⟩ := exists_code_of_run finished
    apply CodesCut.append derived (apart_single alone list) ?_ (ih later)
    intro j inside
    have first : j = 0 := by simpa using inside
    subst first
    exact .nothing
  | @number start digits list tokens nonempty ascii whole others ih =>
    obtain ⟨code, derived, later⟩ := exists_code_of_run finished
    obtain ⟨value, component⟩ := derived.component nonempty ascii
    apply CodesCut.append derived (apart_number whole) ?_ (ih later)
    intro j inside
    cases j with
    | zero => exact .nothing
    | succ j =>
      obtain ⟨less, number⟩ := component.take j
      have alone : Apart (digits.take (j + 1)) [] := nofun
      simpa using CodesCut.code (.number number) alone .nothing
  | @colour start ground inner list tokens inside others ih =>
    obtain ⟨code, derived, later⟩ := exists_code_of_run finished
    have split : bracketOpen ground :: inner ++ bracketClose ground :: list =
        bracketOpen ground :: inner ++ [bracketClose ground] ++ list := by
      simp
    rw [split]
    apply CodesCut.append derived (apart_colour ground inner list)
    · intro j less
      cases j with
      | zero => exact .nothing
      | succ j =>
        have short : j ≤ inner.length := by
          simp at less
          omega
        rw [List.cons_append, List.take_succ_cons, List.take_append_of_le_length short]
        exact .unclosed ground fun c member => inside c (List.mem_of_mem_take member)
    · intro j
      have place : start + (bracketOpen ground :: inner ++ [bracketClose ground]).length =
          start + inner.length + 2 := by
        simp [Nat.add_assoc]
      rw [place]
      exact ih later j
  | @unclosed start ground inner inside cut =>
    cases k with
    | zero => exact .nothing
    | succ k => exact .unclosed ground fun c member => inside c (List.mem_of_mem_take member)

end GitPrompt.Format
