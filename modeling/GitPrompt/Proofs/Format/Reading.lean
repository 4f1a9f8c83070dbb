import GitPrompt.Proofs.Format.Lexing
import GitPrompt.Proofs.Format.StyleCode

/-!
A text that derives a tree has tokens that are read as this tree.
-/
namespace GitPrompt.Format

theorem Sequence.ofItems_append (items : List (Text × Element)) (trailing : Text)
    (next : Sequence) :
    (ofItems items trailing).append next =
      items.foldr (fun item rest => .item item.1 item.2 rest) (next.lead trailing) := by
  induction items with
  | nil => rfl
  | cons item items ih =>
    simp only [ofItems, List.foldr_cons, Sequence.append] at ih ⊢
    rw [ih]

theorem Draft.sequence_add (draft : Draft) (element : Element) :
    (draft.add element).sequence = draft.sequence.append (.item [] element (.done [])) := by
  unfold Draft.sequence
  rw [Sequence.ofItems_append]
  simp [Draft.add, Sequence.ofItems, Sequence.lead]

theorem Draft.sequence_space (draft : Draft) (text : Text) :
    (draft.space text).sequence = draft.sequence.append (.done text) := by
  unfold Draft.sequence
  rw [Sequence.ofItems_append]
  rfl

def Draft.append (draft : Draft) : Sequence → Draft
  | .done trailing => draft.space trailing
  | .item separator element rest => ((draft.space separator).add element).append rest

theorem Draft.sequence_append (draft : Draft) (sequence : Sequence) :
    (draft.append sequence).sequence = draft.sequence.append sequence := by
  match sequence with
  | .done trailing => exact draft.sequence_space trailing
  | .item separator element rest =>
    have joined : (Sequence.done separator).append
        ((Sequence.item [] element (.done [])).append rest) = .item separator element rest := by
      rw [Sequence.item_append, Sequence.done_append, Sequence.done_append, Sequence.lead_nil,
        Sequence.lead, List.append_nil]
    rw [Draft.append, Draft.sequence_append _ rest, Draft.sequence_add, Draft.sequence_space,
      Sequence.append_assoc, Sequence.append_assoc, joined]

theorem Draft.sequence_empty_append (sequence : Sequence) :
    (Draft.empty.append sequence).sequence = sequence := by
  rw [Draft.sequence_append]
  exact Sequence.lead_nil sequence

namespace Reading

theorem run_of_step {reading next : Reading} {lexeme : Lexeme}
    (stepped : reading.step lexeme = .ok next) (rest : List Lexeme) :
    reading.run (lexeme :: rest) = next.run rest := by
  rw [run_cons, stepped]
  rfl

variable {levels : List Level} {draft : Draft}

theorem run_field (field : Field) (place : Nat) (rest : List Lexeme) :
    run ⟨levels, draft, .ready⟩ (⟨.field field.letter, place⟩ :: rest) =
      run ⟨levels, draft, .fieldRead field place⟩ rest := by
  apply run_of_step
  simp only [step, readElement, Field.ofLetter?_letter]

theorem run_fieldRead {field : Field} {offset : Nat} {lexeme : Lexeme}
    (bare : lexeme.token ≠ .parenOpen) (rest : List Lexeme) :
    run ⟨levels, draft, .fieldRead field offset⟩ (lexeme :: rest) =
      run ⟨levels, draft.add (.field field .nil offset), .ready⟩ (lexeme :: rest) := by
  rw [run_cons, run_cons]
  simp only [step, if_neg bare]
  rfl

theorem run_code {opened place : Nat} {before : List Style.Code} {semicolon : Option Nat}
    {text : Text} {code : Style.Code} (derived : CodeDerives code text) (rest : List Lexeme) :
    run ⟨levels, draft, .codes opened before semicolon⟩ (⟨.styleCode text, place⟩ :: rest) =
      run ⟨levels, draft, .codes opened (code :: before) none⟩ rest := by
  apply run_of_step
  simp only [step, readCodes, styleCode_eq_ok.mpr derived]

theorem run_semicolon {opened place : Nat} {before : List Style.Code} (nonempty : before ≠ [])
    (rest : List Lexeme) :
    run ⟨levels, draft, .codes opened before none⟩ (⟨.semicolon, place⟩ :: rest) =
      run ⟨levels, draft, .codes opened before (some place)⟩ rest := by
  apply run_of_step
  simp [step, readCodes, nonempty]

theorem run_body {opened place : Nat} {codes : List Style.Code} (nonempty : codes ≠ [])
    (rest : List Lexeme) :
    run ⟨levels, draft, .codes opened codes none⟩ (⟨.parenOpen, place⟩ :: rest) =
      run ⟨⟨.style codes, opened, draft⟩ :: levels, .empty, .ready⟩ rest := by
  apply run_of_step
  simp [step, readCodes, nonempty, enter]

theorem run_close (levels : List Level) (level : Level) (draft : Draft) (place : Nat)
    (rest : List Lexeme) :
    run ⟨level :: levels, draft, .ready⟩ (⟨.close level.opening.frame.closer, place⟩ :: rest) =
      run ⟨levels, level.outer.add (level.opening.element draft.sequence), .ready⟩ rest := by
  apply run_of_step
  simp only [step, readElement, stop, ↓reduceIte]

theorem run_comma {field : Field} {offset opened : Nat} {before : List Sequence} {outer : Draft}
    (place : Nat) (rest : List Lexeme) :
    run ⟨⟨.arguments field offset before, opened, outer⟩ :: levels, draft, .ready⟩
        (⟨.comma, place⟩ :: rest) =
      run ⟨⟨.arguments field offset (draft.sequence :: before), opened, outer⟩ :: levels, .empty,
        .ready⟩ rest := by
  apply run_of_step
  simp [step, readElement, stop]

end Reading

def Bare (lexemes : List Lexeme) : Prop :=
  ∃ lexeme rest, lexemes = lexeme :: rest ∧ lexeme.token ≠ .parenOpen

theorem Lexes.bare {frames : List Frame} {start : Nat} {text : Text} {lexemes : List Lexeme}
    (lexed : Lexes frames start text lexemes) (head : text.head? ≠ some '(') : Bare lexemes := by
  cases lexed with
  | paren others => exact absurd rfl head
  | _ => exact ⟨_, _, rfl, nofun⟩

theorem Component.inside {text : Text} {value : Nat} (component : Component text value)
    (ground : Style.Ground) : ∀ c ∈ text, c ≠ bracketClose ground ∧ c ≠ '(' := by
  intro c member
  have digit := component.digits c member
  refine ⟨?_, ?_⟩
  · rintro rfl
    cases ground <;> exact Bool.noConfusion digit
  · rintro rfl
    exact Bool.noConfusion digit

theorem CodeDerives.lex {code : Style.Code} {text list rest : Text} {start : Nat}
    {more : List Lexeme} (derived : CodeDerives code text) (apart : Apart text list)
    (others : CodesLex rest (start + text.length) list more) :
    CodesLex rest start (text ++ list) (⟨.styleCode text, start⟩ :: more) := by
  cases derived with
  | @letter letter code named =>
    have single : ∀ c ∈ codeLetters, isSingleCode c = true :=
      Text.forall_mem_of_all (by decide)
    exact .single (single letter (mem_codeLetters named)) others
  | number component =>
    refine .number component.nonempty component.digits ?_ others
    intro c next
    have last := List.getLast?_eq_some_getLast component.nonempty
    have digit := component.digits _ (List.getLast_mem component.nonempty)
    simpa [digit] using apart _ last c next
  | @rgb ground red green blue r g b first second third =>
    have comma : ',' ≠ bracketClose ground ∧ ',' ≠ '(' := by
      cases ground <;> decide
    have inside : ∀ c ∈ red ++ ',' :: green ++ ',' :: blue, c ≠ bracketClose ground ∧ c ≠ '(' := by
      intro c member
      simp only [List.append_assoc, List.cons_append, List.mem_append, List.mem_cons] at member
      rcases member with member | rfl | member | rfl | member
      · exact first.inside ground c member
      · exact comma
      · exact second.inside ground c member
      · exact comma
      · exact third.inside ground c member
    have place : start + (bracketOpen ground :: red ++ ',' :: green ++ ',' :: blue ++
        [bracketClose ground]).length =
          start + (red ++ ',' :: green ++ ',' :: blue).length + 2 := by
      simp
      omega
    rw [place] at others
    simpa using CodesLex.colour ground inside others

theorem CodesDerive.nonempty {codes : List Style.Code} {list : Text}
    (derived : CodesDerive codes list) : codes ≠ [] := by
  cases derived <;> simp

theorem CodesDerive.read {codes : List Style.Code} {list : Text}
    (derived : CodesDerive codes list) (rest : Text) (start : Nat) (levels : List Level)
    (draft : Draft) (opened : Nat) (before : List Style.Code) (semicolon : Option Nat)
    (more : List Lexeme) :
    ∃ tokens, CodesLex rest start list tokens ∧
      Reading.run ⟨levels, draft, .codes opened before semicolon⟩ (tokens ++ more) =
        Reading.run ⟨levels, draft, .codes opened (codes.reverse ++ before) none⟩ more := by
  induction derived generalizing start before semicolon with
  | @single code text first =>
    have apart : Apart text [] := by
      simp [Apart]
    refine ⟨[⟨.styleCode text, start⟩], ?_, Reading.run_code first more⟩
    simpa using first.lex apart .done
  | @divided code codes text rest first others ih =>
    have apart : Apart text (';' :: rest) := by
      intro c last d next
      cases next
      exact fun digits => Bool.noConfusion digits.2
    rcases ih (start + text.length + 1) (code :: before) _ with ⟨tokens, lexed, run⟩
    refine ⟨⟨.styleCode text, start⟩ :: ⟨.semicolon, start + text.length⟩ :: tokens, ?_, ?_⟩
    · exact first.lex apart (.semicolon lexed)
    · rw [List.cons_append, List.cons_append, Reading.run_code first,
        Reading.run_semicolon (List.cons_ne_nil code before), run]
      simp
  | @adjacent code codes text rest first others apart ih =>
    rcases ih (start + text.length) (code :: before) none with ⟨tokens, lexed, run⟩
    refine ⟨⟨.styleCode text, start⟩ :: tokens, first.lex apart lexed, ?_⟩
    rw [List.cons_append, Reading.run_code first, run]
    simp

theorem isFieldLetter_letter (field : Field) : isFieldLetter field.letter = true := by
  cases field with
  | branch => decide
  | tracking => decide
  | count which => cases which <;> decide

theorem letter_ne_g (field : Field) : field.letter ≠ 'g' := by
  cases field with
  | branch => decide
  | tracking => decide
  | count which => cases which <;> decide

theorem Arguments.ofList_toList (arguments : Arguments) :
    Arguments.ofList arguments.toList = arguments := by
  match arguments with
  | .nil => rfl
  | .cons argument rest =>
    rw [Arguments.toList, Arguments.ofList, Arguments.ofList_toList rest]

theorem Lexes.moved {frames : List Frame} {start place : Nat} {text : Text} {more : List Lexeme}
    (lexed : Lexes frames start text more) (equal : start = place) :
    Lexes frames place text more := equal ▸ lexed

theorem Element.Derives.head {alphabet : Text} {start : Nat} {element : Element} {text : Text}
    (derived : Element.Derives alphabet start element text) (rest : Text) :
    ∃ c ∈ ['\'', '\\', '#'], (text ++ rest).head? = some c := by
  match derived with
  | .literal _ => exact ⟨'\'', by simp, rfl⟩
  | .escaped _ => exact ⟨'\\', by simp, rfl⟩
  | .field _ => exact ⟨'\\', by simp, rfl⟩
  | .call _ _ => exact ⟨'\\', by simp, rfl⟩
  | .group kind _ => exact ⟨'\\', by simp, by cases kind <;> rfl⟩
  | .style _ _ => exact ⟨'#', by simp, rfl⟩

theorem Element.Derives.head_not_separates {alphabet : Text} {start : Nat} {element : Element}
    {text : Text} (derived : Element.Derives alphabet start element text) (rest : Text)
    (scope : Scope) : ∀ c ∈ (text ++ rest).head?, ¬ scope.Separates separators c := by
  rcases derived.head rest with ⟨c, start, head⟩
  rw [head]
  rintro d ⟨⟩ separates
  have others : ∀ c ∈ ['\'', '\\', '#'], c ∉ separators :=
    Text.forall_mem_of_all (by decide)
  cases scope with
  | free => exact others c start separates
  | argument => exact others c start separates.1

theorem Scope.Separates.ne_paren {scope : Scope} {c : Char}
    (separates : scope.Separates separators c) : c ≠ '(' := by
  rintro rfl
  cases scope <;> exact absurd separates (by decide)

theorem Sequence.Derives.bare {scope : Scope} {start : Nat} {sequence : Sequence} {text : Text}
    (derived : Sequence.Derives separators scope start sequence text) {rest : Text}
    (bare : rest.head? ≠ some '(') : (text ++ rest).head? ≠ some '(' := by
  match derived with
  | .done run =>
    cases text with
    | nil => exact bare
    | cons c text =>
      intro paren
      cases paren
      exact (run '(' (by simp)).ne_paren rfl
  | @Sequence.Derives.item _ _ _ separator first more element others run derived later =>
    cases separator with
    | nil =>
      rcases derived.head (more ++ rest) with ⟨c, start, head⟩
      rw [List.nil_append, List.append_assoc, head]
      rintro ⟨⟩
      exact absurd start (by decide)
    | cons c separator =>
      intro paren
      cases paren
      exact (run '(' (by simp)).ne_paren rfl

theorem read_run {frames : List Frame} {start : Nat} {text rest : Text} {more : List Lexeme}
    (run : ∀ c ∈ text, (Scope.within frames).Separates separators c)
    (whole : ∀ c ∈ rest.head?, ¬ (Scope.within frames).Separates separators c)
    (others : Lexes frames (start + text.length) rest more) (levels : List Level)
    (draft : Draft) :
    ∃ lexemes, Lexes frames start (text ++ rest) lexemes ∧
      Reading.run ⟨levels, draft, .ready⟩ lexemes =
        Reading.run ⟨levels, draft.space text, .ready⟩ more := by
  by_cases empty : text = []
  · subst empty
    refine ⟨more, others, ?_⟩
    simp [Draft.space]
  · exact ⟨_, .separator empty run whole others, Reading.run_of_step rfl more⟩

mutual
theorem Element.Derives.read {start : Nat} {element : Element} {text : Text}
    (derived : Element.Derives separators start element text) {frames : List Frame}
    {rest : Text} {more : List Lexeme} (bare : rest.head? ≠ some '(')
    (others : Lexes frames (start + text.length) rest more) (levels : List Level)
    (draft : Draft) :
    ∃ lexemes, Lexes frames start (text ++ rest) lexemes ∧
      Reading.run ⟨levels, draft, .ready⟩ lexemes =
        Reading.run ⟨levels, draft.add element, .ready⟩ more := by
  match derived with
  | @Element.Derives.literal _ _ text plain =>
    have moved : Lexes frames (start + text.length + 2) rest more :=
      others.moved (by simp; omega)
    refine ⟨⟨.literal text, start⟩ :: more, ?_, Reading.run_of_step rfl more⟩
    simpa using Lexes.literal plain moved
  | .escaped special =>
    exact ⟨_, .escaped special others, Reading.run_of_step rfl more⟩
  | .field field =>
    rcases others.bare bare with ⟨lexeme, later, rfl, other⟩
    refine ⟨_, .field (isFieldLetter_letter field) bare others, ?_⟩
    rw [Reading.run_field, Reading.run_fieldRead other]
  | @Element.Derives.call _ _ field arguments text inner =>
    have moved : Lexes frames (start + 3 + text.length + 1) rest more :=
      others.moved (by simp; omega)
    rcases inner.read moved levels draft field start (start + 2) [] with ⟨lexemes, lexed, run⟩
    refine ⟨⟨.field field.letter, start⟩ :: ⟨.parenOpen, start + 2⟩ :: lexemes, ?_, ?_⟩
    · simpa using Lexes.call (isFieldLetter_letter field) (letter_ne_g field) lexed
    · rw [List.reverse_nil, List.nil_append, Arguments.ofList_toList] at run
      rw [Reading.run_field, Reading.run_of_step rfl]
      exact run
  | @Element.Derives.group _ _ kind body text inner =>
    have moved : Lexes frames (start + kind.opener.length + text.length + 1) rest more :=
      others.moved (by simp; omega)
    have closed : Lexes (.group kind :: frames) (start + kind.opener.length + text.length)
        (kind.closer.char :: rest)
        (⟨.close kind.closer, start + kind.opener.length + text.length⟩ :: more) := by
      apply Lexes.close
      simpa [closeFrame, Frame.closer] using moved
    have ended : ∀ c ∈ (kind.closer.char :: rest).head?,
        ¬ Scope.free.Separates separators c ∧ c ≠ '(' := by
      rintro c ⟨⟩
      cases kind <;> decide
    let level : Level := ⟨.group kind, start, draft⟩
    rcases inner.read rfl ended closed (level :: levels) .empty with ⟨lexemes, lexed, run⟩
    refine ⟨⟨.groupOpen kind, start⟩ :: lexemes, ?_, ?_⟩
    · simpa using Lexes.group kind lexed
    · have finished := Reading.run_close levels level (Draft.empty.append body)
        (start + kind.opener.length + text.length) more
      rw [Draft.sequence_empty_append] at finished
      rw [Reading.run_of_step rfl]
      exact run.trans finished
  | @Element.Derives.style _ _ codes list body text listed inner =>
    have moved : Lexes frames (start + list.length + 2 + text.length + 1) rest more :=
      others.moved (by simp; omega)
    have closed : Lexes (.style :: frames) (start + list.length + 2 + text.length)
        (')' :: rest) (⟨.close .paren, start + list.length + 2 + text.length⟩ :: more) :=
      .close .paren moved
    have ended : ∀ c ∈ (')' :: rest).head?, ¬ Scope.free.Separates separators c ∧ c ≠ '(' := by
      rintro c ⟨⟩
      decide
    let level : Level := ⟨.style codes.reverse, start, draft⟩
    rcases inner.read rfl ended closed (level :: levels) .empty with ⟨lexemes, lexed, run⟩
    obtain ⟨tokens, spelled, coded⟩ := listed.read ('(' :: (text ++ ')' :: rest)) (start + 1) levels
      draft start [] none (⟨.parenOpen, start + list.length + 1⟩ :: lexemes)
    refine ⟨⟨.styleOpen, start⟩ :: tokens ++ ⟨.parenOpen, start + list.length + 1⟩ :: lexemes,
      ?_, ?_⟩
    · simpa using Lexes.style spelled lexed
    · have finished := Reading.run_close levels level (Draft.empty.append body)
        (start + list.length + 2 + text.length) more
      rw [Draft.sequence_empty_append] at finished
      have element : level.opening.element body = .style codes body := by
        simp [level, Opening.element]
      rw [element] at finished
      have some : codes.reverse ≠ [] := by simpa using listed.nonempty
      rw [List.cons_append, Reading.run_of_step rfl]
      rw [List.append_nil, Reading.run_body some] at coded
      exact coded.trans (run.trans finished)

theorem Sequence.Derives.read {scope : Scope} {start : Nat} {sequence : Sequence} {text : Text}
    (derived : Sequence.Derives separators scope start sequence text) {frames : List Frame}
    {rest : Text} {more : List Lexeme} (inside : Scope.within frames = scope)
    (ended : ∀ c ∈ rest.head?, ¬ scope.Separates separators c ∧ c ≠ '(')
    (others : Lexes frames (start + text.length) rest more) (levels : List Level)
    (draft : Draft) :
    ∃ lexemes, Lexes frames start (text ++ rest) lexemes ∧
      Reading.run ⟨levels, draft, .ready⟩ lexemes =
        Reading.run ⟨levels, draft.append sequence, .ready⟩ more := by
  match derived with
  | .done run =>
    subst inside
    exact read_run run (fun c next => (ended c next).1) others levels draft
  | @Sequence.Derives.item _ _ _ separator text next element rest' run first later =>
    subst inside
    have bare : (next ++ rest).head? ≠ some '(' := by
      apply later.bare
      intro paren
      exact (ended '(' paren).2 rfl
    obtain ⟨last, lastLexed, lastRun⟩ := later.read rfl ended
      (others.moved (by simp; omega)) levels ((draft.space separator).add element)
    rcases first.read bare lastLexed levels (draft.space separator) with
      ⟨middle, middleLexed, middleRun⟩
    rcases read_run run (first.head_not_separates (next ++ rest) _) middleLexed levels draft with
      ⟨lexemes, lexed, spaced⟩
    refine ⟨lexemes, ?_, spaced.trans (middleRun.trans lastRun)⟩
    simpa using lexed

theorem Arguments.Derives.read {start : Nat} {arguments : Arguments} {text : Text}
    (derived : Arguments.Derives separators start arguments text) {frames : List Frame}
    {rest : Text} {more : List Lexeme} (others : Lexes frames (start + text.length + 1) rest more)
    (levels : List Level) (outer : Draft) (field : Field) (offset opened : Nat)
    (before : List Sequence) :
    ∃ lexemes, Lexes (.arguments :: frames) start (text ++ ')' :: rest) lexemes ∧
      Reading.run ⟨⟨.arguments field offset before, opened, outer⟩ :: levels, .empty, .ready⟩
          lexemes =
        Reading.run ⟨levels, outer.add (.field field
          (Arguments.ofList (before.reverse ++ arguments.toList)) offset), .ready⟩ more := by
  have ended : ∀ (c : Char) (text : Text), c = ')' ∨ c = ',' → ∀ d ∈ (c :: text).head?,
      ¬ Scope.argument.Separates separators d ∧ d ≠ '(' := by
    rintro c text (rfl | rfl) d ⟨⟩ <;> decide
  match derived with
  | @Arguments.Derives.last _ _ argument text only =>
    have closed : Lexes (.arguments :: frames) (start + text.length) (')' :: rest)
        (⟨.close .paren, start + text.length⟩ :: more) := .close .paren others
    let level : Level := ⟨.arguments field offset before, opened, outer⟩
    rcases only.read rfl (ended ')' rest (.inl rfl)) closed (level :: levels) .empty with
      ⟨lexemes, lexed, run⟩
    have finished := Reading.run_close levels level (Draft.empty.append argument)
      (start + text.length) more
    rw [Draft.sequence_empty_append] at finished
    refine ⟨lexemes, lexed, run.trans (finished.trans ?_)⟩
    simp [level, Opening.element, Arguments.toList]
  | @Arguments.Derives.cons _ _ argument rest' text next first later =>
    have moved : Lexes frames (start + text.length + 1 + next.length + 1) rest more :=
      others.moved (by simp; omega)
    rcases later.read moved levels outer field offset opened (argument :: before) with
      ⟨last, lastLexed, lastRun⟩
    let level : Level := ⟨.arguments field offset before, opened, outer⟩
    obtain ⟨lexemes, lexed, run⟩ := first.read rfl (ended ',' (next ++ ')' :: rest) (.inr rfl))
      (.comma lastLexed) (level :: levels) .empty
    refine ⟨lexemes, ?_, ?_⟩
    · simpa using lexed
    · rw [run, Reading.run_comma, Draft.sequence_empty_append, lastRun]
      simp [Arguments.toList]
end

end GitPrompt.Format
