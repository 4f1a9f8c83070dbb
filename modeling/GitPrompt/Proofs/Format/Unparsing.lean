import GitPrompt.Proofs.Format.Respelling
import GitPrompt.Proofs.Format.Splitting
import GitPrompt.Proofs.Format.Tokens

/-!
What is written for the tree of a format is the format itself, with its lists of style codes spelled
once more.
-/
namespace GitPrompt.Format

def Opening.source : Opening → Text
  | .group kind => kind.opener
  | .arguments field _ before =>
    '\\' :: field.letter :: '(' :: before.reverse.flatMap fun argument => argument.source ++ [',']
  | .style codes => '#' :: codesSource codes.reverse ++ ['(']

def Phase.source : Phase → Text
  | .ready => []
  | .fieldRead field _ => ['\\', field.letter]
  | .codes _ before _ => '#' :: codesSource before.reverse

/-- What is written for a draft and the constructs around it. -/
def draftSource : List Level → Draft → Text
  | [], draft => draft.sequence.source
  | level :: outer, draft =>
    draftSource outer level.outer ++ level.opening.source ++ draft.sequence.source

def Reading.source (reading : Reading) : Text :=
  draftSource reading.levels reading.draft ++ reading.phase.source

section
variable (levels : List Level) (draft : Draft)

theorem draftSource_append {next : Draft} {sequence : Sequence}
    (drafted : next.sequence = draft.sequence.append sequence) :
    draftSource levels next = draftSource levels draft ++ sequence.source := by
  cases levels with
  | nil => rw [draftSource, draftSource, drafted, Sequence.source_append]
  | cons level outer =>
    rw [draftSource, draftSource, drafted, Sequence.source_append]
    exact (List.append_assoc _ _ _).symm

theorem draftSource_add (element : Element) :
    draftSource levels (draft.add element) = draftSource levels draft ++ element.source := by
  rw [draftSource_append levels draft (draft.sequence_add element)]
  simp [Sequence.source]

theorem draftSource_space (run : Text) :
    draftSource levels (draft.space run) = draftSource levels draft ++ run :=
  draftSource_append levels draft (draft.sequence_space run)

theorem draftSource_enter (opening : Opening) (opened : Nat) :
    draftSource (⟨opening, opened, draft⟩ :: levels) .empty =
      draftSource levels draft ++ opening.source :=
  List.append_nil _

end

theorem codesSource_concat (codes : List Style.Code) (code : Style.Code) :
    codesSource (codes ++ [code]) =
      codesSource codes ++ (if codes = [] then [] else [';']) ++ code.source := by
  induction codes with
  | nil => simp [codesSource, Text.joined, List.intercalate]
  | cons first rest ih =>
    cases rest with
    | nil => simp [codesSource, Text.joined, List.intercalate]
    | cons second more =>
      rw [List.cons_append, List.cons_append, codesSource_cons, codesSource_cons,
        ← List.cons_append, ih]
      simp

theorem Arguments.source_ofList (before : List Sequence) (last : Sequence) :
    (Arguments.ofList (before ++ [last])).source =
      '(' :: before.flatMap (fun argument => argument.source ++ [',']) ++ last.source ++ [')'] := by
  have tail : ∀ before : List Sequence, (Arguments.ofList (before ++ [last])).tailSource =
      ',' :: before.flatMap (fun argument => argument.source ++ [',']) ++ last.source ++ [')'] := by
    intro before
    induction before with
    | nil => simp [Arguments.ofList, Arguments.tailSource]
    | cons argument before ih => simp [Arguments.ofList, Arguments.tailSource, ih]
  cases before with
  | nil => simp [Arguments.ofList, Arguments.source, Arguments.tailSource]
  | cons argument before => simp [Arguments.ofList, Arguments.source, tail]

theorem Opening.source_element (opening : Opening) (last : Sequence) :
    (opening.element last).source =
      opening.source ++ last.source ++ [opening.frame.closer.char] := by
  cases opening with
  | group kind => rfl
  | arguments field offset before =>
    simp [element, Element.source, Arguments.source_ofList, source, frame, Frame.closer,
      Closer.char]
  | style codes => simp [element, Element.source, source, frame, Frame.closer, Closer.char]

def Phase.behindCode : Phase → Bool
  | .codes _ before _ => !before.isEmpty
  | _ => false

def spelling (tokens : List Token) : Text := tokens.flatMap Token.source

def Token.Spelled : Token → Prop
  | .literal text => ∀ c ∈ text, c ≠ '\'' ∧ c ≠ '\\'
  | .escaped c => c = '\'' ∨ c = '\\'
  | _ => True

theorem Reading.Moves.behindCode {reading next : Reading} {lexeme : Lexeme}
    (moves : Moves reading lexeme next) :
    next.phase.behindCode = lexeme.token.leavesCode reading.phase.behindCode := by
  induction moves with
  | bare other moves ih => exact ih
  | _ => rfl

theorem spelling_outside {token : Token} (outside : token.Outside) (behind : Bool) :
    spelling (token.respelled behind) = token.source := by
  cases token with
  | styleCode text => exact absurd rfl (outside.1 text)
  | semicolon => exact absurd rfl outside.2
  | _ => exact List.append_nil _

theorem Reading.source_ready (levels : List Level) (draft : Draft) :
    Reading.source ⟨levels, draft, .ready⟩ = draftSource levels draft := List.append_nil _

theorem Reading.Moves.source {reading next : Reading} {lexeme : Lexeme}
    (moves : Moves reading lexeme next) (spelled : lexeme.token.Spelled) :
    next.source = reading.source ++ spelling (lexeme.token.respelled reading.phase.behindCode) := by
  induction moves with
  | @space levels draft text place =>
    have kept : Token.Outside (.separator text) := ⟨fun _ => Token.noConfusion, Token.noConfusion⟩
    rw [source_ready, source_ready, draftSource_space, spelling_outside kept]
    rfl
  | @literal levels draft text place =>
    have kept : Token.Outside (.literal text) := ⟨fun _ => Token.noConfusion, Token.noConfusion⟩
    rw [source_ready, source_ready, draftSource_add, spelling_outside kept, Element.source,
      literalSource_free spelled]
    rfl
  | @escaped levels draft c place =>
    have kept : Token.Outside (.escaped c) := ⟨fun _ => Token.noConfusion, Token.noConfusion⟩
    rw [source_ready, source_ready, draftSource_add, spelling_outside kept, Element.source,
      literalSource_special spelled]
    rfl
  | @field levels draft field place =>
    have kept : Token.Outside (.field field.letter) :=
      ⟨fun _ => Token.noConfusion, Token.noConfusion⟩
    rw [source_ready, spelling_outside kept]
    rfl
  | @arguments levels draft field offset place =>
    have kept : Token.Outside .parenOpen := ⟨fun _ => Token.noConfusion, Token.noConfusion⟩
    rw [source_ready, draftSource_enter, spelling_outside kept]
    simp [Reading.source, Opening.source, Phase.source, Token.source, Token.text]
  | @bare levels draft field offset lexeme next other moves ih =>
    have ended : Reading.source ⟨levels, draft.add (.field field .nil offset), .ready⟩ =
        Reading.source ⟨levels, draft, .fieldRead field offset⟩ := by
      rw [source_ready, draftSource_add]
      rfl
    rw [ih spelled, ended]
    rfl
  | @group levels draft kind place =>
    have kept : Token.Outside (.groupOpen kind) := ⟨fun _ => Token.noConfusion, Token.noConfusion⟩
    rw [source_ready, source_ready, draftSource_enter, spelling_outside kept]
    rfl
  | @style levels draft place =>
    have kept : Token.Outside .styleOpen := ⟨fun _ => Token.noConfusion, Token.noConfusion⟩
    rw [source_ready, spelling_outside kept]
    rfl
  | @code levels draft opened codes semicolon text code derived place =>
    have added : codesSource (code :: codes).reverse =
        codesSource codes.reverse ++ (if codes = [] then [] else [';']) ++ code.source := by
      rw [List.reverse_cons, codesSource_concat]
      simp
    simp only [Reading.source, Phase.source, added, ← derived.unpadded]
    cases codes <;> simp [spelling, Token.respelled, Phase.behindCode, Token.source, Token.text]
  | semicolon nonempty place => exact (List.append_nil _).symm
  | @body levels draft opened codes nonempty place =>
    have kept : Token.Outside .parenOpen := ⟨fun _ => Token.noConfusion, Token.noConfusion⟩
    rw [source_ready, draftSource_enter, spelling_outside kept]
    simp [Reading.source, Opening.source, Phase.source, Token.source, Token.text]
  | @close levels draft level place =>
    have kept : Token.Outside (.close level.opening.frame.closer) :=
      ⟨fun _ => Token.noConfusion, Token.noConfusion⟩
    rw [source_ready, source_ready, draftSource_add, spelling_outside kept,
      Opening.source_element]
    simp [draftSource, Token.source, Token.text]
  | @comma levels draft outer field offset opened before place =>
    have kept : Token.Outside .comma := ⟨fun _ => Token.noConfusion, Token.noConfusion⟩
    rw [source_ready, source_ready, draftSource_enter, spelling_outside kept]
    simp [draftSource, Opening.source, Token.source, Token.text]
  | @finish draft place =>
    have kept : Token.Outside .endOfInput := ⟨fun _ => Token.noConfusion, Token.noConfusion⟩
    rw [spelling_outside kept]
    exact (List.append_nil _).symm

theorem Reading.source_of_run {reading final : Reading} {lexemes : List Lexeme}
    (spelled : ∀ lexeme ∈ lexemes, lexeme.token.Spelled)
    (finished : reading.run lexemes = .ok final) :
    final.source =
      reading.source ++ spelling (respell reading.phase.behindCode (lexemes.map Lexeme.token)) := by
  induction lexemes generalizing reading with
  | nil =>
    cases finished
    exact (List.append_nil _).symm
  | cons lexeme rest ih =>
    simp only [List.mem_cons, forall_eq_or_imp] at spelled
    obtain ⟨next, moves, later⟩ := moves_of_run finished
    rw [ih spelled.2 later, moves.source spelled.1, moves.behindCode]
    simp [spelling, respell]

inductive Quoting
  | quoted | escaped | outside
  deriving DecidableEq, Repr

def unquoted : Quoting → Text → Text
  | _, [] => []
  | .quoted, c :: rest => unquoted (if c = '\'' then .outside else .quoted) rest
  | .escaped, c :: rest => c :: unquoted .outside rest
  | .outside, c :: rest =>
    if c = '\'' then unquoted .quoted rest
    else c :: unquoted (if c = '\\' then .escaped else .outside) rest

theorem unquoted_plain {text : Text} (plain : ∀ c ∈ text, c ≠ '\'' ∧ c ≠ '\\') (rest : Text) :
    unquoted .outside (text ++ rest) = text ++ unquoted .outside rest := by
  induction text with
  | nil => rfl
  | cons c text ih =>
    simp only [List.mem_cons, forall_eq_or_imp] at plain
    simp [unquoted, plain.1, ih plain.2]

theorem unquoted_literal {text : Text} (plain : ∀ c ∈ text, c ≠ '\'' ∧ c ≠ '\\') (rest : Text) :
    unquoted .outside ('\'' :: text ++ '\'' :: rest) = unquoted .outside rest := by
  have inside : unquoted .quoted (text ++ '\'' :: rest) = unquoted .outside rest := by
    induction text with
    | nil => simp [unquoted]
    | cons c text ih =>
      simp only [List.mem_cons, forall_eq_or_imp] at plain
      simp [unquoted, plain.1, ih plain.2]
  simpa [unquoted] using inside

theorem plain_closer (closer : Closer) : closer.char ≠ '\'' ∧ closer.char ≠ '\\' := by
  cases closer <;> decide

theorem Scope.Separates.plain {scope : Scope} {c : Char}
    (separates : scope.Separates separators c) : c ≠ '\'' ∧ c ≠ '\\' := by
  have all : ∀ c ∈ separators, c ≠ '\'' ∧ c ≠ '\\' := Text.forall_mem_of_all (by decide)
  cases scope with
  | free => exact all c separates
  | argument => exact all c separates.1

theorem Lexes.respell_unstyled {frames : List Frame} {start : Nat} {text : Text}
    {lexemes : List Lexeme} (lexed : Lexes frames start text lexemes)
    (unstyled : '#' ∉ unquoted .outside text) :
    respell false (lexemes.map Lexeme.token) = lexemes.map Lexeme.token := by
  have plainly : ∀ {text rest : Text}, (∀ c ∈ text, c ≠ '\'' ∧ c ≠ '\\') →
      '#' ∉ unquoted .outside (text ++ rest) → '#' ∉ unquoted .outside rest := by
    intro text rest plain outside member
    rw [unquoted_plain plain] at outside
    exact outside (List.mem_append_right text member)
  have single : ∀ {c : Char} {rest : Text}, c ≠ '\'' ∧ c ≠ '\\' →
      '#' ∉ unquoted .outside (c :: rest) → '#' ∉ unquoted .outside rest := by
    intro c rest plain
    have alone : ∀ d ∈ [c], d ≠ '\'' ∧ d ≠ '\\' := by simpa using plain
    exact plainly alone
  have escaped : ∀ {c : Char} {rest : Text}, '#' ∉ unquoted .outside ('\\' :: c :: rest) →
      '#' ∉ unquoted .outside rest := by
    intro c rest outside
    simp only [unquoted, List.mem_cons, not_or, Char.reduceEq, ↓reduceIte] at outside
    exact outside.2.2
  induction lexed with
  | done => rfl
  | @literal frames start text rest more plain others ih =>
    rw [unquoted_literal plain] at unstyled
    exact congrArg (Token.literal text :: ·) (ih unstyled)
  | @escaped frames start c rest more special others ih =>
    exact congrArg (Token.escaped c :: ·) (ih (escaped unstyled))
  | @field frames start c rest more letter bare others ih =>
    exact congrArg (Token.field c :: ·) (ih (escaped unstyled))
  | @call frames start c rest more letter other others ih =>
    have later := ih (single (by decide) (escaped unstyled))
    exact congrArg (Token.field c :: Token.parenOpen :: ·) later
  | @group frames start kind rest more others ih =>
    have inside : '#' ∉ unquoted .outside rest := by
      cases kind with
      | bare => exact single (by decide) (escaped unstyled)
      | _ => exact escaped unstyled
    exact congrArg (Token.groupOpen kind :: ·) (ih inside)
  | style listed others ih => exact absurd List.mem_cons_self unstyled
  | codes listed bodiless others ih => exact absurd List.mem_cons_self unstyled
  | @close frames start closer rest more others ih =>
    have later := ih (single (plain_closer closer) unstyled)
    exact congrArg (Token.close closer :: ·) later
  | comma others ih =>
    exact congrArg (Token.comma :: ·) (ih (single (by decide) unstyled))
  | @separator frames start text rest more nonempty run whole others ih =>
    have later := ih (plainly (fun c member => (run c member).plain) unstyled)
    exact congrArg (Token.separator text :: ·) later
  | paren others ih =>
    exact congrArg (Token.parenOpen :: ·) (ih (single (by decide) unstyled))
  | @stray frames start c rest more unknown others ih =>
    have plain : c ≠ '\'' ∧ c ≠ '\\' := by
      simp only [isStray, Bool.and_eq_true, bne_iff_ne, ne_eq] at unknown
      exact ⟨unknown.1.1.1.1.1, unknown.1.1.1.1.2⟩
    exact congrArg (Token.unknown c :: ·) (ih (single plain unstyled))

theorem Token.Sound.spelled {token : Token} (sound : token.Sound) : token.Spelled := by
  cases token with
  | literal text => exact sound
  | escaped c => exact sound
  | _ => exact trivial

theorem Lexes.spelled {frames : List Frame} {start : Nat} {text : Text} {lexemes : List Lexeme}
    (lexed : Lexes frames start text lexemes) : ∀ lexeme ∈ lexemes, lexeme.token.Spelled := by
  intro lexeme member
  by_cases ended : lexeme.token = .endOfInput
  · rw [ended]
    trivial
  · exact (lexed.sound_of_mem member ended).spelled

theorem Reading.Moves.coded {reading next : Reading} {lexeme : Lexeme}
    (moves : Moves reading lexeme next) {text : Text} (code : lexeme.token = .styleCode text) :
    ∃ code, CodeDerives code text := by
  induction moves with
  | bare other moves ih => exact ih code
  | code derived place =>
    cases code
    exact ⟨_, derived⟩
  | _ => cases code

theorem Reading.coded_of_run {reading final : Reading} {lexemes : List Lexeme}
    (finished : reading.run lexemes = .ok final) : Coded lexemes := by
  induction lexemes generalizing reading with
  | nil => exact nofun
  | cons lexeme rest ih =>
    obtain ⟨next, moves, later⟩ := moves_of_run finished
    exact List.forall_mem_cons.mpr ⟨fun text code => moves.coded code, ih later⟩

theorem written_eq_spelling (lexemes : List Lexeme) :
    written lexemes = spelling (lexemes.map Lexeme.token) :=
  (List.flatMap_map ..).symm

/-- What is written for the tree of a format has the tokens of the format, but for semicolons and
for zeros in front of numbers. It has one semicolon between two codes of a style. A format without
styles is written as it stands. -/
theorem tokenize_source_of_parse {source : Text} {tree : Sequence}
    (parsed : parse source = .ok tree) :
    ∃ before after, tokenize source = .ok before ∧ tokenize tree.source = .ok after ∧
      significant (after.map Lexeme.token) = significant (before.map Lexeme.token) ∧
      Divided (after.map Lexeme.token) ∧
      ('#' ∉ unquoted .outside source → tree.source = source) := by
  obtain ⟨before, lexed, finished⟩ := (parse_eq_ok_iff.mp parsed).run
  obtain ⟨spelled, after, relexed, same, -⟩ := lexed.respelled (Reading.coded_of_run finished) 0
  have source_eq : tree.source = spelling (respell false (before.map Lexeme.token)) := by
    have read := Reading.source_of_run lexed.spelled finished
    rw [Reading.source_ready, draftSource, Draft.sequence_empty_append] at read
    exact read
  have respelled : spelled = tree.source := by
    rw [← relexed.layout.1, written_eq_spelling, same, source_eq]
  subst respelled
  refine ⟨before, after, tokenize_eq_ok_iff.mpr lexed, tokenize_eq_ok_iff.mpr relexed, ?_, ?_, ?_⟩
  · rw [same, significant_respell]
  · exact same ▸ divided_respell false _
  · intro unstyled
    rw [source_eq, lexed.respell_unstyled unstyled, ← written_eq_spelling, lexed.layout.1]

theorem tokenize_source_of_parse_colours :
    (∃ tree before after, parse "#007b;[01,2,3](\\b)".toList = .ok tree ∧
      tree.source = "#7;b;[1,2,3](\\b)".toList ∧
      tokenize "#007b;[01,2,3](\\b)".toList = .ok before ∧ tokenize tree.source = .ok after ∧
      significant (after.map Lexeme.token) = significant (before.map Lexeme.token) ∧
      Divided (after.map Lexeme.token)) ∧
    ∃ tree, parse "'#'\\'|\\b".toList = .ok tree ∧ '#' ∉ unquoted .outside "'#'\\'|\\b".toList ∧
      tree.source = "'#'\\'|\\b".toList := by
  constructor
  · have parsed : parse "#007b;[01,2,3](\\b)".toList = .ok (.item []
        (.style [.indexed 7, .named .fore .blue, .rgb .fore 1 2 3]
          (.item [] (.field .branch .nil 15) (.done []))) (.done [])) := rfl
    obtain ⟨before, after, tokenized, again, same, divided, -⟩ := tokenize_source_of_parse parsed
    exact ⟨_, before, after, parsed, rfl, tokenized, again, same, divided⟩
  · have parsed : parse "'#'\\'|\\b".toList = .ok (.item [] (.literal ['#'])
        (.item [] (.literal ['\'']) (.item ['|'] (.field .branch .nil 6) (.done [])))) := rfl
    have unstyled : '#' ∉ unquoted .outside "'#'\\'|\\b".toList := by decide
    obtain ⟨before, after, tokenized, again, same, divided, kept⟩ := tokenize_source_of_parse parsed
    exact ⟨_, parsed, unstyled, kept unstyled⟩

end GitPrompt.Format
