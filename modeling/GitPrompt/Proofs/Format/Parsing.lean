import GitPrompt.Proofs.Format.CodeList
import GitPrompt.Proofs.Format.Rounds

/-!
A format is read as a tree exactly when it derives that tree. Where it is not read, what stands
before the error can still become a format.
-/
namespace GitPrompt.Format

inductive Earlier (start : Nat) : List Sequence → Text → Prop
  | none : Earlier start [] []
  | one {before : List Sequence} {argument : Sequence} {text more : Text}
      (others : Earlier start before text)
      (last : Sequence.Derives separators .argument (start + text.length) argument more) :
      Earlier start (argument :: before) (text ++ more ++ [','])

theorem Earlier.derives {start : Nat} {before : List Sequence} {text : Text}
    (earlier : Earlier start before text) {arguments : Arguments} {more : Text}
    (later : Arguments.Derives separators (start + text.length) arguments more) :
    Arguments.Derives separators start (Arguments.ofList (before.reverse ++ arguments.toList))
      (text ++ more) := by
  induction earlier generalizing arguments more with
  | none =>
    rw [List.reverse_nil, List.nil_append, Arguments.ofList_toList]
    exact later
  | @one before argument text next others last ih =>
    have place : start + (text ++ next ++ [',']).length =
        start + text.length + next.length + 1 := by
      simp
      omega
    rw [place] at later
    have joined := ih (.cons last later)
    simpa [Arguments.toList] using joined

def Opening.Opens (start : Nat) : Opening → Text → Prop
  | .group kind, text => text = kind.opener
  | .arguments field offset before, text =>
    offset = start ∧ ∃ earlier, Earlier (start + 3) before earlier ∧
      text = '\\' :: field.letter :: '(' :: earlier
  | .style codes, text => ∃ list, CodesDerive codes.reverse list ∧ text = '#' :: list ++ ['(']

/-- The text that leads to a stack of open constructs and the draft inside them. -/
def Reached : List Level → Draft → Text → Prop
  | [], draft, text => Sequence.Derives separators .free 0 draft.sequence text
  | level :: outer, draft, text =>
    ∃ before opening inner, text = before ++ opening ++ inner ∧
      Reached outer level.outer before ∧ level.opening.Opens before.length opening ∧
      Sequence.Derives separators (Scope.within [level.opening.frame])
        (before.length + opening.length) draft.sequence inner

def frames (levels : List Level) : List Frame := levels.map fun level => level.opening.frame

theorem within_frames (level : Level) (outer : List Level) :
    Scope.within (frames (level :: outer)) = Scope.within [level.opening.frame] := by
  cases opening : level.opening <;> simp [frames, opening, Opening.frame, Scope.within]

theorem Reached.append {levels : List Level} {draft next : Draft} {text more : Text}
    {sequence : Sequence} (reached : Reached levels draft text)
    (later : Sequence.Derives separators (Scope.within (frames levels)) text.length sequence more)
    (drafted : next.sequence = draft.sequence.append sequence) :
    Reached levels next (text ++ more) := by
  cases levels with
  | nil =>
    have derived : Sequence.Derives separators .free 0 draft.sequence text := reached
    have place : text.length = 0 + text.length := by omega
    rw [place] at later
    simp only [Reached, drafted]
    exact derived.append later
  | cons level outer =>
    rcases reached with ⟨before, opening, inner, rfl, reached, opens, derived⟩
    rw [within_frames] at later
    have place : (before ++ opening ++ inner).length =
        before.length + opening.length + inner.length := by
      simp [Nat.add_assoc]
    rw [place] at later
    refine ⟨before, opening, inner ++ more, by simp, reached, opens, ?_⟩
    rw [drafted]
    exact derived.append later

theorem Reached.add {levels : List Level} {draft : Draft} {text more : Text} {element : Element}
    (reached : Reached levels draft text)
    (derived : Element.Derives separators text.length element more) :
    Reached levels (draft.add element) (text ++ more) :=
  reached.append derived.single (draft.sequence_add element)

theorem Reached.space {levels : List Level} {draft : Draft} {text run : Text}
    (reached : Reached levels draft text)
    (separates : ∀ c ∈ run, (Scope.within (frames levels)).Separates separators c) :
    Reached levels (draft.space run) (text ++ run) :=
  reached.append (.done separates) (draft.sequence_space run)

theorem Reached.enter {levels : List Level} {draft : Draft} {text opening : Text}
    {level : Level} (reached : Reached levels draft text) (outer : level.outer = draft)
    (opens : level.opening.Opens text.length opening) :
    Reached (level :: levels) .empty (text ++ opening) := by
  exact ⟨text, opening, [], by simp, outer ▸ reached, opens, Sequence.Derives.nothing⟩

theorem Reached.comma {levels : List Level} {draft outer : Draft} {text : Text} {field : Field}
    {offset opened : Nat} {earlier : List Sequence}
    (reached : Reached (⟨.arguments field offset earlier, opened, outer⟩ :: levels) draft text) :
    Reached (⟨.arguments field offset (draft.sequence :: earlier), opened, outer⟩ :: levels)
      .empty (text ++ [',']) := by
  rcases reached with ⟨before, opening, inner, rfl, reached, ⟨placed, text, read, rfl⟩, derived⟩
  have place : before.length + ('\\' :: field.letter :: '(' :: text).length =
      before.length + 3 + text.length := by
    simp
    omega
  rw [place] at derived
  exact ⟨before, '\\' :: field.letter :: '(' :: (text ++ inner ++ [',']), [], by simp, reached,
    ⟨placed, text ++ inner ++ [','], .one read derived, rfl⟩, Sequence.Derives.nothing⟩

theorem Reached.close {levels : List Level} {level : Level} {draft : Draft} {text : Text}
    (reached : Reached (level :: levels) draft text) :
    Reached levels (level.outer.add (level.opening.element draft.sequence))
      (text ++ [level.opening.frame.closer.char]) := by
  rcases reached with ⟨before, opening, inner, rfl, reached, opens, derived⟩
  have element : Element.Derives separators before.length
      (level.opening.element draft.sequence)
      (opening ++ inner ++ [level.opening.frame.closer.char]) := by
    rcases level with ⟨kind, opened, outer⟩
    cases kind with
    | group kind =>
      cases opens
      have scope : Scope.within [Frame.group kind] = .free := rfl
      exact .group kind (scope ▸ derived)
    | arguments field offset earlier =>
      rcases opens with ⟨rfl, text, read, rfl⟩
      have place : before.length + ('\\' :: field.letter :: '(' :: text).length =
          before.length + 3 + text.length := by
        simp
        omega
      rw [place] at derived
      have whole := read.derives (.last derived)
      simpa [Arguments.toList, Opening.element, Opening.frame, Frame.closer, Closer.char] using
        Element.Derives.call field whole
    | style codes =>
      rcases opens with ⟨list, listed, rfl⟩
      have place : before.length + ('#' :: list ++ ['(']).length =
          before.length + list.length + 2 := by
        simp
        omega
      rw [place] at derived
      simpa [Opening.element, Opening.frame, Frame.closer, Closer.char] using
        Element.Derives.style listed derived
  simpa using reached.add element

namespace Reading

theorem run_of_stop {reading : Reading} {lexeme : Lexeme} {error : FormatError}
    (stopped : reading.step lexeme = .error error) (rest : List Lexeme) :
    reading.run (lexeme :: rest) = .error error := by
  rw [run_cons, stopped]
  rfl

variable (levels : List Level) (draft : Draft) (place : Nat) (rest : List Lexeme)

theorem run_letter (letter : Char) :
    (∃ fault, run ⟨levels, draft, .ready⟩ (⟨.field letter, place⟩ :: rest) =
      .error ⟨fault, place⟩) ∨
    ∃ field : Field, field.letter = letter ∧
      run ⟨levels, draft, .ready⟩ (⟨.field letter, place⟩ :: rest) =
        run ⟨levels, draft, .fieldRead field place⟩ rest := by
  cases known : Field.ofLetter? letter with
  | none =>
    refine .inl ⟨.unknownField letter, run_of_stop ?_ rest⟩
    simp only [step, readElement, known]
  | some field =>
    have named := Field.letter_of_ofLetter? known
    subst named
    exact .inr ⟨field, rfl, run_field field place rest⟩

theorem run_closer (closer : Closer) :
    (∃ fault, run ⟨levels, draft, .ready⟩ (⟨.close closer, place⟩ :: rest) =
      .error ⟨fault, place⟩) ∨
    ∃ level outer, levels = level :: outer ∧ level.opening.frame.closer = closer ∧
      run ⟨levels, draft, .ready⟩ (⟨.close closer, place⟩ :: rest) =
        run ⟨outer, level.outer.add (level.opening.element draft.sequence), .ready⟩ rest := by
  cases levels with
  | nil => exact .inl ⟨.closesNothing (.close closer), rfl⟩
  | cons level outer =>
    by_cases fits : level.opening.frame.closer = closer
    · subst fits
      exact .inr ⟨level, outer, rfl, rfl, run_close outer level draft place rest⟩
    · have other : ¬ closer = level.opening.frame.closer := fun equal => fits equal.symm
      refine .inl ⟨.unclosed level.opening.frame level.opened (.close closer), ?_⟩
      apply run_of_stop
      cases opening : level.opening <;> rw [opening] at other <;>
        simp [step, readElement, stop, opening, other]

theorem run_end :
    (∃ fault, fault.kind = .unmatchedDelimiter ∧
      run ⟨levels, draft, .ready⟩ [⟨.endOfInput, place⟩] = .error ⟨fault, place⟩) ∨
    levels = [] ∧
      run ⟨levels, draft, .ready⟩ [⟨.endOfInput, place⟩] = .ok ⟨[], draft, .ready⟩ := by
  cases levels with
  | nil => exact .inr ⟨rfl, rfl⟩
  | cons level outer =>
    refine .inl ⟨.unclosed level.opening.frame level.opened .endOfInput, rfl, ?_⟩
    apply run_of_stop
    cases opening : level.opening <;> simp [step, readElement, stop, opening]

end Reading

/-- A text that some format begins with. -/
def Begins (text : Text) : Prop :=
  ∃ more tree, Sequence.Derives separators .free 0 tree (text ++ more)

theorem Reached.begins {levels : List Level} {draft : Draft} {text : Text}
    (reached : Reached levels draft text) : Begins text := by
  induction levels generalizing draft text with
  | nil =>
    have derived : Sequence.Derives separators .free 0 draft.sequence text := reached
    exact ⟨[], draft.sequence, by simpa using derived⟩
  | cons level outer ih =>
    rcases ih reached.close with ⟨more, tree, derived⟩
    exact ⟨level.opening.frame.closer.char :: more, tree, by simpa using derived⟩

/-- A text is read as its tree, or it has an error with the beginning of a good format before
it. -/
def Comes (before text : Text) (outcome : Except FormatError Reading) : Prop :=
  (∃ result, outcome = .ok result ∧
      Sequence.Derives separators .free 0 result.draft.sequence (before ++ text)) ∨
    ∃ error read unread, outcome = .error error ∧ text = read ++ unread ∧
      error.offset = before.length + read.length ∧ Begins (before ++ read)

theorem Comes.later {before read text : Text} {outcome : Except FormatError Reading}
    (comes : Comes (before ++ read) text outcome) : Comes before (read ++ text) outcome := by
  rcases comes with ⟨result, finished, derived⟩ | ⟨error, next, unread, stopped, rfl, place, begins⟩
  · exact .inl ⟨result, finished, by simpa using derived⟩
  · refine .inr ⟨error, read ++ next, unread, stopped, by simp, ?_, by simpa using begins⟩
    rw [place]
    simp [Nat.add_assoc]

theorem Reached.stops {levels : List Level} {draft : Draft} {before text : Text}
    (reached : Reached levels draft before) (fault : Fault) :
    Comes before text (.error ⟨fault, before.length⟩) :=
  .inr ⟨_, [], text, rfl, rfl, rfl, by simpa using reached.begins⟩

theorem Reached.style {levels : List Level} {draft : Draft} {before list : Text}
    {codes : List Style.Code} (reached : Reached levels draft before)
    (listed : CodesDerive codes list) :
    Reached (⟨.style codes.reverse, before.length, draft⟩ :: levels) .empty
      (before ++ ('#' :: list ++ ['('])) := by
  refine reached.enter rfl ⟨list, ?_, rfl⟩
  rwa [List.reverse_reverse]

theorem codesDerive_of_follow {codes : List Style.Code} {semicolon : Option Nat} {list : Text}
    (follow : CodesFollow [] semicolon codes list) : CodesDerive codes list := by
  rcases follow with derived | ⟨some, -, -⟩
  · exact derived
  · exact absurd rfl some

theorem Reached.breaks {levels : List Level} {draft : Draft} {before list text : Text}
    {error : FormatError} (reached : Reached levels draft before)
    (breaks : ListBreaks [] none (before.length + 1) list error.offset) :
    Comes before ('#' :: list ++ text) (.error error) := by
  rcases breaks with ⟨read, unread, codes, rfl, place, follow⟩
  rcases (reached.style (codesDerive_of_follow follow)).begins with ⟨more, tree, derived⟩
  refine .inr ⟨error, '#' :: read, unread ++ text, rfl, by simp, ?_, ?_⟩
  · rw [place, List.length_cons]
    omega
  · exact ⟨spareCode ++ '(' :: more, tree, by simpa using derived⟩

theorem Lexes.head {frames : List Frame} {start : Nat} {text : Text} {lexemes : List Lexeme}
    (lexed : Lexes frames start text lexemes)
    (bodiless : ∀ c ∈ text.head?, c ∈ codesEnd ∧ c ≠ '(') :
    ∃ found more, lexemes = found :: more ∧ found.offset = start ∧ EndsCodes found ∧
      found.token ≠ .parenOpen := by
  cases lexed with
  | paren others => exact absurd rfl (bodiless '(' rfl).2
  | _ => exact ⟨_, _, rfl, rfl, ⟨nofun, nofun⟩, nofun⟩

/-- What the tokens of a text come to, after any text that leads to the constructs around it. -/
def Goes (stack : List Frame) (start : Nat) (text : Text) (lexemes : List Lexeme) : Prop :=
  ∀ levels draft before, Reached levels draft before → stack = frames levels →
    start = before.length → Comes before text (Reading.run ⟨levels, draft, .ready⟩ lexemes)

namespace Goes

variable {stack : List Frame} {start : Nat} {text rest list : Text} {c : Char}
  {codes more : List Lexeme}

theorem done : Goes stack start [] [⟨.endOfInput, start⟩] := by
  rintro levels draft before reached - rfl
  rcases Reading.run_end levels draft before.length with ⟨fault, -, stopped⟩ | ⟨rfl, finished⟩
  · exact stopped ▸ reached.stops fault
  · have derived : Sequence.Derives separators .free 0 draft.sequence before := reached
    exact .inl ⟨_, finished, by simpa using derived⟩

theorem literal (plain : ∀ c ∈ text, c ≠ '\'' ∧ c ≠ '\\')
    (others : Goes stack (start + text.length + 2) rest more) :
    Goes stack start ('\'' :: text ++ '\'' :: rest) (⟨.literal text, start⟩ :: more) := by
  rintro levels draft before reached stacked rfl
  rw [Reading.run_of_step rfl]
  have whole := (others _ _ _ (reached.add (.literal plain)) stacked (by simp; omega)).later
  rwa [List.append_assoc] at whole

theorem escaped (special : c = '\'' ∨ c = '\\') (others : Goes stack (start + 2) rest more) :
    Goes stack start ('\\' :: c :: rest) (⟨.escaped c, start⟩ :: more) := by
  rintro levels draft before reached stacked rfl
  rw [Reading.run_of_step rfl]
  exact (others _ _ _ (reached.add (.escaped special)) stacked (by simp)).later

theorem field (bare : ∃ lexeme later, more = lexeme :: later ∧ lexeme.token ≠ .parenOpen)
    (others : Goes stack (start + 2) rest more) :
    Goes stack start ('\\' :: c :: rest) (⟨.field c, start⟩ :: more) := by
  rintro levels draft before reached stacked rfl
  rcases Reading.run_letter levels draft before.length more c with
    ⟨fault, stopped⟩ | ⟨field, rfl, known⟩
  · exact stopped ▸ reached.stops fault
  · rcases bare with ⟨lexeme, later, rfl, other⟩
    rw [known, Reading.run_fieldRead other]
    exact (others _ _ _ (reached.add (.field field)) stacked (by simp)).later

theorem call (others : Goes (.arguments :: stack) (start + 3) rest more) :
    Goes stack start ('\\' :: c :: '(' :: rest)
      (⟨.field c, start⟩ :: ⟨.parenOpen, start + 2⟩ :: more) := by
  rintro levels draft before reached stacked rfl
  rcases Reading.run_letter levels draft before.length
      (⟨.parenOpen, before.length + 2⟩ :: more) c with ⟨fault, stopped⟩ | ⟨field, rfl, known⟩
  · exact stopped ▸ reached.stops fault
  · rw [known, Reading.run_of_step rfl]
    have opens : (Opening.arguments field before.length []).Opens before.length
        ['\\', field.letter, '('] := ⟨rfl, [], .none, rfl⟩
    have next : Reached (⟨.arguments field before.length [], before.length + 2, draft⟩ ::
        levels) .empty (before ++ ['\\', field.letter, '(']) := reached.enter rfl opens
    exact (others _ _ _ next (by simp [frames, stacked, Opening.frame]) (by simp)).later

theorem group (kind : GroupKind)
    (others : Goes (.group kind :: stack) (start + kind.opener.length) rest more) :
    Goes stack start (kind.opener ++ rest) (⟨.groupOpen kind, start⟩ :: more) := by
  rintro levels draft before reached stacked rfl
  rw [Reading.run_of_step rfl]
  have next : Reached (⟨.group kind, before.length, draft⟩ :: levels) .empty
      (before ++ kind.opener) := reached.enter rfl rfl
  exact (others _ _ _ next (by simp [frames, stacked, Opening.frame]) (by simp)).later

theorem style (listed : CodesLex ('(' :: rest) (start + 1) list codes)
    (others : Goes (.style :: stack) (start + list.length + 2) rest more) :
    Goes stack start ('#' :: list ++ '(' :: rest)
      (⟨.styleOpen, start⟩ :: codes ++ ⟨.parenOpen, start + list.length + 1⟩ :: more) := by
  rintro levels draft before reached stacked rfl
  change Comes before ('#' :: list ++ '(' :: rest)
    (Reading.run ⟨levels, draft, .codes before.length [] none⟩
      (codes ++ ⟨.parenOpen, before.length + list.length + 1⟩ :: more))
  have ends : EndsCodes ⟨.parenOpen, before.length + list.length + 1⟩ := by
    simp [EndsCodes]
  rcases listed.codesRead ends (by simp; omega) levels draft before.length [] none more with
    ⟨error, stopped, early | breaks⟩ | ⟨-, known, follow, same⟩
  · cases early
  · rw [stopped]
    exact reached.breaks breaks
  · rw [same, List.append_nil]
    have next := reached.style (codesDerive_of_follow follow)
    have whole := (others _ _ _ next (by simp [frames, stacked, Opening.frame])
      (by simp; omega)).later
    simpa using whole

theorem bodiless (listed : CodesLex rest (start + 1) list codes)
    (lexed : Lexes stack (start + list.length + 1) rest more)
    (bodiless : ∀ c ∈ rest.head?, c ∈ codesEnd ∧ c ≠ '(') :
    Goes stack start ('#' :: list ++ rest) (⟨.styleOpen, start⟩ :: codes ++ more) := by
  rintro levels draft before reached - rfl
  change Comes before ('#' :: list ++ rest)
    (Reading.run ⟨levels, draft, .codes before.length [] none⟩ (codes ++ more))
  obtain ⟨found, later, rfl, place, ends, bare⟩ := lexed.head bodiless
  rcases listed.codesRead ends (by omega) levels draft before.length [] none later with
    ⟨error, stopped, early | breaks⟩ | ⟨body, -⟩
  · cases early
  · rw [stopped]
    exact reached.breaks breaks
  · exact absurd body bare

theorem close (closer : Closer) (others : Goes (closeFrame closer stack) (start + 1) rest more) :
    Goes stack start (closer.char :: rest) (⟨.close closer, start⟩ :: more) := by
  rintro levels draft before reached stacked rfl
  rcases Reading.run_closer levels draft before.length more closer with
    ⟨fault, stopped⟩ | ⟨level, outer, rfl, rfl, closed⟩
  · exact stopped ▸ reached.stops fault
  · have popped : closeFrame level.opening.frame.closer stack = frames outer := by
      simp [stacked, frames, closeFrame]
    rw [closed]
    exact (others _ _ _ reached.close popped (by simp)).later

theorem comma (others : Goes (.arguments :: stack) (start + 1) rest more) :
    Goes (.arguments :: stack) start (',' :: rest) (⟨.comma, start⟩ :: more) := by
  rintro levels draft before reached stacked rfl
  rcases levels with _ | ⟨⟨_ | ⟨field, offset, earlier⟩ | _, opened, outer⟩, levels⟩
  · cases stacked
  · cases stacked
  · rw [Reading.run_comma]
    exact (others _ _ _ reached.comma stacked (by simp)).later
  · cases stacked

theorem separator (run : ∀ c ∈ text, (Scope.within stack).Separates separators c)
    (others : Goes stack (start + text.length) rest more) :
    Goes stack start (text ++ rest) (⟨.separator text, start⟩ :: more) := by
  rintro levels draft before reached stacked rfl
  rw [Reading.run_of_step rfl]
  have next := reached.space (stacked ▸ run)
  exact (others _ _ _ next stacked (by simp)).later

end Goes

theorem Lexes.goes {stack : List Frame} {start : Nat} {text : Text} {lexemes : List Lexeme}
    (lexed : Lexes stack start text lexemes) : Goes stack start text lexemes := by
  induction lexed with
  | done => exact .done
  | literal plain others ih => exact ih.literal plain
  | escaped special others ih => exact ih.escaped special
  | field letter bare others ih =>
    rcases others.bare bare with ⟨lexeme, later, same, other⟩
    exact ih.field ⟨lexeme, later, same, other⟩
  | call letter other others ih => exact ih.call
  | group kind others ih => exact ih.group kind
  | style listed others ih => exact ih.style listed
  | codes listed bodiless others ih => exact .bodiless listed others bodiless
  | close closer others ih => exact ih.close closer
  | comma others ih => exact ih.comma
  | separator nonempty run whole others ih => exact ih.separator run
  | paren others ih =>
    rintro levels draft before reached - rfl
    exact reached.stops .strayParen
  | @stray stack start c rest more unknown others ih =>
    rintro levels draft before reached - rfl
    exact reached.stops (.unquoted c)

theorem parse_of_comes {source : Text} {lexemes : List Lexeme}
    (tokenized : tokenize source = .ok lexemes) :
    (∃ tree, parse source = .ok tree ∧ Sequence.Derives separators .free 0 tree source) ∨
      ∃ error, parse source = .error error ∧ error.offset ≤ source.length ∧
        Begins (source.take error.offset) := by
  have reached : Reached [] .empty [] := Sequence.Derives.nothing
  have comes := (tokenize_eq_ok_iff.mp tokenized).goes _ _ _ reached rfl rfl
  have parsed : parse source = (Reading.initial.run lexemes).map fun reading =>
      reading.draft.sequence := by
    rw [parse, tokenized]
    rfl
  rcases comes with ⟨result, finished, derived⟩ | ⟨error, read, unread, stopped, rfl, place, begins⟩
  · refine .inl ⟨result.draft.sequence, ?_, derived⟩
    rw [parsed, Reading.initial, finished]
    rfl
  · have offset : error.offset = read.length := by simpa using place
    refine .inr ⟨error, ?_, by simp [offset], ?_⟩
    · rw [parsed, Reading.initial, stopped]
      rfl
    · rw [offset, List.take_left]
      exact begins

theorem Sequence.Derives.run {source : Text} {tree : Sequence}
    (derived : Sequence.Derives separators .free 0 tree source) :
    ∃ lexemes, Lexes [] 0 source lexemes ∧
      Reading.initial.run lexemes = .ok ⟨[], Draft.empty.append tree, .ready⟩ := by
  have ended : ∀ c ∈ ([] : Text).head?, ¬ Scope.free.Separates separators c ∧ c ≠ '(' := by
    simp
  have last : Lexes [] (0 + source.length) [] [⟨.endOfInput, 0 + source.length⟩] := .done
  rcases derived.read rfl ended last [] .empty with ⟨lexemes, lexed, read⟩
  rw [List.append_nil] at lexed
  exact ⟨lexemes, lexed, read⟩

theorem parse_eq_ok_iff {source : Text} {tree : Sequence} :
    parse source = .ok tree ↔ Sequence.Derives separators .free 0 tree source := by
  constructor
  · intro parsed
    obtain ⟨lexemes, tokenized, -⟩ := bind_eq_ok.mp parsed
    rcases parse_of_comes tokenized with ⟨read, same, derived⟩ | ⟨error, failed, -⟩
    · rw [parsed] at same
      cases same
      exact derived
    · rw [parsed] at failed
      cases failed
  · intro derived
    obtain ⟨lexemes, lexed, read⟩ := derived.run
    rw [parse, tokenize_eq_ok_iff.mpr lexed]
    change parseLexemes lexemes = .ok tree
    rw [parseLexemes, read]
    exact congrArg Except.ok (Draft.sequence_empty_append tree)

/-- What a parse error has before it is the beginning of a format that is read. -/
theorem exists_completion_of_parse_error {source : Text} {lexemes : List Lexeme}
    {error : FormatError} (tokenized : tokenize source = .ok lexemes)
    (failed : parse source = .error error) :
    ∃ more tree, parse (source.take (error.position source).offset ++ more) = .ok tree := by
  rcases parse_of_comes tokenized with ⟨tree, parsed, -⟩ | ⟨found, stopped, inside, begins⟩
  · rw [failed] at parsed
    cases parsed
  · rw [failed] at stopped
    cases stopped
    have place : (error.position source).offset = error.offset := by
      rw [FormatError.position, Position.offset_ofOffset, Position.clamp]
      omega
    rcases begins with ⟨more, tree, derived⟩
    rw [place]
    exact ⟨more, tree, parse_eq_ok_iff.mpr derived⟩

theorem exists_completion_of_parse_error_colour :
    parse ['\\', 'b', '(', '\\', '(', '#', 'r', ';', '3', '0', '0', '('] =
        .error ⟨.colourRange 300, 8⟩ ∧
      ∃ more tree, parse (['\\', 'b', '(', '\\', '(', '#', 'r', ';'] ++ more) = .ok tree := by
  have tokenized : tokenize ['\\', 'b', '(', '\\', '(', '#', 'r', ';', '3', '0', '0', '('] = .ok
      [⟨.field 'b', 0⟩, ⟨.parenOpen, 2⟩, ⟨.groupOpen .paren, 3⟩, ⟨.styleOpen, 5⟩,
        ⟨.styleCode ['r'], 6⟩, ⟨.semicolon, 7⟩, ⟨.styleCode ['3', '0', '0'], 8⟩,
        ⟨.parenOpen, 11⟩, ⟨.endOfInput, 12⟩] := rfl
  have failed : parse ['\\', 'b', '(', '\\', '(', '#', 'r', ';', '3', '0', '0', '('] =
      .error ⟨.colourRange 300, 8⟩ := by
    rw [parse, tokenized]
    rfl
  have completed := exists_completion_of_parse_error tokenized failed
  exact ⟨failed, completed⟩

/-- The eight separators are told apart, and over them the grammar tells which trees a format
has, whatever offsets these carry. -/
theorem parse_alike_iff_derives :
    separators.length = 8 ∧ separators.Nodup ∧ ∀ (source : Text) (tree : Sequence),
      (∃ read, parse source = .ok read ∧ read.Alike tree) ↔
        ∃ derived, Sequence.Derives separators .free 0 derived source ∧ derived.Alike tree := by
  refine ⟨by decide, by decide, ?_⟩
  intro source tree
  constructor
  · intro accepted
    rcases accepted with ⟨read, parsed, same⟩
    exact ⟨read, parse_eq_ok_iff.mp parsed, same⟩
  · intro generated
    rcases generated with ⟨derived, derives, same⟩
    exact ⟨derived, parse_eq_ok_iff.mpr derives, same⟩

theorem Sequence.eq_done_of_alike {sequence : Sequence} {trailing : Text}
    (same : sequence.Alike (.done trailing)) : sequence = .done trailing := by
  cases sequence with
  | done found =>
    have kept : Sequence.done found = .done trailing := same
    exact kept
  | item separator element rest => cases same

theorem separates_of_parse_done {source trailing : Text}
    (parsed : parse source = .ok (.done trailing)) : ∀ c ∈ source, c ∈ separators := by
  have derived := parse_eq_ok_iff.mp parsed
  cases derived with
  | done run => exact run

/-- With a ninth separator the grammar would have a format that is not read. -/
theorem not_exists_nine_separators :
    ¬ ∃ alphabet : Text, alphabet.length = 9 ∧ alphabet.Nodup ∧
      ∀ (source : Text) (tree : Sequence),
        (∃ read, parse source = .ok read ∧ read.Alike tree) ↔
          ∃ derived, Sequence.Derives alphabet .free 0 derived source ∧ derived.Alike tree := by
  intro claimed
  rcases claimed with ⟨alphabet, nine, distinct, agrees⟩
  have within : alphabet ⊆ separators := by
    intro c member
    have run : ∀ d ∈ [c], Scope.free.Separates alphabet d := by
      intro d found
      rw [List.mem_singleton.mp found]
      exact member
    have derived : Sequence.Derives alphabet .free 0 (.done [c]) [c] := .done run
    rcases (agrees [c] (.done [c])).mpr ⟨.done [c], derived, rfl⟩ with ⟨read, parsed, same⟩
    rw [Sequence.eq_done_of_alike same] at parsed
    exact separates_of_parse_done parsed c (List.mem_singleton.mpr rfl)
  have fewer : alphabet.length ≤ separators.length := distinct.length_le_of_subset within
  rw [nine] at fewer
  exact absurd fewer (by decide)

end GitPrompt.Format
