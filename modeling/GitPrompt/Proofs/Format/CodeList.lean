import GitPrompt.Proofs.Format.Reading

/-!
How a list of style codes is read: to the body that it belongs to, or to a fault. What stands before
a fault is the beginning of a good list.
-/
namespace GitPrompt.Format

/-- What a list of codes may hold after the codes and the semicolon that are read already. -/
def CodesFollow (before : List Style.Code) (semicolon : Option Nat) (codes : List Style.Code)
    (list : Text) : Prop :=
  CodesDerive codes list ∨
    before ≠ [] ∧ semicolon = none ∧
      (codes = [] ∧ list = [] ∨ ∃ rest, list = ';' :: rest ∧ CodesDerive codes rest)

theorem CodesFollow.code {before codes : List Style.Code} {code : Style.Code} {text list : Text}
    (follow : CodesFollow (code :: before) none codes list) (derived : CodeDerives code text)
    (apart : Apart text list) : CodesDerive (code :: codes) (text ++ list) := by
  rcases follow with others | ⟨-, -, ⟨rfl, rfl⟩ | ⟨rest, rfl, others⟩⟩
  · exact .adjacent derived others apart
  · rw [List.append_nil]
    exact .single derived
  · exact .divided derived others

theorem CodesFollow.semicolon {before codes : List Style.Code} {place : Nat} {list : Text}
    (follow : CodesFollow before (some place) codes list) (nonempty : before ≠ []) :
    CodesFollow before none codes (';' :: list) := by
  rcases follow with derived | ⟨-, nothing, -⟩
  · exact .inr ⟨nonempty, rfl, .inr ⟨list, rfl, derived⟩⟩
  · cases nothing

/-- A code that fits behind any beginning of a list, since it is no digit. -/
def spareCode : Text := ['r']

theorem exists_follow_spareCode (before : List Style.Code) (semicolon : Option Nat) :
    ∃ codes, CodesFollow before semicolon codes spareCode :=
  ⟨[.named .fore .red], .inl (.single (.letter rfl))⟩

/-- A beginning of a list up to a place, behind which the list can go on. -/
def ListBreaks (before : List Style.Code) (semicolon : Option Nat) (start : Nat) (list : Text)
    (place : Nat) : Prop :=
  ∃ read unread codes, list = read ++ unread ∧ place = start + read.length ∧
    CodesFollow before semicolon codes (read ++ spareCode)

theorem ListBreaks.here (before : List Style.Code) (semicolon : Option Nat) (start : Nat)
    (list : Text) : ListBreaks before semicolon start list start := by
  obtain ⟨codes, follow⟩ := exists_follow_spareCode before semicolon
  exact ⟨[], list, codes, rfl, rfl, follow⟩

theorem ListBreaks.code {before : List Style.Code} {semicolon : Option Nat} {start place : Nat}
    {code : Style.Code} {text list : Text}
    (breaks : ListBreaks (code :: before) none (start + text.length) list place)
    (derived : CodeDerives code text) (apart : Apart text list) :
    ListBreaks before semicolon start (text ++ list) place := by
  rcases breaks with ⟨read, unread, codes, rfl, rfl, follow⟩
  have still : Apart text (read ++ spareCode) := by
    intro c last d next
    cases read with
    | nil =>
      cases next
      exact fun digits => Bool.noConfusion digits.2
    | cons e read => exact apart c last d next
  refine ⟨text ++ read, unread, code :: codes, by simp, by simp [Nat.add_assoc], .inl ?_⟩
  rw [List.append_assoc]
  exact follow.code derived still

theorem ListBreaks.semicolon {before : List Style.Code} {start place : Nat} {list : Text}
    (breaks : ListBreaks before (some start) (start + 1) list place) (nonempty : before ≠ []) :
    ListBreaks before none start (';' :: list) place := by
  rcases breaks with ⟨read, unread, codes, rfl, rfl, follow⟩
  exact ⟨';' :: read, unread, codes, rfl, by simp; omega, follow.semicolon nonempty⟩

def EndsCodes (lexeme : Lexeme) : Prop :=
  (∀ text, lexeme.token ≠ .styleCode text) ∧ lexeme.token ≠ .semicolon

section
variable {levels : List Level} {draft : Draft} {opened : Nat} {before : List Style.Code}
  {semicolon : Option Nat} {found : Lexeme} {more : List Lexeme}

/-- Where a list of codes may lead: to a fault in it, or to the body of its style. -/
def CodesRead (levels : List Level) (draft : Draft) (opened : Nat) (found : Lexeme)
    (more : List Lexeme) (before : List Style.Code) (semicolon : Option Nat) (start : Nat)
    (list : Text) (outcome : Except FormatError Reading) : Prop :=
  (∃ error, outcome = .error error ∧
      (semicolon = some error.offset ∨ ListBreaks before semicolon start list error.offset)) ∨
    found.token = .parenOpen ∧ ∃ codes, CodesFollow before semicolon codes list ∧
      outcome = Reading.run
        ⟨⟨.style (codes.reverse ++ before), opened, draft⟩ :: levels, .empty, .ready⟩ more

theorem Reading.run_badCode {text : Text} {fault : Fault} {place : Nat} {rest : List Lexeme}
    (failed : styleCode text = .error fault) :
    run ⟨levels, draft, .codes opened before semicolon⟩ (⟨.styleCode text, place⟩ :: rest) =
      .error ⟨fault, place⟩ := by
  rw [run_cons]
  simp only [step, readCodes, failed]
  rfl

theorem Reading.step_endsCodes (ends : EndsCodes found) :
    step ⟨levels, draft, .codes opened before semicolon⟩ found =
      if before = [] then .error ⟨.noCodes found.token, found.offset⟩
      else
        match semicolon with
        | some offset => .error ⟨.straySemicolon, offset⟩
        | none =>
          if found.token = .parenOpen then
            .ok ⟨⟨.style before, opened, draft⟩ :: levels, .empty, .ready⟩
          else .error ⟨.noBody found.token, found.offset⟩ := by
  rcases found with ⟨token, place⟩
  cases token with
  | styleCode text => exact absurd rfl (ends.1 text)
  | semicolon => exact absurd rfl ends.2
  | _ => rfl

theorem codesRead_end (ends : EndsCodes found) :
    CodesRead levels draft opened found more before semicolon found.offset []
      (Reading.run ⟨levels, draft, .codes opened before semicolon⟩ (found :: more)) := by
  have here := ListBreaks.here before semicolon found.offset []
  rw [Reading.run_cons, Reading.step_endsCodes ends]
  by_cases empty : before = []
  · rw [if_pos empty]
    exact .inl ⟨_, rfl, .inr here⟩
  · rw [if_neg empty]
    cases semicolon with
    | some offset => exact .inl ⟨_, rfl, .inl rfl⟩
    | none =>
      by_cases body : found.token = .parenOpen
      · simp only [if_pos body]
        exact .inr ⟨body, [], .inr ⟨empty, rfl, .inl ⟨rfl, rfl⟩⟩, rfl⟩
      · simp only [if_neg body]
        exact .inl ⟨_, rfl, .inr here⟩

theorem codesRead_code {start : Nat} {text list : Text} {tokens : List Lexeme}
    (apart : Apart text list)
    (later : ∀ code, CodesRead levels draft opened found more (code :: before) none
      (start + text.length) list
      (Reading.run ⟨levels, draft, .codes opened (code :: before) none⟩ tokens)) :
    CodesRead levels draft opened found more before semicolon start (text ++ list)
      (Reading.run ⟨levels, draft, .codes opened before semicolon⟩
        (⟨.styleCode text, start⟩ :: tokens)) := by
  cases outcome : styleCode text with
  | error fault =>
    rw [Reading.run_badCode outcome]
    exact .inl ⟨_, rfl, .inr (.here before semicolon start (text ++ list))⟩
  | ok code =>
    have derived := styleCode_eq_ok.mp outcome
    rw [Reading.run_code derived]
    rcases later code with ⟨error, stopped, early | breaks⟩ | ⟨body, codes, follow, same⟩
    · cases early
    · exact .inl ⟨error, stopped, .inr (breaks.code derived apart)⟩
    · refine .inr ⟨body, code :: codes, .inl (follow.code derived apart), ?_⟩
      simpa using same

theorem codesRead_semicolon {start : Nat} {list : Text} {tokens : List Lexeme}
    (later : CodesRead levels draft opened found more before (some start) (start + 1) list
      (Reading.run ⟨levels, draft, .codes opened before (some start)⟩ tokens)) :
    CodesRead levels draft opened found more before semicolon start (';' :: list)
      (Reading.run ⟨levels, draft, .codes opened before semicolon⟩
        (⟨.semicolon, start⟩ :: tokens)) := by
  have here := ListBreaks.here before semicolon start (';' :: list)
  by_cases empty : before = []
  · have stopped : Reading.run ⟨levels, draft, .codes opened before semicolon⟩
        (⟨.semicolon, start⟩ :: tokens) = .error ⟨.straySemicolon, start⟩ := by
      subst empty
      rfl
    rw [stopped]
    exact .inl ⟨_, rfl, .inr here⟩
  cases semicolon with
  | some offset =>
    have stopped : Reading.run ⟨levels, draft, .codes opened before (some offset)⟩
        (⟨.semicolon, start⟩ :: tokens) = .error ⟨.straySemicolon, start⟩ := by
      rw [Reading.run_cons]
      simp [Reading.step, Reading.readCodes]
      rfl
    rw [stopped]
    exact .inl ⟨_, rfl, .inr here⟩
  | none =>
    rw [Reading.run_semicolon empty]
    rcases later with ⟨error, stopped, early | breaks⟩ | ⟨body, codes, follow, same⟩
    · cases early
      exact .inl ⟨error, stopped, .inr here⟩
    · exact .inl ⟨error, stopped, .inr (breaks.semicolon empty)⟩
    · exact .inr ⟨body, codes, follow.semicolon empty, same⟩

end

theorem apart_single {c : Char} (alone : isSingleCode c = true) (list : Text) : Apart [c] list := by
  rintro d ⟨⟩ e next digits
  have digit : c.isDigit = true := digits.1
  simp [isSingleCode, digit] at alone

theorem apart_number {digits list : Text} (whole : ∀ c ∈ list.head?, c.isDigit = false) :
    Apart digits list := by
  intro d last e next both
  rw [whole e next] at both
  exact Bool.noConfusion both.2

theorem apart_colour (ground : Style.Ground) (inner list : Text) :
    Apart (bracketOpen ground :: inner ++ [bracketClose ground]) list := by
  intro d last e next digits
  rw [List.getLast?_concat] at last
  cases last
  cases ground <;> exact Bool.noConfusion digits.1

theorem CodesLex.codesRead {rest list : Text} {start : Nat} {tokens : List Lexeme}
    (lexed : CodesLex rest start list tokens) {found : Lexeme} (ends : EndsCodes found)
    (place : found.offset = start + list.length) (levels : List Level) (draft : Draft)
    (opened : Nat) (before : List Style.Code) (semicolon : Option Nat) (more : List Lexeme) :
    CodesRead levels draft opened found more before semicolon start list
      (Reading.run ⟨levels, draft, .codes opened before semicolon⟩ (tokens ++ found :: more)) := by
  induction lexed generalizing before semicolon with
  | done =>
    cases place
    exact codesRead_end ends
  | semicolon others ih =>
    exact codesRead_semicolon (ih (by simpa [Nat.add_assoc, Nat.add_comm 1] using place) _ _)
  | @single start c list tokens alone others ih =>
    exact codesRead_code (apart_single alone list) fun code =>
      ih (by simpa [Nat.add_assoc, Nat.add_comm 1] using place) _ _
  | @number start digits list tokens nonempty ascii whole others ih =>
    exact codesRead_code (apart_number whole) fun code =>
      ih (by simpa [Nat.add_assoc] using place) _ _
  | @colour start ground inner list tokens inside others ih =>
    have split : bracketOpen ground :: inner ++ bracketClose ground :: list =
        bracketOpen ground :: inner ++ [bracketClose ground] ++ list := by
      simp
    have next : start + (bracketOpen ground :: inner ++ [bracketClose ground]).length =
        start + inner.length + 2 := by
      simp [Nat.add_assoc]
    rw [split] at place ⊢
    apply codesRead_code (apart_colour ground inner list)
    intro code
    rw [next]
    apply ih
    rw [place, List.length_append, ← Nat.add_assoc, next]
  | @unclosed start ground inner inside cut =>
    have apart : Apart (bracketOpen ground :: inner) [] := by
      simp [Apart]
    have read : CodesRead levels draft opened found more before semicolon start
        (bracketOpen ground :: inner ++ []) (Reading.run
          ⟨levels, draft, .codes opened before semicolon⟩
          (⟨.styleCode (bracketOpen ground :: inner), start⟩ :: found :: more)) := by
      apply codesRead_code apart
      intro code
      rw [← place]
      exact codesRead_end ends
    rwa [List.append_nil] at read

end GitPrompt.Format
