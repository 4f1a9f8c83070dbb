import GitPrompt.Proofs.Format.Layout
import GitPrompt.Proofs.Format.Moves
import GitPrompt.Proofs.Format.RoundTrip
import GitPrompt.Proofs.Text.Padding

/-!
Lists of style codes spelled once more: one semicolon between two codes, and no zeros in front of a
number. The tokens of the other constructs stay, and the text that is written so has just these
tokens.
-/
namespace GitPrompt.Format

theorem Component.signed {text : Text} {value : Nat} (component : Component text value) :
    Text.unpadded false text = Text.signed value := by
  rw [Text.unpadded_digits component.nonempty component.digits, component.reads]
  rfl

theorem CodeDerives.unpadded {code : Style.Code} {text : Text} (derived : CodeDerives code text) :
    Text.unpadded false text = code.source := by
  cases derived with
  | @letter letter code named =>
    rw [Style.Code.source_of_ofLetter? named]
    simp [Text.unpadded]
  | number component => exact component.signed
  | @rgb ground red green blue r g b first second third =>
    have opening : (bracketOpen ground).isDigit = false := by cases ground <;> rfl
    have closing : (bracketClose ground).isDigit = false := by cases ground <;> rfl
    have comma : ','.isDigit = false := rfl
    calc
      _ = Text.unpadded false ([] ++ bracketOpen ground ::
          (red ++ ',' :: (green ++ ',' :: (blue ++ bracketClose ground :: [])))) := by
        simp
      _ = bracketOpen ground :: (Text.signed r ++ ',' :: (Text.signed g ++
          ',' :: (Text.signed b ++ [bracketClose ground]))) := by
        rw [Text.unpadded_append opening, Text.unpadded_append comma, Text.unpadded_append comma,
          Text.unpadded_append closing, first.signed, second.signed, third.signed]
        rfl
      _ = (Style.Code.rgb ground r g b).source := by
        cases ground <;> simp [bracketOpen, bracketClose, Style.Code.source, Style.components,
          Text.joined, List.intercalate]

namespace Token

/-- What is written for a token. `behind` tells whether a code stands before it in its list. -/
def respelled (behind : Bool) : Token → List Token
  | .semicolon => []
  | .styleCode text =>
    (if behind then [.semicolon] else []) ++ [.styleCode (Text.unpadded false text)]
  | token => [token]

def leavesCode (behind : Bool) : Token → Bool
  | .semicolon => behind
  | .styleCode _ => true
  | _ => false

end Token

def respell (behind : Bool) : List Token → List Token
  | [] => []
  | token :: rest => token.respelled behind ++ respell (token.leavesCode behind) rest

def Token.unpadded : Token → Token
  | .styleCode text => .styleCode (Text.unpadded false text)
  | token => token

/-- What tokens say whichever way the lists of codes among them are spelled. -/
def significant (tokens : List Token) : List Token :=
  (tokens.filter (· ≠ .semicolon)).map Token.unpadded

/-- Between two codes with no other code or construct between them stands one semicolon. -/
def Divided (tokens : List Token) : Prop :=
  ∀ (before between after : List Token) (first second : Text),
    tokens = before ++ .styleCode first :: between ++ .styleCode second :: after →
      (∀ token ∈ between, token = .semicolon) → between = [.semicolon]

section
variable {tokens : List Token}

theorem significant_append (first second : List Token) :
    significant (first ++ second) = significant first ++ significant second := by
  simp [significant]

theorem significant_respelled (behind : Bool) (token : Token) :
    significant (token.respelled behind) = significant [token] := by
  cases token with
  | styleCode text =>
    cases behind <;>
      simp [significant, Token.respelled, Token.unpadded, Text.unpadded_unpadded]
  | _ => rfl

theorem significant_respell (behind : Bool) (tokens : List Token) :
    significant (respell behind tokens) = significant tokens := by
  induction tokens generalizing behind with
  | nil => rfl
  | cons token rest ih =>
    calc
      _ = significant (token.respelled behind) ++ significant rest := by
        rw [respell, significant_append, ih]
      _ = significant (token :: rest) := by
        rw [significant_respelled, ← significant_append, List.singleton_append]

theorem respell_code (behind : Bool) (text : Text) (rest : List Token) :
    respell behind (.styleCode text :: rest) = (if behind then [.semicolon] else []) ++
      .styleCode (Text.unpadded false text) :: respell true rest := by
  simp [respell, Token.respelled, Token.leavesCode]

def Token.Outside (token : Token) : Prop := (∀ text, token ≠ .styleCode text) ∧ token ≠ .semicolon

theorem respell_outside {token : Token} (outside : token.Outside) (behind : Bool)
    (rest : List Token) : respell behind (token :: rest) = token :: respell false rest := by
  cases token with
  | styleCode text => exact absurd rfl (outside.1 text)
  | semicolon => exact absurd rfl outside.2
  | _ => rfl

theorem respell_append {token : Token} (outside : token.Outside) (behind : Bool)
    (first rest : List Token) : respell behind (first ++ token :: rest) =
      respell behind first ++ respell false (token :: rest) := by
  induction first generalizing behind with
  | nil =>
    rw [respell_outside outside]
    exact respell_outside outside behind rest
  | cons other first ih =>
    have others := ih (other.leavesCode behind)
    simp only [List.cons_append, respell, others, List.append_assoc]

theorem respell_list {token : Token} (outside : token.Outside) (codes rest : List Token) :
    respell false (.styleOpen :: (codes ++ token :: rest)) =
      .styleOpen :: (respell false codes ++ respell false (token :: rest)) :=
  congrArg (Token.styleOpen :: ·) (respell_append outside false codes rest)

theorem Token.code_semicolon_outside (token : Token) :
    (∃ text, token = .styleCode text) ∨ token = .semicolon ∨ token.Outside := by
  cases token with
  | styleCode text => exact .inl ⟨text, rfl⟩
  | semicolon => exact .inr (.inl rfl)
  | _ => exact .inr (.inr ⟨nofun, nofun⟩)

theorem between_of_respell {between after : List Token} {second : Text}
    (split : respell true tokens = between ++ .styleCode second :: after)
    (semicolons : ∀ token ∈ between, token = .semicolon) : between = [.semicolon] := by
  induction tokens with
  | nil => simp [respell] at split
  | cons token rest ih =>
    rcases token.code_semicolon_outside with ⟨text, rfl⟩ | rfl | outside
    · rw [respell_code] at split
      match between, semicolons with
      | [], _ => simp at split
      | [first], semicolons => rw [semicolons first List.mem_cons_self]
      | first :: next :: more, semicolons =>
        rw [semicolons next (by simp)] at split
        simp at split
    · exact ih split
    · rw [respell_outside outside] at split
      cases between with
      | nil => exact absurd (List.cons.inj split).1 (outside.1 second)
      | cons first more =>
        rw [semicolons first List.mem_cons_self] at split
        exact absurd (List.cons.inj split).1 outside.2

theorem divided_respell (behind : Bool) (tokens : List Token) :
    Divided (respell behind tokens) := by
  intro before between after first second split semicolons
  rw [List.append_assoc, List.cons_append] at split
  induction tokens generalizing behind before with
  | nil => simp [respell] at split
  | cons token rest ih =>
    rcases token.code_semicolon_outside with ⟨text, rfl⟩ | rfl | outside
    · have behindCode : ∀ before : List Token,
          .styleCode (Text.unpadded false text) :: respell true rest =
            before ++ .styleCode first :: (between ++ .styleCode second :: after) →
          between = [.semicolon] := by
        intro before split
        cases before with
        | nil => exact between_of_respell (List.cons.inj split).2 semicolons
        | cons other before => exact ih true before (List.cons.inj split).2
      rw [respell_code] at split
      cases behind with
      | false => exact behindCode before split
      | true =>
        cases before with
        | nil => cases (List.cons.inj split).1
        | cons other before => exact behindCode before (List.cons.inj split).2
    · exact ih behind before split
    · rw [respell_outside outside] at split
      cases before with
      | nil => exact absurd (List.cons.inj split).1 (outside.1 first)
      | cons other before => exact ih false before (List.cons.inj split).2

end

def Coded (lexemes : List Lexeme) : Prop :=
  ∀ lexeme ∈ lexemes, ∀ text, lexeme.token = .styleCode text → ∃ code, CodeDerives code text

theorem Coded.tail {lexeme : Lexeme} {rest : List Lexeme} (coded : Coded (lexeme :: rest)) :
    Coded rest :=
  fun found member => coded found (List.mem_cons_of_mem lexeme member)

/-- A list of codes spelled once more at a place, whatever follows it. Behind a code it begins with
a semicolon. -/
def CodesRespelled (behind : Bool) (place : Nat) (tokens : List Token) : Prop :=
  ∃ list lexemes, (∀ rest, CodesLex rest place list lexemes) ∧
    lexemes.map Lexeme.token = respell behind tokens ∧ (behind = true → ∀ c ∈ list.head?, c = ';')

theorem CodesRespelled.code {text : Text} {code : Style.Code} {tokens : List Token}
    (derived : CodeDerives code text) (others : ∀ place, CodesRespelled true place tokens)
    (behind : Bool) (place : Nat) : CodesRespelled behind place (.styleCode text :: tokens) := by
  have spelled : CodeDerives code (Text.unpadded false text) := by
    rw [derived.unpadded]
    exact .of_wellFormed derived.wellFormed
  have written : ∀ place, ∃ list lexemes, (∀ rest,
      CodesLex rest place list (⟨.styleCode (Text.unpadded false text), place⟩ :: lexemes)) ∧
        lexemes.map Lexeme.token = respell true tokens := by
    intro place
    obtain ⟨list, lexemes, lexed, same, divided⟩ :=
      others (place + (Text.unpadded false text).length)
    have apart : Apart (Text.unpadded false text) list := by
      intro c last d next digits
      rw [divided rfl d next] at digits
      exact Bool.noConfusion digits.2
    exact ⟨_, lexemes, fun rest => spelled.lex apart (lexed rest), same⟩
  rw [CodesRespelled, respell_code]
  cases behind with
  | false =>
    obtain ⟨list, lexemes, lexed, same⟩ := written place
    exact ⟨list, _, lexed, by simp [same], nofun⟩
  | true =>
    obtain ⟨list, lexemes, lexed, same⟩ := written (place + 1)
    refine ⟨';' :: list, _, fun rest => .semicolon (lexed rest), by simp [same], ?_⟩
    intro _ c next
    cases next
    rfl

theorem CodesLex.respelled {rest list : Text} {start : Nat} {lexemes : List Lexeme}
    (lexed : CodesLex rest start list lexemes) (coded : Coded lexemes) (behind : Bool)
    (place : Nat) : CodesRespelled behind place (lexemes.map Lexeme.token) := by
  have nothing : ∀ place, CodesRespelled true place [] :=
    fun place => ⟨[], [], fun rest => .done, rfl, nofun⟩
  induction lexed generalizing behind place with
  | done => exact ⟨[], [], fun rest => .done, rfl, nofun⟩
  | semicolon others ih => exact ih coded.tail behind place
  | single _ _ ih | number _ _ _ _ ih | colour _ _ _ ih =>
    obtain ⟨code, derived⟩ := coded _ List.mem_cons_self _ rfl
    exact .code derived (ih coded.tail true) behind place
  | unclosed ground inside cut =>
    obtain ⟨code, derived⟩ := coded _ List.mem_cons_self _ rfl
    exact .code derived nothing behind place

def Respelled (frames : List Frame) (place : Nat) (text : Text) (tokens : List Token) : Prop :=
  ∃ spelled lexemes, Lexes frames place spelled lexemes ∧
    lexemes.map Lexeme.token = respell false tokens ∧ spelled.head? = text.head?

theorem Lexes.respelled {frames : List Frame} {start : Nat} {text : Text} {lexemes : List Lexeme}
    (lexed : Lexes frames start text lexemes) (coded : Coded lexemes) (place : Nat) :
    Respelled frames place text (lexemes.map Lexeme.token) := by
  induction lexed generalizing place with
  | done => exact ⟨[], _, .done, rfl, rfl⟩
  | @literal frames start text rest more plain others ih =>
    obtain ⟨spelled, lexemes, lexed, same, -⟩ := ih coded.tail (place + text.length + 2)
    exact ⟨_, _, .literal plain lexed, congrArg (Token.literal text :: ·) same, rfl⟩
  | @escaped frames start c rest more special others ih =>
    obtain ⟨spelled, lexemes, lexed, same, -⟩ := ih coded.tail (place + 2)
    exact ⟨_, _, .escaped special lexed, congrArg (Token.escaped c :: ·) same, rfl⟩
  | @field frames start c rest more letter bare others ih =>
    obtain ⟨spelled, lexemes, lexed, same, head⟩ := ih coded.tail (place + 2)
    rw [← head] at bare
    exact ⟨_, _, .field letter bare lexed, congrArg (Token.field c :: ·) same, rfl⟩
  | @call frames start c rest more letter other others ih =>
    obtain ⟨spelled, lexemes, lexed, same, -⟩ := ih coded.tail.tail (place + 3)
    refine ⟨_, _, .call letter other lexed, ?_, rfl⟩
    exact congrArg (Token.field c :: Token.parenOpen :: ·) same
  | @group frames start kind rest more others ih =>
    obtain ⟨spelled, lexemes, lexed, same, -⟩ := ih coded.tail (place + kind.opener.length)
    refine ⟨_, _, .group kind lexed, congrArg (Token.groupOpen kind :: ·) same, ?_⟩
    cases kind <;> rfl
  | @style frames start list rest codes more listed others ih =>
    have listedCoded : Coded codes := fun found member => coded found (by simp [member])
    have bodyCoded : Coded more := fun found member => coded found (by simp [member])
    obtain ⟨list, tokens, spelling, sameCodes, -⟩ := listed.respelled listedCoded false (place + 1)
    obtain ⟨spelled, lexemes, lexed, same, -⟩ := ih bodyCoded (place + list.length + 2)
    refine ⟨_, _, .style (spelling _) lexed, ?_, rfl⟩
    have outside : Token.Outside .parenOpen := ⟨nofun, nofun⟩
    simp only [List.map_append, List.map_cons, List.cons_append, sameCodes, same,
      respell_list outside, respell_outside outside]
  | @codes frames start list rest codes more listed bodiless others ih =>
    have listedCoded : Coded codes := fun found member => coded found (by simp [member])
    have restCoded : Coded more := fun found member => coded found (by simp [member])
    obtain ⟨list, tokens, spelling, sameCodes, -⟩ := listed.respelled listedCoded false (place + 1)
    obtain ⟨spelled, lexemes, lexed, same, head⟩ := ih restCoded (place + list.length + 1)
    rw [← head] at bodiless
    refine ⟨_, _, .codes (spelling _) bodiless lexed, ?_, rfl⟩
    obtain ⟨found, later, rfl, -, outside, -⟩ := others.head (head ▸ bodiless)
    simp only [List.map_append, List.map_cons, List.cons_append, sameCodes, same,
      respell_list outside]
  | @close frames start closer rest more others ih =>
    obtain ⟨spelled, lexemes, lexed, same, -⟩ := ih coded.tail (place + 1)
    exact ⟨_, _, .close closer lexed, congrArg (Token.close closer :: ·) same, rfl⟩
  | comma others ih =>
    obtain ⟨spelled, lexemes, lexed, same, -⟩ := ih coded.tail (place + 1)
    exact ⟨_, _, .comma lexed, congrArg (Token.comma :: ·) same, rfl⟩
  | @separator frames start text rest more nonempty run whole others ih =>
    obtain ⟨spelled, lexemes, lexed, same, head⟩ := ih coded.tail (place + text.length)
    rw [← head] at whole
    refine ⟨_, _, .separator nonempty run whole lexed, ?_, ?_⟩
    · exact congrArg (Token.separator text :: ·) same
    · rw [List.head?_append, List.head?_append, head]
  | paren others ih =>
    obtain ⟨spelled, lexemes, lexed, same, -⟩ := ih coded.tail (place + 1)
    exact ⟨_, _, .paren lexed, congrArg (Token.parenOpen :: ·) same, rfl⟩
  | @stray frames start c rest more unknown others ih =>
    obtain ⟨spelled, lexemes, lexed, same, -⟩ := ih coded.tail (place + 1)
    exact ⟨_, _, .stray unknown lexed, congrArg (Token.unknown c :: ·) same, rfl⟩

end GitPrompt.Format
