import GitPrompt.Proofs.Format.Lexing

/-!
Nothing of a format is lost in its tokens. Written one after the other they give the format back,
and each of them begins where those before it end.
-/
namespace GitPrompt.Format

def written (lexemes : List Lexeme) : Text := lexemes.flatMap fun lexeme => lexeme.token.source

@[simp] theorem written_nil : written [] = [] := rfl

@[simp] theorem written_cons (lexeme : Lexeme) (rest : List Lexeme) :
    written (lexeme :: rest) = lexeme.token.source ++ written rest := rfl

@[simp] theorem written_append (first second : List Lexeme) :
    written (first ++ second) = written first ++ written second := List.flatMap_append

/-- The offsets that lexemes have when the first of them begins at `place`. -/
def Placed (place : Nat) : List Lexeme → Prop
  | [] => True
  | lexeme :: rest =>
    lexeme.offset = place ∧ Placed (place + lexeme.token.source.length) rest

theorem placed_append {place : Nat} {first second : List Lexeme} :
    Placed place (first ++ second) ↔
      Placed place first ∧ Placed (place + (written first).length) second := by
  induction first generalizing place with
  | nil => simp [Placed]
  | cons lexeme rest ih => simp [Placed, ih, and_assoc, Nat.add_assoc]

theorem Placed.of_split {lexemes before rest : List Lexeme} {lexeme : Lexeme}
    (placed : Placed 0 lexemes) (split : lexemes = before ++ lexeme :: rest) :
    lexeme.offset = (written before).length := by
  subst split
  have later := (placed_append.mp placed).2
  rw [later.1, Nat.zero_add]

theorem CodesLex.layout {rest list : Text} {start : Nat} {lexemes : List Lexeme}
    (lexed : CodesLex rest start list lexemes) :
    written lexemes = list ∧ Placed start lexemes := by
  induction lexed with
  | done => exact ⟨rfl, trivial⟩
  | semicolon others ih | single alone others ih =>
    exact ⟨by simp [Token.source, Token.text, ih.1], rfl, ih.2⟩
  | number nonempty ascii whole others ih =>
    exact ⟨by simp [Token.source, Token.text, ih.1], rfl, ih.2⟩
  | colour ground inside others ih =>
    refine ⟨by simp [Token.source, Token.text, ih.1], rfl, ?_⟩
    simpa [Token.source, Token.text, Nat.add_assoc] using ih.2
  | unclosed ground inside cut =>
    exact ⟨by simp [Token.source, Token.text], rfl, trivial⟩

theorem Lexes.layout {frames : List Frame} {start : Nat} {text : Text} {lexemes : List Lexeme}
    (lexed : Lexes frames start text lexemes) :
    written lexemes = text ∧ Placed start lexemes := by
  induction lexed with
  | done => exact ⟨rfl, rfl, trivial⟩
  | literal plain others ih =>
    refine ⟨by simp [Token.source, ih.1], rfl, ?_⟩
    simpa [Token.source, Nat.add_assoc] using ih.2
  | escaped special others ih | field letter bare others ih =>
    exact ⟨by simp [Token.source, ih.1], rfl, ih.2⟩
  | call letter other others ih =>
    exact ⟨by simp [Token.source, Token.text, ih.1], rfl, rfl, ih.2⟩
  | group kind others ih => exact ⟨by simp [Token.source, ih.1], rfl, ih.2⟩
  | @style frames start list rest codes more listed others ih =>
    obtain ⟨same, placed⟩ := listed.layout
    refine ⟨by simp [Token.source, Token.text, same, ih.1], rfl, ?_⟩
    have place : start + 1 + list.length = start + list.length + 1 := by omega
    refine placed_append.mpr ⟨placed, ?_⟩
    have body : Placed (start + list.length + 1 + 1) more := ih.2
    rw [← place] at body
    rw [same]
    exact ⟨place.symm, body⟩
  | @codes frames start list rest codes more listed bodiless others ih =>
    obtain ⟨same, placed⟩ := listed.layout
    refine ⟨by simp [Token.source, Token.text, same, ih.1], rfl, ?_⟩
    have place : start + 1 + list.length = start + list.length + 1 := by omega
    refine placed_append.mpr ⟨placed, ?_⟩
    rw [same]
    exact place ▸ ih.2
  | close closer others ih | comma others ih | paren others ih | stray unknown others ih =>
    exact ⟨by simp [Token.source, Token.text, ih.1], rfl, ih.2⟩
  | separator nonempty run whole others ih =>
    exact ⟨by simp [Token.source, Token.text, ih.1], rfl, ih.2⟩

end GitPrompt.Format
