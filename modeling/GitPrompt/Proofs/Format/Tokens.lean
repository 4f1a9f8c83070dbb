import GitPrompt.Proofs.Format.Lexing

/-!
The tokens of a format by themselves: what each of them can hold, and that one alone, the last,
marks the end of the input.
-/
namespace GitPrompt.Format

/-- What a token that is found in a format can hold. The end of the input holds nothing. -/
def Token.Sound : Token → Prop
  | .literal text => ∀ c ∈ text, c ≠ '\'' ∧ c ≠ '\\'
  | .escaped c => c = '\'' ∨ c = '\\'
  | .field c => isFieldLetter c = true
  | .styleCode text => text ≠ []
  | .separator text => text ≠ [] ∧ ∀ c ∈ text, c ∈ separators
  | .unknown c => isStray c = true
  | .endOfInput => False
  | _ => True

theorem Token.Sound.not_end {token : Token} (sound : token.Sound) : token ≠ .endOfInput := by
  intro ended
  subst ended
  exact sound

theorem Token.Sound.not_empty {token : Token} (sound : token.Sound) : token ≠ .styleCode [] := by
  intro empty
  subst empty
  exact sound rfl

theorem CodesLex.sound {rest list : Text} {start : Nat} {lexemes : List Lexeme}
    (lexed : CodesLex rest start list lexemes) : ∀ lexeme ∈ lexemes, lexeme.token.Sound := by
  induction lexed with
  | done => nofun
  | semicolon others ih => exact List.forall_mem_cons.mpr ⟨trivial, ih⟩
  | number nonempty ascii whole others ih => exact List.forall_mem_cons.mpr ⟨nonempty, ih⟩
  | single _ _ ih | colour _ _ _ ih => exact List.forall_mem_cons.mpr ⟨List.cons_ne_nil _ _, ih⟩
  | unclosed ground inside cut => exact List.forall_mem_cons.mpr ⟨List.cons_ne_nil _ _, nofun⟩

def SoundToEnd (lexemes : List Lexeme) : Prop :=
  ∃ inner place, lexemes = inner ++ [⟨.endOfInput, place⟩] ∧
    ∀ lexeme ∈ inner, lexeme.token.Sound

theorem SoundToEnd.append {lexemes found : List Lexeme} (later : SoundToEnd lexemes)
    (sound : ∀ lexeme ∈ found, lexeme.token.Sound) : SoundToEnd (found ++ lexemes) := by
  rcases later with ⟨inner, place, rfl, others⟩
  refine ⟨found ++ inner, place, by rw [List.append_assoc], ?_⟩
  intro lexeme member
  rcases List.mem_append.mp member with early | late
  · exact sound lexeme early
  · exact others lexeme late

theorem SoundToEnd.cons {lexemes : List Lexeme} (later : SoundToEnd lexemes) (start : Nat)
    {token : Token} (sound : token.Sound) : SoundToEnd (⟨token, start⟩ :: lexemes) := by
  have found : ∀ lexeme ∈ [Lexeme.mk token start], lexeme.token.Sound := by
    simpa using sound
  exact later.append found

theorem Lexes.soundToEnd {frames : List Frame} {start : Nat} {text : Text}
    {lexemes : List Lexeme} (lexed : Lexes frames start text lexemes) : SoundToEnd lexemes := by
  have paren : Token.parenOpen.Sound := trivial
  have hash : Token.styleOpen.Sound := trivial
  have comma : Token.comma.Sound := trivial
  induction lexed with
  | done => exact ⟨[], _, rfl, nofun⟩
  | literal plain others ih => exact ih.cons _ plain
  | escaped special others ih => exact ih.cons _ special
  | field letter bare others ih => exact ih.cons _ letter
  | call letter other others ih => exact (ih.cons _ paren).cons _ letter
  | group kind others ih =>
    have opens : (Token.groupOpen kind).Sound := trivial
    exact ih.cons _ opens
  | style listed others ih => exact ((ih.cons _ paren).append listed.sound).cons _ hash
  | codes listed bodiless others ih => exact (ih.append listed.sound).cons _ hash
  | close closer others ih =>
    have closes : (Token.close closer).Sound := trivial
    exact ih.cons _ closes
  | comma others ih => exact ih.cons _ comma
  | separator nonempty run whole others ih =>
    have between : (Token.separator _).Sound :=
      ⟨nonempty, fun c member => (run c member).mem⟩
    exact ih.cons _ between
  | paren others ih => exact ih.cons _ paren
  | stray unknown others ih => exact ih.cons _ unknown

theorem Lexes.sound_of_mem {frames : List Frame} {start : Nat} {text : Text}
    {lexemes : List Lexeme} (lexed : Lexes frames start text lexemes) {lexeme : Lexeme}
    (member : lexeme ∈ lexemes) (more : lexeme.token ≠ .endOfInput) : lexeme.token.Sound := by
  rcases lexed.soundToEnd with ⟨inner, place, split, sound⟩
  rw [split] at member
  rcases List.mem_append.mp member with early | late
  · exact sound lexeme early
  · rw [List.mem_singleton.mp late] at more
    exact absurd rfl more

end GitPrompt.Format
