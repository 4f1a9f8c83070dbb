import GitPrompt.Proofs.Format.Prefixes
import GitPrompt.Proofs.Format.Tokens
import Mathlib.Data.List.Chain

/-!
The tokens of a format tile it. Each begins where the one before it ends, all but the last take at
least one character, and every character of the format is under one of them and under no other.
-/
namespace GitPrompt.Format

def Token.width : Token → Nat
  | .literal text => text.length + 2
  | .escaped _ => 2
  | .field _ => 2
  | .groupOpen kind => kind.opener.length
  | .endOfInput => 0
  | token => token.text.length

@[simp] theorem Token.length_source (token : Token) : token.source.length = token.width := by
  cases token with
  | literal text => exact congrArg Nat.succ List.length_append
  | _ => rfl

theorem Token.Sound.width_pos {token : Token} (sound : token.Sound) : 0 < token.width := by
  cases token with
  | styleCode text => exact List.length_pos_iff.mpr sound
  | separator text => exact List.length_pos_iff.mpr sound.1
  | groupOpen kind => cases kind <;> decide
  | endOfInput => exact sound.elim
  | _ => exact Nat.zero_lt_succ _

/-- Separators that stand together are one token. -/
def SeparatorsApart (first second : Lexeme) : Prop :=
  ¬ (first.token.kind = .separator ∧ second.token.kind = .separator)

theorem Lexes.head_separates {frames : List Frame} {start : Nat} {text : Text}
    {lexemes : List Lexeme} (lexed : Lexes frames start text lexemes) :
    ∀ lexeme ∈ lexemes.head?, lexeme.token.kind = .separator →
      ∃ c ∈ text.head?, (Scope.within frames).Separates separators c := by
  intro lexeme first kind
  cases lexed with
  | separator nonempty run whole others =>
    rcases List.exists_cons_of_ne_nil nonempty with ⟨c, text, rfl⟩
    exact ⟨c, rfl, run c List.mem_cons_self⟩
  | _ =>
    cases first
    cases kind

theorem separatorsApart_append {found lexemes : List Lexeme}
    (others : ∀ lexeme ∈ found, lexeme.token.kind ≠ .separator)
    (apart : lexemes.IsChain SeparatorsApart) : (found ++ lexemes).IsChain SeparatorsApart := by
  induction found with
  | nil => exact apart
  | cons lexeme found ih =>
    have later := ih fun other member => others other (List.mem_cons_of_mem lexeme member)
    have here := others lexeme List.mem_cons_self
    exact List.isChain_cons.mpr ⟨fun next first both => here both.1, later⟩

theorem separatorsApart_cons {lexemes : List Lexeme} (token : Token) (start : Nat)
    (other : token.kind ≠ .separator) (apart : lexemes.IsChain SeparatorsApart) :
    (⟨token, start⟩ :: lexemes).IsChain SeparatorsApart := by
  have found : ∀ lexeme ∈ [Lexeme.mk token start], lexeme.token.kind ≠ .separator := by
    simpa using other
  exact separatorsApart_append found apart

theorem CodesLex.not_separator {rest list : Text} {start : Nat} {lexemes : List Lexeme}
    (lexed : CodesLex rest start list lexemes) :
    ∀ lexeme ∈ lexemes, lexeme.token.kind ≠ .separator := by
  intro lexeme member kind
  rcases lexed.inCodes lexeme member with ⟨text, code⟩ | semicolon
  · rw [code] at kind
    cases kind
  · rw [semicolon] at kind
    cases kind

theorem Lexes.separatorsApart {frames : List Frame} {start : Nat} {text : Text}
    {lexemes : List Lexeme} (lexed : Lexes frames start text lexemes) :
    lexemes.IsChain SeparatorsApart := by
  induction lexed with
  | done => exact .singleton _
  | @separator frames start text rest more nonempty run whole others ih =>
    refine List.isChain_cons.mpr ⟨?_, ih⟩
    intro next first both
    rcases others.head_separates next first both.2 with ⟨c, head, separates⟩
    exact whole c head separates
  | call letter other others ih =>
    exact separatorsApart_cons _ _ nofun (separatorsApart_cons _ _ nofun ih)
  | @style frames start list rest codes more listed others ih =>
    have body := separatorsApart_cons .parenOpen (start + list.length + 1) nofun ih
    exact separatorsApart_cons _ _ nofun (separatorsApart_append listed.not_separator body)
  | codes listed bodiless others ih =>
    exact separatorsApart_cons _ _ nofun (separatorsApart_append listed.not_separator ih)
  | literal _ _ ih | escaped _ _ ih | field _ _ _ ih | group _ _ ih | close _ _ ih | comma _ ih
    | paren _ ih | stray _ _ ih => exact separatorsApart_cons _ _ nofun ih

def Lexeme.covers (lexeme : Lexeme) (place : Nat) : Bool :=
  lexeme.offset ≤ place ∧ place < lexeme.offset + lexeme.token.width

theorem Placed.isChain {start : Nat} {lexemes : List Lexeme} (placed : Placed start lexemes) :
    lexemes.IsChain fun first second => second.offset = first.offset + first.token.width := by
  induction lexemes generalizing start with
  | nil => exact .nil
  | cons lexeme rest ih =>
    rcases placed with ⟨here, later⟩
    refine List.isChain_cons.mpr ⟨?_, ih later⟩
    intro next first
    rcases List.head?_eq_some_iff.mp first with ⟨more, rfl⟩
    rw [here, ← Token.length_source]
    exact later.1

theorem Placed.countP_covers {start : Nat} {lexemes : List Lexeme}
    (placed : Placed start lexemes) (place : Nat) :
    lexemes.countP (·.covers place) =
      if start ≤ place ∧ place < start + (written lexemes).length then 1 else 0 := by
  induction lexemes generalizing start with
  | nil =>
    have nothing : ¬ (start ≤ place ∧ place < start + (written []).length) := by
      simp
    rw [if_neg nothing]
    rfl
  | cons lexeme rest ih =>
    rcases placed with ⟨here, later⟩
    rw [List.countP_cons, ih later, written_cons, List.length_append, Token.length_source]
    simp only [Lexeme.covers, here, decide_eq_true_eq]
    split <;> split <;> split <;> omega

theorem Placed.le_offset {start : Nat} {lexemes : List Lexeme} (placed : Placed start lexemes) :
    ∀ lexeme ∈ lexemes, start ≤ lexeme.offset := by
  induction lexemes generalizing start with
  | nil => nofun
  | cons lexeme rest ih =>
    rcases placed with ⟨here, later⟩
    refine List.forall_mem_cons.mpr ⟨Nat.le_of_eq here.symm, ?_⟩
    intro other member
    exact Nat.le_trans (Nat.le_add_right _ _) (ih later other member)

theorem Placed.nodup_offsets {start : Nat} {lexemes : List Lexeme} (placed : Placed start lexemes)
    (ended : SoundToEnd lexemes) : (lexemes.map (·.offset)).Nodup := by
  rcases ended with ⟨inner, place, split, sound⟩
  subst split
  induction inner generalizing start with
  | nil => simp
  | cons lexeme inner ih =>
    rcases placed with ⟨here, later⟩
    rcases List.forall_mem_cons.mp sound with ⟨first, others⟩
    refine List.nodup_cons.mpr ⟨?_, ih others later⟩
    intro again
    rcases List.mem_map.mp again with ⟨other, member, same⟩
    change other.offset = lexeme.offset at same
    have behind := later.le_offset other member
    have width := first.width_pos
    rw [Token.length_source] at behind
    omega

/-- The lexemes stand side by side from the beginning of the source to its end, each of them over
the text that it is written as. -/
structure Tiling (source : Text) (lexemes : List Lexeme) : Prop where
  begins : ∃ first rest, lexemes = first :: rest ∧ first.offset = 0
  joins : lexemes.IsChain fun first second =>
    second.offset = first.offset + first.token.width
  ends : ∃ inner, lexemes = inner ++ [⟨.endOfInput, source.length⟩] ∧
    ∀ lexeme ∈ inner, lexeme.token ≠ .endOfInput ∧ 0 < lexeme.token.width
  spelled : ∀ lexeme ∈ lexemes,
    (source.drop lexeme.offset).take lexeme.token.width = lexeme.token.source
  plain : ∀ text offset, ⟨.literal text, offset⟩ ∈ lexemes → ∀ c ∈ text, c ≠ '\'' ∧ c ≠ '\\'
  whole : lexemes.flatMap (·.token.source) = source
  single : ∀ place < source.length, lexemes.countP (·.covers place) = 1
  apart : lexemes.IsChain SeparatorsApart

theorem Lexes.spelled_in_place {source : Text} {lexemes : List Lexeme}
    (lexed : Lexes [] 0 source lexemes) :
    ∀ lexeme ∈ lexemes,
      (source.drop lexeme.offset).take lexeme.token.width = lexeme.token.source := by
  intro lexeme member
  rcases lexed.exists_text member with ⟨before, after, split, place⟩
  rw [split, place, List.append_assoc, List.drop_left, ← Token.length_source, List.take_left]

theorem tokenize_tiles {source : Text} {lexemes : List Lexeme}
    (tokenized : tokenize source = .ok lexemes) : Tiling source lexemes := by
  have lexed := tokenize_eq_ok_iff.mp tokenized
  rcases lexed.layout with ⟨whole, placed⟩
  rcases lexed.soundToEnd with ⟨inner, place, split, sound⟩
  have last : place = source.length := by
    have marked := placed.of_split split
    rw [split, written_append] at whole
    simp [Token.source, Token.text] at whole
    rw [← whole]
    exact marked
  subst last
  exact
    { begins := by
        cases lexemes with
        | nil => simp at split
        | cons first rest => exact ⟨first, rest, rfl, placed.1⟩
      joins := placed.isChain
      ends := ⟨inner, split, fun lexeme member =>
        ⟨(sound lexeme member).not_end, (sound lexeme member).width_pos⟩⟩
      spelled := lexed.spelled_in_place
      plain := fun text offset member => lexed.sound_of_mem member Token.noConfusion
      whole := whole
      single := by
        intro place inside
        rw [placed.countP_covers, whole, if_pos ⟨Nat.zero_le place, by omega⟩]
      apart := lexed.separatorsApart }

theorem tokenize_tiles_arguments :
    ∃ lexemes, tokenize "\\b('a' ,_)#r;12\\'".toList = .ok lexemes ∧
      lexemes.map (·.offset) = [0, 2, 3, 6, 7, 8, 9, 10, 11, 12, 13, 15, 17] ∧
      Tiling "\\b('a' ,_)#r;12\\'".toList lexemes := by
  have tokenized : tokenize "\\b('a' ,_)#r;12\\'".toList = .ok
      [⟨.field 'b', 0⟩, ⟨.parenOpen, 2⟩, ⟨.literal ['a'], 3⟩, ⟨.separator [' '], 6⟩, ⟨.comma, 7⟩,
        ⟨.separator ['_'], 8⟩, ⟨.close .paren, 9⟩, ⟨.styleOpen, 10⟩, ⟨.styleCode ['r'], 11⟩,
        ⟨.semicolon, 12⟩, ⟨.styleCode ['1', '2'], 13⟩, ⟨.escaped '\'', 15⟩,
        ⟨.endOfInput, 17⟩] := rfl
  exact ⟨_, tokenized, rfl, tokenize_tiles tokenized⟩

end GitPrompt.Format
