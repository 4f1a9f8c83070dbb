import GitPrompt.Proofs.Format.Limit
import GitPrompt.Proofs.Format.Parsing
import GitPrompt.Proofs.Format.Tokens

/-!
Reading a format by recursive descent goes as the stack of open constructs does, whatever limit of
digits the numbers are read within. A descent can crash in many ways, and does so in one only: it
comes to a number that has more digits than the limit.
-/
namespace GitPrompt.Format

namespace Descent

/-- Tokens of which the last, and no other, marks the end of the input. No style code among them
is empty. -/
def Ended (tokens : List Lexeme) : Prop :=
  ∃ inner place, tokens = inner ++ [⟨.endOfInput, place⟩] ∧
    ∀ found ∈ inner, found.token ≠ .endOfInput ∧ found.token ≠ .styleCode []

theorem ended_of_lexes {frames : List Frame} {start : Nat} {text : Text} {tokens : List Lexeme}
    (lexed : Lexes frames start text tokens) : Ended tokens := by
  rcases lexed.soundToEnd with ⟨inner, place, split, sound⟩
  refine ⟨inner, place, split, ?_⟩
  intro found member
  exact ⟨(sound found member).not_end, (sound found member).not_empty⟩

section
variable {tokens : List Lexeme} {found : Lexeme} {i : Nat}

theorem exists_token (inside : i < tokens.length) : ∃ found, tokens[i]? = some found :=
  ⟨tokens[i], List.getElem?_eq_getElem inside⟩

theorem drop_of_token (here : tokens[i]? = some found) :
    tokens.drop i = found :: tokens.drop (i + 1) := by
  rcases List.getElem?_eq_some_iff.mp here with ⟨inside, rfl⟩
  exact List.drop_eq_getElem_cons inside

theorem Ended.next (ended : Ended tokens) (here : tokens[i]? = some found) :
    i + 1 < tokens.length ∧ found.token ≠ .endOfInput ∧ found.token ≠ .styleCode [] ∨
      i + 1 = tokens.length ∧ found.token = .endOfInput := by
  rcases ended with ⟨inner, place, rfl, others⟩
  rw [List.length_append, List.length_singleton]
  by_cases inside : i < inner.length
  · rw [List.getElem?_append_left inside] at here
    exact .inl ⟨by omega, others found (List.mem_of_getElem? here)⟩
  · rw [List.getElem?_append_right (by omega)] at here
    have last : i - inner.length < 1 := (List.getElem?_eq_some_iff.mp here).1
    have final : i - inner.length = 0 := by omega
    rw [final] at here
    cases here
    exact .inr ⟨by omega, rfl⟩

theorem Ended.inside (ended : Ended tokens) (here : tokens[i]? = some found)
    (more : found.token ≠ .endOfInput) : i + 1 < tokens.length := by
  rcases ended.next here with ⟨inside, -⟩ | ⟨-, final⟩
  · exact inside
  · exact absurd final more

end

/-- A production does at an index what the stack of open constructs does there, around whatever
is open. It halts where the stack does, or because the recursion is deeper than tokens are left. -/
def Produces {α : Type} (limit : Option Nat) (tokens : List Lexeme) (least i : Nat)
    (before : List Level → Reading) (after : α × Nat → List Level → Reading) (post : Nat → Prop) :
    Except Halt (α × Nat) → Prop
  | .ok (value, j) => post j ∧ j < tokens.length ∧
      ∀ levels, (before levels).runWithin limit (tokens.drop i) =
        (after (value, j) levels).runWithin limit (tokens.drop j)
  | .error halt => halt = .crashed .tooDeep ∧ least < tokens.length ∨
      ∀ levels, (before levels).runWithin limit (tokens.drop i) = .error halt

section
variable {α β : Type} {limit : Option Nat} {tokens : List Lexeme} {least i : Nat}
  {before mid : List Level → Reading} {after : α × Nat → List Level → Reading} {post : Nat → Prop}
  {found : Lexeme} {outcome : Except Halt (α × Nat)}

theorem Produces.done {value : α} (holds : post i) (inside : i < tokens.length)
    (same : ∀ levels, before levels = after (value, i) levels) :
    Produces limit tokens least i before after post (.ok (value, i)) :=
  ⟨holds, inside, fun levels => by rw [same levels]⟩

theorem Produces.moved {j : Nat}
    (same : ∀ levels, (before levels).runWithin limit (tokens.drop i) =
      (mid levels).runWithin limit (tokens.drop j))
    (later : Produces limit tokens least j mid after post outcome) :
    Produces limit tokens least i before after post outcome := by
  match outcome, later with
  | .ok (value, k), ⟨holds, inside, run⟩ =>
    exact ⟨holds, inside, fun levels => (same levels).trans (run levels)⟩
  | .error halt, .inl deep => exact .inl deep
  | .error halt, .inr stopped => exact .inr fun levels => (same levels).trans (stopped levels)

theorem Produces.stepWithin (here : tokens[i]? = some found)
    (stepped : ∀ levels, (before levels).stepWithin limit found = .ok (mid levels))
    (later : Produces limit tokens least (i + 1) mid after post outcome) :
    Produces limit tokens least i before after post outcome := by
  refine later.moved fun levels => ?_
  rw [drop_of_token here, Reading.runWithin, List.foldlM_cons, stepped levels]
  rfl

theorem Produces.haltWithin {halt : Halt} (here : tokens[i]? = some found)
    (stopped : ∀ levels, (before levels).stepWithin limit found = .error halt) :
    Produces limit tokens least i before after post (.error halt) := by
  refine .inr fun levels => ?_
  rw [drop_of_token here, Reading.runWithin, List.foldlM_cons, stopped levels]
  rfl

theorem Produces.step (here : tokens[i]? = some found)
    (plain : ∀ levels, (before levels).stepWithin limit found =
      ((before levels).step found).mapError .raised)
    (stepped : ∀ levels, (before levels).step found = .ok (mid levels))
    (later : Produces limit tokens least (i + 1) mid after post outcome) :
    Produces limit tokens least i before after post outcome := by
  refine .stepWithin here (fun levels => ?_) later
  rw [plain levels, stepped levels]
  rfl

theorem Produces.raise {fault : Fault} {place : Nat} (here : tokens[i]? = some found)
    (plain : ∀ levels, (before levels).stepWithin limit found =
      ((before levels).step found).mapError .raised)
    (stopped : ∀ levels, (before levels).step found = .error ⟨fault, place⟩) :
    Produces limit tokens least i before after post (raise fault place) := by
  refine .haltWithin here fun levels => ?_
  rw [plain levels, stopped levels]
  rfl

theorem Produces.bind {between : β × Nat → List Level → Reading} {kept : Nat → Prop}
    {first : Except Halt (β × Nat)} {next : β × Nat → Except Halt (α × Nat)}
    (produces : Produces limit tokens least i before between kept first)
    (later : ∀ value j, kept j → j < tokens.length →
      Produces limit tokens least j (between (value, j)) after post (next (value, j))) :
    Produces limit tokens least i before after post (first >>= next) := by
  match first, produces with
  | .ok (value, j), ⟨holds, inside, run⟩ => exact (later value j holds inside).moved run
  | .error halt, stopped => exact stopped

theorem Produces.under (above : List Level → List Level)
    (produces : Produces limit tokens least i before after post outcome) :
    Produces limit tokens least i (fun levels => before (above levels))
      (fun result levels => after result (above levels)) post outcome := by
  match outcome, produces with
  | .ok (value, j), ⟨holds, inside, same⟩ =>
    exact ⟨holds, inside, fun levels => same (above levels)⟩
  | .error halt, .inl deep => exact .inl deep
  | .error halt, .inr stopped => exact .inr fun levels => stopped (above levels)

theorem Produces.weaken {more : Nat} {kept : Nat → Prop}
    (produces : Produces limit tokens more i before after kept outcome) (fewer : least ≤ more)
    (keeps : ∀ j, kept j → post j) : Produces limit tokens least i before after post outcome := by
  match outcome, produces with
  | .ok (value, j), ⟨holds, inside, same⟩ => exact ⟨keeps j holds, inside, same⟩
  | .error halt, .inl ⟨deep, bound⟩ => exact .inl ⟨deep, Nat.lt_of_le_of_lt fewer bound⟩
  | .error halt, .inr stopped => exact .inr stopped

end

def endsSequence : Token → Bool
  | .close _ | .comma | .semicolon | .styleCode _ | .endOfInput => true
  | _ => false

def Ends (tokens : List Lexeme) (i : Nat) : Prop :=
  ∃ found, tokens[i]? = some found ∧ endsSequence found.token = true

def ReadsBodies (limit : Option Nat) (tokens : List Lexeme) (fuel : Nat)
    (body : Nat → Except Halt (Draft × Nat)) : Prop :=
  ∀ i, i < tokens.length →
    Produces limit tokens (fuel + i) i (fun levels => ⟨levels, .empty, .ready⟩)
      (fun draft levels => ⟨levels, draft.1, .ready⟩) (fun j => i ≤ j ∧ Ends tokens j) (body i)

abbrev Adds (limit : Option Nat) (tokens : List Lexeme) (least i : Nat) (draft : Draft) :
    Except Halt (Element × Nat) → Prop :=
  Produces limit tokens least i (fun levels => ⟨levels, draft, .ready⟩)
    (fun element levels => ⟨levels, draft.add element.1, .ready⟩) (fun j => i < j)

section
variable {limit : Option Nat} {tokens : List Lexeme} {least i : Nat} {found : Lexeme}

theorem token_eq (here : tokens[i]? = some found) : token tokens i = .ok found := by
  rw [token, here]
  rfl

theorem ok_bind {α β : Type} (value : α) (next : α → Except Halt β) :
    (.ok value : Except Halt α) >>= next = next value := rfl

theorem closerTexts_lookup (closer : Closer) :
    closerTexts.lookup (.close closer) = some closer.char := by
  cases closer <;> rfl

theorem kind_eq_close {token : Token} {closer : Closer} :
    token.kind = .close closer ↔ token = .close closer := by
  cases token <;> simp [Token.kind]

theorem Produces.close {α : Type} {level : Level} {inner : Draft}
    {after : α × Nat → List Level → Reading} {post : Nat → Prop}
    {outcome : Except Halt (α × Nat)} (here : tokens[i]? = some found)
    (fits : found.token = .close level.opening.frame.closer)
    (later : Produces limit tokens least (i + 1)
      (fun levels => ⟨levels, level.outer.add (level.opening.element inner.sequence), .ready⟩)
      after post outcome) :
    Produces limit tokens least i (fun levels => ⟨level :: levels, inner, .ready⟩) after post
      outcome := by
  refine .step here (fun levels => rfl) ?_ later
  intro levels
  simp only [Reading.step, Reading.readElement, Reading.stop, fits, ↓reduceIte]

theorem step_unclosed {level : Level} {levels : List Level} {inner : Draft}
    (ends : endsSequence found.token = true)
    (other : found.token ≠ .close level.opening.frame.closer)
    (noComma : level.opening.frame = .arguments → found.token ≠ .comma) :
    Reading.step ⟨level :: levels, inner, .ready⟩ found =
      .error ⟨.unclosed level.opening.frame level.opened found.token, found.offset⟩ := by
  rcases found with ⟨token, place⟩
  rcases level with ⟨opening, opened, outer⟩
  have stopped : Reading.step ⟨⟨opening, opened, outer⟩ :: levels, inner, .ready⟩ ⟨token, place⟩ =
      Reading.stop ⟨⟨opening, opened, outer⟩ :: levels, inner, .ready⟩ ⟨token, place⟩ := by
    cases token <;> first | rfl | cases ends
  rw [stopped, Reading.stop]
  simp only [if_neg other]
  split
  · exact absurd rfl (noComma rfl)
  · rfl

theorem closed_produces (limit : Option Nat) (least : Nat) (ended : Ended tokens)
    (ends : Ends tokens i) (level : Level) (inner : Draft)
    (noComma : ∀ found, tokens[i]? = some found → level.opening.frame = .arguments →
      found.token ≠ .comma) :
    Produces limit tokens least i (fun levels => ⟨level :: levels, inner, .ready⟩)
      (fun element levels => ⟨levels, level.outer.add element.1, .ready⟩) (fun j => i < j)
      (closed tokens (.close level.opening.frame.closer) level.opening.frame level.opened
        (level.opening.element inner.sequence) i) := by
  rcases ends with ⟨found, here, ends⟩
  unfold closed
  rw [token_eq here, ok_bind]
  by_cases fits : found.token = .close level.opening.frame.closer
  · rw [if_pos (kind_eq_close.mpr fits)]
    have more := ended.inside here (by simp [fits])
    exact .close here fits (.done (Nat.lt_succ_self i) more fun levels => rfl)
  · rw [if_neg (fun kind => fits (kind_eq_close.mp kind)), closerTexts_lookup]
    exact .raise here (fun levels => rfl) fun levels => step_unclosed ends fits (noComma found here)

/-- Where the semicolon stands that a list of codes ends with so far. -/
def mark (tokens : List Lexeme) (semicolon : Bool) (i : Nat) : Option Nat :=
  if semicolon then tokens[i - 1]?.map Lexeme.offset else none

theorem mark_isSome (inside : i < tokens.length) (semicolon : Bool) :
    (mark tokens semicolon i).isSome = semicolon := by
  cases semicolon with
  | false => rfl
  | true =>
    have earlier : i - 1 < tokens.length := by omega
    simp [mark, List.getElem?_eq_getElem earlier]

theorem mark_next (here : tokens[i]? = some found) :
    mark tokens true (i + 1) = some found.offset := by
  simp [mark, here]

theorem codes_produces (ended : Ended tokens) (draft : Draft) (opened : Nat) (fuel : Nat)
    (before : List Style.Code) (semicolon : Bool) (inside : i < tokens.length) :
    Produces limit tokens (fuel + i) i
      (fun levels => ⟨levels, draft, .codes opened before (mark tokens semicolon i)⟩)
      (fun result levels =>
        ⟨levels, draft, .codes opened result.1.1 (mark tokens result.1.2 result.2)⟩)
      (fun j => i ≤ j ∧ ∃ found, tokens[j]? = some found ∧ EndsCodes found)
      (codes limit tokens fuel before semicolon i) := by
  induction fuel generalizing before semicolon i with
  | zero => exact .inl ⟨rfl, by omega⟩
  | succ fuel ih =>
    rcases exists_token inside with ⟨⟨token, place⟩, here⟩
    rw [codes, token_eq here, ok_bind]
    have farther : ∀ j, i + 1 ≤ j ∧ (∃ found, tokens[j]? = some found ∧ EndsCodes found) →
        i ≤ j ∧ ∃ found, tokens[j]? = some found ∧ EndsCodes found :=
      fun j kept => ⟨by omega, kept.2⟩
    cases token with
    | styleCode text =>
      have more := ended.inside here (by simp)
      dsimp only
      cases read : code limit place text with
      | error halt =>
        refine .haltWithin here fun levels => ?_
        simp only [Reading.stepWithin, read]
        rfl
      | ok code =>
        refine .stepWithin here (fun levels => ?_)
          ((ih (code :: before) false more).weaken (by omega) farther)
        simp only [Reading.stepWithin, read]
        rfl
    | semicolon =>
      have more := ended.inside here (by simp)
      have other : ∀ text, Token.semicolon ≠ .styleCode text := fun text => Token.noConfusion
      by_cases stray : before = [] ∨ semicolon = true
      · simp only [if_pos stray]
        refine .raise here (fun levels => Reading.stepWithin_other other) fun levels => ?_
        simp only [Reading.step, Reading.readCodes, mark_isSome inside]
        rw [if_pos (by simpa using stray)]
      · simp only [if_neg stray]
        refine .step here (fun levels => Reading.stepWithin_other other) (fun levels => ?_)
          ((ih before true more).weaken (by omega) farther)
        simp only [Reading.step, Reading.readCodes, mark_isSome inside, mark_next here]
        rw [if_neg (by simpa using stray)]
    | _ => exact .done ⟨Nat.le_refl i, _, here, by simp [EndsCodes]⟩ inside fun levels => rfl

variable {body : Nat → Except Halt (Draft × Nat)} {fuel : Nat}

theorem enclosed_produces (ended : Ended tokens) (bodies : ReadsBodies limit tokens fuel body)
    (level : Level) (single : level.opening.frame ≠ .arguments) (inside : i < tokens.length) :
    Produces limit tokens (fuel + i) i (fun levels => ⟨level :: levels, .empty, .ready⟩)
      (fun element levels => ⟨levels, level.outer.add element.1, .ready⟩) (fun j => i < j)
      (body i >>= fun inner =>
        closed tokens (.close level.opening.frame.closer) level.opening.frame level.opened
          (level.opening.element inner.1.sequence) inner.2) := by
  refine .bind ((bodies i inside).under (level :: ·)) ?_
  rintro inner j ⟨later, ends⟩ -
  have produced := closed_produces limit (fuel + i) ended ends level inner
    (fun found _ arguments => absurd arguments single)
  exact produced.weaken (Nat.le_refl _) fun k after => by omega

theorem groupClosers_lookup (kind : GroupKind) :
    groupClosers.lookup kind = some (.close kind.closer) := by
  cases kind <;> rfl

theorem groupKind_find (kind : GroupKind) :
    GroupKind.all.find? (fun other => Text.words other.name == Text.words kind.name) =
      some kind := by
  have apart : ∀ other : GroupKind,
      (Text.words other.name == Text.words kind.name) = (other.name == kind.name) := by
    intro other
    rw [Bool.eq_iff_iff, beq_iff_eq, beq_iff_eq, Text.words_eq, Text.words_eq, String.toList_inj]
  simp only [apart]
  cases kind <;> rfl

theorem group_produces (ended : Ended tokens) (bodies : ReadsBodies limit tokens fuel body)
    (draft : Draft) {kind : GroupKind} {place : Nat}
    (here : tokens[i]? = some ⟨.groupOpen kind, place⟩) :
    Adds limit tokens (fuel + i + 1) i draft (group tokens body ⟨.groupOpen kind, place⟩ i) := by
  have more := ended.inside here (by simp)
  unfold group
  simp only [Token.text, groupKind_find, groupClosers_lookup, sure, ok_bind]
  refine .step here (fun levels => rfl) (fun levels => rfl) ?_
  exact (enclosed_produces ended bodies ⟨.group kind, place, draft⟩ Frame.noConfusion more).weaken
    (Nat.le_refl _) fun j after => by omega

theorem styled_produces (ended : Ended tokens) (bodies : ReadsBodies limit tokens fuel body)
    (draft : Draft) (opened : Nat) (codes : List Style.Code) (semicolon : Bool)
    (here : tokens[i]? = some found) (ends : EndsCodes found) :
    Produces limit tokens (fuel + i) i
      (fun levels => ⟨levels, draft, .codes opened codes (mark tokens semicolon i)⟩)
      (fun element levels => ⟨levels, draft.add element.1, .ready⟩) (fun j => i < j)
      (styled tokens body opened codes semicolon i) := by
  have inside : i < tokens.length := (List.getElem?_eq_some_iff.mp here).1
  unfold styled
  have other : ∀ levels : List Level,
      let reading : Reading := ⟨levels, draft, .codes opened codes (mark tokens semicolon i)⟩
      reading.stepWithin limit found = (reading.step found).mapError .raised :=
    fun levels => Reading.stepWithin_other ends.1
  rw [token_eq here, ok_bind]
  by_cases empty : codes = []
  · rw [if_pos empty]
    refine .raise here other fun levels => ?_
    rw [Reading.step_endsCodes ends, if_pos empty]
  rw [if_neg empty]
  cases semicolon with
  | true =>
    -- The semicolon at fault is the token before this one.
    have earlier : i - 1 < tokens.length := by omega
    rcases exists_token earlier with ⟨last, there⟩
    have marked : mark tokens true i = some last.offset := by simp [mark, there]
    rw [if_pos rfl, token_eq there, ok_bind]
    refine .raise here other fun levels => ?_
    rw [Reading.step_endsCodes ends, if_neg empty, marked]
  | false =>
    have unmarked : mark tokens false i = none := rfl
    rw [if_neg Bool.false_ne_true]
    by_cases paren : found.token = .parenOpen
    · have more := ended.inside here (by simp [paren])
      have enters : ∀ levels : List Level,
          Reading.step ⟨levels, draft, .codes opened codes (mark tokens false i)⟩ found =
            .ok ⟨⟨.style codes, opened, draft⟩ :: levels, .empty, .ready⟩ := by
        intro levels
        rw [Reading.step_endsCodes ends, if_neg empty, unmarked]
        simp only [if_pos paren]
      rw [if_neg (not_not_intro paren)]
      refine .step here other enters ?_
      exact (enclosed_produces ended bodies ⟨.style codes, opened, draft⟩ nofun more).weaken
        (by omega) fun j after => by omega
    · rw [if_pos paren]
      refine .raise here other fun levels => ?_
      rw [Reading.step_endsCodes ends, if_neg empty, unmarked]
      simp only [if_neg paren]

theorem style_produces (ended : Ended tokens) (bodies : ReadsBodies limit tokens fuel body)
    (draft : Draft) {place : Nat} (here : tokens[i]? = some ⟨.styleOpen, place⟩) :
    Adds limit tokens (fuel + i + 1) i draft
      (style limit tokens body fuel ⟨.styleOpen, place⟩ i) := by
  have more := ended.inside here (by simp)
  have opens : ∀ levels : List Level, Reading.step ⟨levels, draft, .ready⟩ ⟨.styleOpen, place⟩ =
      .ok ⟨levels, draft, .codes place [] (mark tokens false (i + 1))⟩ := fun levels => rfl
  unfold style
  refine .step here (fun levels => rfl) opens
    (.bind (codes_produces ended draft place fuel [] false more) ?_)
  rintro ⟨codes, semicolon⟩ j ⟨later, found, there, ends⟩ -
  exact (styled_produces ended bodies draft place codes semicolon there ends).weaken (by omega)
    fun k after => by omega

theorem Ends.inside (ends : Ends tokens i) : i < tokens.length := by
  rcases ends with ⟨found, here, -⟩
  exact (List.getElem?_eq_some_iff.mp here).1

theorem arguments_produces (ended : Ended tokens) (bodies : ReadsBodies limit tokens fuel body)
    (field : Field) (offset opened : Nat) (outer last : Draft) (before : List Sequence)
    {rounds : Nat} (fewer : rounds ≤ fuel) (ends : Ends tokens i) :
    Produces limit tokens (rounds + i) i
      (fun levels => ⟨⟨.arguments field offset before, opened, outer⟩ :: levels, last, .ready⟩)
      (fun result levels =>
        ⟨⟨.arguments field offset result.1.2, opened, outer⟩ :: levels, result.1.1, .ready⟩)
      (fun j => i ≤ j ∧ Ends tokens j ∧ ∀ found, tokens[j]? = some found → found.token ≠ .comma)
      (arguments tokens body rounds last before i) := by
  induction rounds generalizing last before i with
  | zero => exact .inl ⟨rfl, by simpa using ends.inside⟩
  | succ rounds ih =>
    have inside := ends.inside
    rcases ends with ⟨⟨token, place⟩, here, stops⟩
    rw [arguments, token_eq here, ok_bind]
    by_cases comma : token = .comma
    · subst comma
      have more := ended.inside here (by simp)
      rw [if_pos rfl]
      refine .step here (fun levels => rfl) (fun levels => rfl) ?_
      have argument := (bodies (i + 1) more).under
        (⟨.arguments field offset (last.sequence :: before), opened, outer⟩ :: ·)
      refine .bind (argument.weaken (by omega) fun j kept => kept) ?_
      rintro argument j ⟨later, ends⟩ -
      exact (ih argument (last.sequence :: before) (by omega) ends).weaken (by omega)
        fun k kept => ⟨by omega, kept.2⟩
    · rw [if_neg comma]
      refine .done ⟨Nat.le_refl i, ⟨_, here, stops⟩, ?_⟩ inside fun levels => rfl
      intro found again
      rw [here] at again
      cases again
      exact comma

theorem called_produces (ended : Ended tokens) (bodies : ReadsBodies limit tokens fuel body)
    (field : Field) (place opened : Nat) (draft : Draft) (inside : i < tokens.length) :
    Produces limit tokens (fuel + i) i
      (fun levels => ⟨⟨.arguments field place [], opened, draft⟩ :: levels, .empty, .ready⟩)
      (fun element levels => ⟨levels, draft.add element.1, .ready⟩) (fun j => i < j)
      (called tokens body fuel field place opened i) := by
  have first := (bodies i inside).under (⟨.arguments field place [], opened, draft⟩ :: ·)
  refine .bind first ?_
  rintro first j ⟨afterFirst, ends⟩ -
  have others := arguments_produces ended bodies field place opened draft first []
    (Nat.le_refl fuel) ends
  refine .bind (others.weaken (by omega) fun k kept => kept) ?_
  rintro ⟨last, before⟩ k ⟨afterOthers, ends, noComma⟩ -
  have whole := closed_produces limit (fuel + i) ended ends
    ⟨.arguments field place before, opened, draft⟩ last fun found here _ => noComma found here
  exact whole.weaken (Nat.le_refl _) fun l after => by omega

theorem field_produces (ended : Ended tokens) (bodies : ReadsBodies limit tokens fuel body)
    (draft : Draft) {letter : Char} {place : Nat}
    (here : tokens[i]? = some ⟨.field letter, place⟩) :
    Adds limit tokens (fuel + i + 1) i draft (field tokens body fuel letter place i) := by
  unfold field
  cases known : Field.ofLetter? letter with
  | none =>
    refine .raise here (fun levels => rfl) fun levels => ?_
    simp only [Reading.step, Reading.readElement, known]
  | some field =>
    have more := ended.inside here (by simp)
    have begins : ∀ levels : List Level,
        Reading.step ⟨levels, draft, .ready⟩ ⟨.field letter, place⟩ =
          .ok ⟨levels, draft, .fieldRead field place⟩ := by
      intro levels
      simp only [Reading.step, Reading.readElement, known]
    rcases exists_token more with ⟨⟨token, opened⟩, there⟩
    dsimp only
    rw [token_eq there, ok_bind]
    refine .step here (fun levels => rfl) begins ?_
    by_cases paren : token = .parenOpen
    · subst paren
      rw [if_neg (not_not_intro rfl)]
      refine .step there (fun levels => rfl) (fun levels => rfl) ?_
      exact (called_produces ended bodies field place opened draft
        (ended.inside there (by simp))).weaken (by omega) fun j after => by omega
    · rw [if_pos paren]
      refine ⟨Nat.lt_succ_self i, more, fun levels => ?_⟩
      rw [drop_of_token there, Reading.runWithin_fieldRead paren]

theorem element_produces (ended : Ended tokens) (bodies : ReadsBodies limit tokens fuel body)
    (draft : Draft) (here : tokens[i]? = some found) (starts : startsElement found.token = true) :
    Adds limit tokens (fuel + i + 1) i draft (element limit tokens body fuel i) := by
  rcases found with ⟨token, place⟩
  unfold element
  rw [token_eq here, ok_bind]
  cases token with
  | literal text =>
    have more := ended.inside here (by simp)
    exact .step here (fun levels => rfl) (fun levels => rfl)
      (.done (Nat.lt_succ_self i) more fun levels => rfl)
  | escaped char =>
    have more := ended.inside here (by simp)
    exact .step here (fun levels => rfl) (fun levels => rfl)
      (.done (Nat.lt_succ_self i) more fun levels => rfl)
  | field letter => exact field_produces ended bodies draft here
  | groupOpen kind => exact group_produces ended bodies draft here
  | styleOpen => exact style_produces ended bodies draft here
  | _ => cases starts

variable (limit) in
theorem sequence_produces (ended : Ended tokens) (fuel : Nat) (draft : Draft)
    (inside : i < tokens.length) :
    Produces limit tokens (fuel + i) i (fun levels => ⟨levels, draft, .ready⟩)
      (fun next levels => ⟨levels, next.1, .ready⟩) (fun j => i ≤ j ∧ Ends tokens j)
      (sequence limit tokens fuel draft i) := by
  induction fuel generalizing draft i with
  | zero => exact .inl ⟨rfl, by omega⟩
  | succ fuel ih =>
    have bodies : ReadsBodies limit tokens fuel (sequence limit tokens fuel .empty) :=
      fun j inside => ih .empty inside
    rcases exists_token inside with ⟨⟨token, place⟩, here⟩
    rw [sequence, turn, token_eq here, ok_bind]
    have goes : startsElement token = true → Produces limit tokens (fuel + 1 + i) i
        (fun levels => ⟨levels, draft, .ready⟩) (fun next levels => ⟨levels, next.1, .ready⟩)
        (fun j => i ≤ j ∧ Ends tokens j)
        (element limit tokens (sequence limit tokens fuel .empty) fuel i >>= fun result =>
          sequence limit tokens fuel (draft.add result.1) result.2) := by
      intro starts
      have first := element_produces ended bodies draft here starts
      refine .bind (first.weaken (by omega) fun j kept => kept) ?_
      rintro element j later inside
      exact (ih (draft.add element) inside).weaken (by omega) fun k kept => ⟨by omega, kept.2⟩
    cases token with
    | separator text =>
      have more := ended.inside here (by simp)
      refine .step here (fun levels => rfl) (fun levels => rfl) ?_
      exact (ih (draft.space text) more).weaken (by omega) fun j kept => ⟨by omega, kept.2⟩
    | unknown char => exact .raise here (fun levels => rfl) fun levels => rfl
    | parenOpen => exact .raise here (fun levels => rfl) fun levels => rfl
    | literal text => exact goes rfl
    | escaped char => exact goes rfl
    | field letter => exact goes rfl
    | groupOpen kind => exact goes rfl
    | styleOpen => exact goes rfl
    | _ => exact .done ⟨Nat.le_refl i, _, here, rfl⟩ inside fun levels => rfl

end

theorem parseTokens_eq (limit : Option Nat) {tokens : List Lexeme} (ended : Ended tokens) :
    parseTokens limit tokens =
      (Reading.initial.runWithin limit tokens).map fun reading => reading.draft.sequence := by
  have inside : 0 < tokens.length := by
    rcases ended with ⟨inner, place, rfl, -⟩
    simp
  have produced := sequence_produces limit ended tokens.length .empty inside
  unfold parseTokens
  match sequence limit tokens tokens.length .empty 0, produced with
  | .ok (draft, j), ⟨⟨_, found, here, ends⟩, _, same⟩ =>
    have run : Reading.initial.runWithin limit tokens =
        Reading.runWithin limit ⟨[], draft, .ready⟩ (tokens.drop j) := same []
    rw [ok_bind, run]
    dsimp only
    rw [token_eq here, ok_bind, drop_of_token here]
    rcases found with ⟨token, place⟩
    cases token with
    | endOfInput =>
      rcases ended.next here with ⟨-, more, -⟩ | ⟨last, -⟩
      · exact absurd rfl more
      · rw [List.drop_eq_nil_of_le (Nat.le_of_eq last.symm)]
        rfl
    | close closer => rfl
    | comma => rfl
    | semicolon => rfl
    | styleCode text => rfl
    | _ => cases ends
  | .error halt, .inl ⟨_, deep⟩ => exact absurd deep (by omega)
  | .error halt, .inr stopped =>
    have run : Reading.initial.runWithin limit tokens = .error halt := stopped []
    rw [run]
    rfl

theorem Ended.nonempty {tokens : List Lexeme} (ended : Ended tokens) :
    ∀ found ∈ tokens, found.token ≠ .styleCode [] := by
  rcases ended with ⟨inner, place, rfl, others⟩
  intro found member
  rcases List.mem_append.mp member with early | last
  · exact (others found early).2
  · rw [List.mem_singleton.mp last]
    nofun

end Descent

/-- Reading the format comes to a number with more digits than the limit, before anything is at
fault. -/
def MeetsNumber (limit : Option Nat) (source digits : Text) : Prop :=
  ∃ lexemes, tokenize source = .ok lexemes ∧ Reading.initial.Meets limit digits lexemes

theorem MeetsNumber.overlong {limit : Option Nat} {source digits : Text}
    (meets : MeetsNumber limit source digits) :
    digits <:+: source ∧ digits.all Text.isAsciiDigit = true ∧ Text.Overlong limit digits := by
  rcases meets with ⟨lexemes, tokenized, meets⟩
  rcases meets.exists_code with ⟨found, member, text, coded, unread⟩
  refine ⟨?_, unread.overlong⟩
  rcases List.append_of_mem member with ⟨before, after, rfl⟩
  have whole := (tokenize_eq_ok_iff.mp tokenized).layout.1
  have spelled : found.token.source = text := by rw [coded]; rfl
  rw [written_append, written_cons, spelled] at whole
  exact unread.isInfix.trans ⟨written before, written after, by rw [← whole, List.append_assoc]⟩

namespace Descent

variable {limit : Option Nat} {source : Text}

theorem parse_of_meets {digits : Text} (meets : MeetsNumber limit source digits) :
    parse limit source = .error (.crashed (.noNumber digits)) := by
  rcases meets with ⟨lexemes, tokenized, meets⟩
  have ended := ended_of_lexes (tokenize_eq_ok_iff.mp tokenized)
  rw [parse, tokenized]
  change parseTokens limit lexemes = _
  rw [parseTokens_eq limit ended, Reading.runWithin_meets ended.nonempty meets]
  rfl

theorem parse_of_clear (clear : ∀ digits, ¬ MeetsNumber limit source digits) :
    parse limit source = (Format.parse source).mapError .raised := by
  unfold parse Format.parse
  cases tokenized : tokenize source with
  | error error => rfl
  | ok lexemes =>
    have ended := ended_of_lexes (tokenize_eq_ok_iff.mp tokenized)
    have unmet : ∀ digits, ¬ Reading.initial.Meets limit digits lexemes :=
      fun digits meets => clear digits ⟨lexemes, tokenized, meets⟩
    change parseTokens limit lexemes = (parseLexemes lexemes).mapError .raised
    rw [parseTokens_eq limit ended, Reading.runWithin_clear ended.nonempty unmet, parseLexemes]
    cases Reading.initial.run lexemes <;> rfl

theorem parse_eq_crashed {crash : Crash} :
    parse limit source = .error (.crashed crash) ↔
      ∃ digits, crash = .noNumber digits ∧ MeetsNumber limit source digits := by
  constructor
  · intro crashed
    by_cases some : ∃ digits, MeetsNumber limit source digits
    · rcases some with ⟨digits, meets⟩
      rw [parse_of_meets meets] at crashed
      cases crashed
      exact ⟨digits, rfl, meets⟩
    · rw [parse_of_clear (not_exists.mp some)] at crashed
      cases outcome : Format.parse source <;> rw [outcome] at crashed <;> cases crashed
  · rintro ⟨digits, rfl, meets⟩
    exact parse_of_meets meets

end Descent

def formatKinds : List ErrorKind :=
  [.unterminatedLiteral, .unrecognizedEscape, .unmatchedDelimiter, .unknownField,
   .unknownStyleCode, .malformedColour, .unexpectedToken, .trailingInput]

theorem Fault.kind_mem (fault : Fault) : fault.kind ∈ formatKinds := by
  cases fault <;> simp [kind, formatKinds]

theorem Descent.takes_of_ok (limit : Option Nat) {tokens : List Lexeme} (ended : Ended tokens)
    {fuel i : Nat} {found : Lexeme} (here : tokens[i]? = some found) :
    (startsElement found.token = true → ∀ element j,
      Descent.element limit tokens (sequence limit tokens fuel .empty) fuel i = .ok (element, j) →
        i < j ∧ j < tokens.length) ∧
      ∀ draft next j, sequence limit tokens fuel draft i = .ok (next, j) →
        i ≤ j ∧ j < tokens.length := by
  have inside : i < tokens.length := (List.getElem?_eq_some_iff.mp here).1
  constructor
  · intro starts element j read
    have bodies : ReadsBodies limit tokens fuel (sequence limit tokens fuel .empty) :=
      fun k inside => sequence_produces limit ended fuel .empty inside
    have produced := element_produces ended bodies .empty here starts
    rw [read] at produced
    exact ⟨produced.1, produced.2.1⟩
  · intro draft next j read
    have produced := sequence_produces limit ended fuel draft inside
    rw [read] at produced
    exact ⟨produced.1.1, produced.2.1⟩

theorem offset_of_parse_error {source : Text} {error : FormatError}
    (failed : parse source = .error error) : error.offset ≤ source.length := by
  rcases bind_eq_error.mp failed with early | ⟨tokens, tokenized, -⟩
  · exact Nat.le_of_lt (offset_of_tokenize_error early)
  · rcases parse_of_comes tokenized with ⟨tree, parsed, -⟩ | ⟨found, stopped, inside, -⟩
    · rw [failed] at parsed
      cases parsed
    · rw [failed] at stopped
      cases stopped
      exact inside

/-- What a descent over a format comes to within a limit of digits, and what its loops take. -/
structure Descends (limit : Option Nat) (source : Text) : Prop where
  /-- There is a tree, or an error of a place in the format, or a number that is too long. -/
  ends : (∃ tree, Descent.parse limit source = .ok tree ∧ parse source = .ok tree) ∨
    (∃ error, Descent.parse limit source = .error (.raised error) ∧
      parse source = .error error ∧ error.kind ∈ formatKinds ∧ error.offset ≤ source.length ∧
      (error.position source).offset = error.offset ∧
      error.position source = Position.ofOffset source error.offset) ∨
    ∃ digits, Descent.parse limit source = .error (.crashed (.noNumber digits)) ∧
      MeetsNumber limit source digits
  crashes : ∀ crash, Descent.parse limit source = .error (.crashed crash) ↔
    ∃ digits, crash = .noNumber digits ∧ MeetsNumber limit source digits
  overlong : ∀ digits, MeetsNumber limit source digits →
    digits <:+: source ∧ digits.all Text.isAsciiDigit = true ∧ Text.Overlong limit digits
  /-- Every round of the loop over the text takes a character. -/
  rounds : tokenize source = rounds [] 0 source
  advances : ∀ (frames : List Frame) (start : Nat) (c : Char) (tail : Text) (round : Round),
    Round.next frames start c tail = .ok round →
      0 < round.length ∧ round.length ≤ (c :: tail).length
  codes : ∀ (c : Char) (tail : Text), c ∉ codesEnd →
    0 < Round.codeLength c tail ∧ Round.codeLength c tail ≤ (c :: tail).length
  /-- Every production for an element takes a token, and none takes the one that marks the end. -/
  takes : ∀ tokens, tokenize source = .ok tokens → Descent.Ended tokens ∧
    ∀ (fuel i : Nat) (found : Lexeme), tokens[i]? = some found →
      (Descent.startsElement found.token = true → ∀ element j,
        Descent.element limit tokens (Descent.sequence limit tokens fuel .empty) fuel i =
          .ok (element, j) → i < j ∧ j < tokens.length) ∧
      ∀ draft next j, Descent.sequence limit tokens fuel draft i = .ok (next, j) →
        i ≤ j ∧ j < tokens.length

theorem ends_of_clear {limit : Option Nat} {source : Text}
    (clear : ∀ digits, ¬ MeetsNumber limit source digits) :
    (∃ tree, Descent.parse limit source = .ok tree ∧ parse source = .ok tree) ∨
      ∃ error, Descent.parse limit source = .error (.raised error) ∧
        parse source = .error error ∧ error.kind ∈ formatKinds ∧ error.offset ≤ source.length ∧
        (error.position source).offset = error.offset ∧
        error.position source = Position.ofOffset source error.offset := by
  have same := Descent.parse_of_clear clear
  cases outcome : parse source with
  | ok tree => exact .inl ⟨tree, by rw [same, outcome]; rfl, rfl⟩
  | error error =>
    have inside := offset_of_parse_error outcome
    have place : (error.position source).offset = error.offset := by
      rw [FormatError.position, Position.offset_ofOffset, Position.clamp]
      omega
    exact .inr ⟨error, by rw [same, outcome]; rfl, rfl, error.fault.kind_mem, inside, place, rfl⟩

/-- A descent crashes at a number that has more digits than the limit, and never otherwise. -/
theorem descent_crashes_iff (limit : Option Nat) (source : Text) : Descends limit source := by
  constructor
  case ends =>
    by_cases some : ∃ digits, MeetsNumber limit source digits
    · rcases some with ⟨digits, meets⟩
      exact .inr (.inr ⟨digits, Descent.parse_of_meets meets, meets⟩)
    · rcases ends_of_clear (not_exists.mp some) with tree | error
      · exact .inl tree
      · exact .inr (.inl error)
  case crashes => exact fun crash => Descent.parse_eq_crashed
  case overlong => exact fun digits => MeetsNumber.overlong
  case rounds => exact tokenize_eq_rounds source
  case advances => exact fun frames start c tail round => Round.consumes
  case codes =>
    intro c tail goes
    rcases Round.exists_code goes 0 with ⟨piece, rest, split, size, -⟩
    refine ⟨Round.codeLength_pos c tail, ?_⟩
    rw [size, split, List.length_append]
    omega
  case takes =>
    intro tokens tokenized
    have ended := Descent.ended_of_lexes (tokenize_eq_ok_iff.mp tokenized)
    exact ⟨ended, fun fuel i found here => Descent.takes_of_ok limit ended here⟩

theorem meetsNumber_style {limit : Option Nat} {digits : Text}
    (ascii : digits.all Text.isAsciiDigit = true) (long : Text.Overlong limit digits) :
    MeetsNumber limit ('#' :: digits ++ '(' :: "'x')".toList) digits := by
  have decimal : ∀ c ∈ digits, c.isDigit = true := by
    intro c member
    exact (Text.isAsciiDigit_iff c).mp (List.all_eq_true.mp ascii c member)
  have listed : CodesLex ('(' :: "'x')".toList) 1 (digits ++ []) [⟨.styleCode digits, 1⟩] := by
    refine .number long.ne_nil decimal ?_ .done
    rintro c ⟨⟩
  rw [List.append_nil] at listed
  have body : ∀ place, ∃ more, Lexes [.style] place "'x')".toList more := by
    intro place
    have plain : ∀ c ∈ ['x'], c ≠ '\'' ∧ c ≠ '\\' := by simp
    exact ⟨_, .literal plain (.close .paren .done)⟩
  rcases body (0 + digits.length + 2) with ⟨more, lexed⟩
  refine ⟨_, tokenize_eq_ok_iff.mpr (.style listed lexed), .later nofun rfl (.here ?_)⟩
  exact ⟨⟨0, [], none, rfl⟩, digits, rfl, .number (.here ascii long)⟩

/-- A colour of four thousand three hundred and one zeros is a format that is neither read as a tree
nor refused with an error. -/
theorem not_descent_ends_zeros :
    let zeros := List.replicate 4301 '0'
    let source := '#' :: zeros ++ '(' :: "'x')".toList
    Descent.parse Text.usualLimit source = .error (.crashed (.noNumber zeros)) ∧
      ¬ ((∃ tree, Descent.parse Text.usualLimit source = .ok tree) ∨
        ∃ error, Descent.parse Text.usualLimit source = .error (.raised error)) := by
  intro zeros source
  have meets : MeetsNumber Text.usualLimit source zeros :=
    meetsNumber_style (Text.ascii_zeros 4301) (Text.overlong_zeros 4300)
  have crash := Descent.parse_of_meets meets
  refine ⟨crash, ?_⟩
  rw [crash]
  rintro (⟨tree, ⟨⟩⟩ | ⟨error, ⟨⟩⟩)

end GitPrompt.Format
