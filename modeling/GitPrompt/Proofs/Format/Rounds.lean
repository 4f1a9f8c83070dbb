import GitPrompt.Proofs.Format.Scanning

/-!
The tokens of a format, found in rounds. Each round of the loop takes whole tokens from the text
that is left, at least one character of it, and leaves the rest to the next round.
-/
namespace GitPrompt.Format

theorem exists_run (p : Char → Bool) (text : Text) :
    ∃ run rest, text = run ++ rest ∧ text.takeWhile p = run ∧ (∀ c ∈ run, p c = true) ∧
      ∀ c ∈ rest.head?, p c = false := by
  refine ⟨text.takeWhile p, text.dropWhile p, (List.takeWhile_append_dropWhile).symm, rfl, ?_, ?_⟩
  · intro c member
    exact List.all_eq_true.mp List.all_takeWhile c member
  · intro c next
    have stops := List.head?_dropWhile_not p text
    rw [Option.mem_def.mp next] at stops
    simpa using stops

/-- What a round finds: its tokens, the constructs that are open after it, and the number of
characters that it took. -/
structure Round where
  lexemes : List Lexeme
  frames : List Frame
  length : Nat

namespace Round

def codeLength (c : Char) (tail : Text) : Nat :=
  match groundOf? c with
  | some ground =>
    let inner := tail.takeWhile fun d => d != bracketClose ground && d != '('
    if (tail.drop inner.length).head? = some (bracketClose ground) then inner.length + 2
    else inner.length + 1
  | none => if c.isDigit then (tail.takeWhile Char.isDigit).length + 1 else 1

theorem codeLength_pos (c : Char) (tail : Text) : 0 < codeLength c tail := by
  unfold codeLength
  split
  · dsimp only
    split <;> exact Nat.succ_pos _
  · split <;> exact Nat.succ_pos _

def codes (start : Nat) (text : Text) : List Lexeme × Nat :=
  match text with
  | [] => ([], 0)
  | c :: tail =>
    if c ∈ codesEnd then ([], 0)
    else
      let taken := codeLength c tail
      let token := if c = ';' then Token.semicolon else .styleCode ((c :: tail).take taken)
      let later := codes (start + taken) ((c :: tail).drop taken)
      (⟨token, start⟩ :: later.1, taken + later.2)
termination_by text.length
decreasing_by
  have taken := codeLength_pos c tail
  simp only [List.length_drop, List.length_cons]
  omega

theorem codes_cons {c : Char} {tail piece rest : Text} (start : Nat)
    (split : c :: tail = piece ++ rest) (size : codeLength c tail = piece.length)
    (goes : c ∉ codesEnd) :
    codes start (c :: tail) =
      (⟨if c = ';' then .semicolon else .styleCode piece, start⟩ ::
          (codes (start + piece.length) rest).1,
        piece.length + (codes (start + piece.length) rest).2) := by
  rw [codes, if_neg goes]
  simp only [size, split, List.take_left, List.drop_left]

theorem codes_end {start : Nat} {text : Text} (ended : ∀ c ∈ text.head?, c ∈ codesEnd) :
    codes start text = ([], 0) := by
  cases text with
  | nil => rw [codes]
  | cons c tail => rw [codes, if_pos (ended c rfl)]

theorem exists_colour (ground : Style.Ground) (tail : Text) :
    ∃ inner rest, (∀ c ∈ inner, c ≠ bracketClose ground ∧ c ≠ '(') ∧
      (tail = inner ++ bracketClose ground :: rest ∧
          codeLength (bracketOpen ground) tail = inner.length + 2 ∨
        tail = inner ++ rest ∧ codeLength (bracketOpen ground) tail = inner.length + 1 ∧
          ∀ c ∈ rest.head?, c = '(') := by
  have opens : groundOf? (bracketOpen ground) = some ground := by cases ground <;> rfl
  rcases exists_run (fun c => c != bracketClose ground && c != '(') tail with
    ⟨inner, after, split, taken, run, stop⟩
  have inside : ∀ c ∈ inner, c ≠ bracketClose ground ∧ c ≠ '(' := by
    intro c member
    simpa using run c member
  simp only [codeLength, opens, taken]
  subst split
  simp only [List.drop_left]
  match after with
  | [] => exact ⟨inner, [], inside, .inr ⟨rfl, rfl, by simp⟩⟩
  | d :: rest =>
    by_cases closed : d = bracketClose ground
    · exact ⟨inner, rest, inside, .inl ⟨by rw [closed], by simp [closed]⟩⟩
    · have opened : d = '(' := by simpa [closed] using stop d rfl
      refine ⟨inner, d :: rest, inside, .inr ⟨rfl, by simp [closed], ?_⟩⟩
      intro c next
      cases next
      exact opened

theorem exists_code {c : Char} {tail : Text} (goes : c ∉ codesEnd) (start : Nat) :
    ∃ piece rest, c :: tail = piece ++ rest ∧ codeLength c tail = piece.length ∧
      ∀ (list after : Text) (tokens : List Lexeme), rest = list ++ after →
        codes (start + piece.length) rest = (tokens, list.length) →
        CodesLex after (start + piece.length) list tokens →
        CodesLex after start (piece ++ list)
          (⟨if c = ';' then .semicolon else .styleCode piece, start⟩ :: tokens) := by
  by_cases semicolon : c = ';'
  · subst semicolon
    exact ⟨[';'], tail, rfl, rfl, fun list after tokens _ _ others => .semicolon others⟩
  simp only [if_neg semicolon]
  by_cases bracket : ∃ ground, c = bracketOpen ground
  · rcases bracket with ⟨ground, rfl⟩
    rcases exists_colour ground tail with
      ⟨inner, after, inside, ⟨rfl, length⟩ | ⟨rfl, length, opened⟩⟩
    · refine ⟨bracketOpen ground :: inner ++ [bracketClose ground], after, by simp,
        by simp [length], ?_⟩
      intro list rest tokens _ _ others
      have place : start + (bracketOpen ground :: inner ++ [bracketClose ground]).length =
          start + inner.length + 2 := by
        simp [Nat.add_assoc]
      rw [place] at others
      simpa using CodesLex.colour ground inside others
    · -- The list ends with a code that lacks its closing bracket.
      refine ⟨bracketOpen ground :: inner, after, rfl, by simp [length], ?_⟩
      rintro list rest tokens rfl found others
      have stops : ∀ d ∈ (list ++ rest).head?, d ∈ codesEnd := by
        intro d next
        rw [opened d next]
        decide
      rw [codes_end stops] at found
      obtain ⟨rfl, none⟩ := Prod.mk.inj found
      have empty : list = [] := List.length_eq_zero_iff.mp none.symm
      subst empty
      simpa using CodesLex.unclosed ground inside opened
  · have square : c ≠ '[' := fun equal => bracket ⟨.fore, equal⟩
    have curly : c ≠ '\x7b' := fun equal => bracket ⟨.back, equal⟩
    have plain : groundOf? c = none := by
      unfold groundOf?
      split <;> first | contradiction | rfl
    by_cases digit : c.isDigit = true
    · rcases exists_run Char.isDigit tail with ⟨digits, after, split, taken, run, stop⟩
      have ascii : ∀ d ∈ c :: digits, d.isDigit = true := List.forall_mem_cons.mpr ⟨digit, run⟩
      refine ⟨c :: digits, after, by rw [split]; rfl, by simp [codeLength, plain, digit, taken], ?_⟩
      rintro list rest tokens rfl _ others
      refine .number (List.cons_ne_nil c digits) ascii ?_ others
      intro d next
      apply stop
      cases list with
      | nil => cases next
      | cons e list => exact next
    · have single : isSingleCode c = true := by
        simp [isSingleCode, goes, semicolon, square, curly, digit]
      exact ⟨[c], tail, rfl, by simp [codeLength, plain, digit],
        fun list after tokens _ _ others => .single single others⟩

theorem exists_codesLex (text : Text) (start : Nat) :
    ∃ list rest tokens, text = list ++ rest ∧ codes start text = (tokens, list.length) ∧
      (∀ c ∈ rest.head?, c ∈ codesEnd) ∧ CodesLex rest start list tokens := by
  induction size : text.length using Nat.strongRecOn generalizing text start with
  | ind size ih =>
    subst size
    by_cases ended : ∀ c ∈ text.head?, c ∈ codesEnd
    · exact ⟨[], text, [], rfl, codes_end ended, ended, .done⟩
    match text with
    | [] => exact absurd (by simp) ended
    | c :: tail =>
      have goes : c ∉ codesEnd := by simpa using ended
      rcases exists_code goes start with ⟨piece, left, split, size, lexes⟩
      have shorter : left.length < (c :: tail).length := by
        have taken := codeLength_pos c tail
        rw [split, List.length_append]
        omega
      rcases ih left.length shorter left (start + piece.length) rfl with
        ⟨list, rest, tokens, same, found, after, others⟩
      refine ⟨piece ++ list, rest, _, by rw [split, same, List.append_assoc], ?_, after,
        lexes list rest tokens same found others⟩
      rw [codes_cons start split size goes, found, List.length_append]

def quote (frames : List Frame) (start : Nat) (tail : Text) : Except FormatError Round :=
  let inner := tail.takeWhile fun c => !isSpecial c
  match tail.drop inner.length with
  | [] => .error ⟨.literalOpen, start⟩
  | c :: _ =>
    if c = '\'' then .ok ⟨[⟨.literal inner, start⟩], frames, inner.length + 2⟩
    else .error ⟨.literalBeforeBackslash, start⟩

def backslash (frames : List Frame) (start : Nat) : Text → Except FormatError Round
  | [] => .error ⟨.loneBackslash, start⟩
  | c :: rest =>
    match GroupKind.ofChar? c with
    | some kind => .ok ⟨[⟨.groupOpen kind, start⟩], .group kind :: frames, 2⟩
    | none =>
      if c = 'g' ∧ rest.head? = some '(' then
        .ok ⟨[⟨.groupOpen .bare, start⟩], .group .bare :: frames, 3⟩
      else if isSpecial c then .ok ⟨[⟨.escaped c, start⟩], frames, 2⟩
      else if Text.isLetter c || fieldSymbols.contains c then
        if rest.head? = some '(' then
          .ok ⟨[⟨.field c, start⟩, ⟨.parenOpen, start + 2⟩], .arguments :: frames, 3⟩
        else .ok ⟨[⟨.field c, start⟩], frames, 2⟩
      else .error ⟨.unrecognizedEscape c, start⟩

def hash (frames : List Frame) (start : Nat) (tail : Text) : Round :=
  let list := codes (start + 1) tail
  if (tail.drop list.2).head? = some '(' then
    ⟨⟨.styleOpen, start⟩ :: list.1 ++ [⟨.parenOpen, start + list.2 + 1⟩], .style :: frames,
      list.2 + 2⟩
  else ⟨⟨.styleOpen, start⟩ :: list.1, frames, list.2 + 1⟩

def separates (frames : List Frame) (c : Char) : Bool :=
  isSeparator c && !(c = ',' && frames.head? == some .arguments)

def other (frames : List Frame) (start : Nat) (c : Char) (tail : Text) : Round :=
  match Closer.ofChar? c with
  | some closer => ⟨[⟨.close closer, start⟩], closeFrame closer frames, 1⟩
  | none =>
    if c = ',' ∧ frames.head? = some .arguments then ⟨[⟨.comma, start⟩], frames, 1⟩
    else if isSeparator c then
      let run := (c :: tail).takeWhile (separates frames)
      ⟨[⟨.separator run, start⟩], frames, run.length⟩
    else if c = '(' then ⟨[⟨.parenOpen, start⟩], frames, 1⟩
    else ⟨[⟨.unknown c, start⟩], frames, 1⟩

def next (frames : List Frame) (start : Nat) (c : Char) (tail : Text) :
    Except FormatError Round :=
  if c = '\'' then quote frames start tail
  else if c = '\\' then backslash frames start tail
  else if c = '#' then .ok (hash frames start tail)
  else .ok (other frames start c tail)

structure Fits (frames : List Frame) (start : Nat) (text : Text) (round : Round) : Prop where
  positive : 0 < round.length
  bounded : round.length ≤ text.length
  scans : ∀ lexemes, Scan.complete ⟨start, lexemes, frames, .plain⟩ text =
    Scan.complete ⟨start + round.length, round.lexemes.reverse ++ lexemes, round.frames, .plain⟩
      (text.drop round.length)
  lexes : ∀ more, Lexes round.frames (start + round.length) (text.drop round.length) more →
    Lexes frames start text (round.lexemes ++ more)

def Reads (frames : List Frame) (start : Nat) (text : Text) : Except FormatError Round → Prop
  | .ok round => Fits frames start text round
  | .error error => error.offset = start ∧
      ∀ lexemes, Scan.complete ⟨start, lexemes, frames, .plain⟩ text = .error error

variable {frames opened : List Frame} {start : Nat}

theorem Fits.of_split (piece : Text) {rest : Text} {found : List Lexeme} (nonempty : piece ≠ [])
    (scans : ∀ lexemes, Scan.complete ⟨start, lexemes, frames, .plain⟩ (piece ++ rest) =
      Scan.complete ⟨start + piece.length, found.reverse ++ lexemes, opened, .plain⟩ rest)
    (lexes : ∀ more, Lexes opened (start + piece.length) rest more →
      Lexes frames start (piece ++ rest) (found ++ more)) :
    Fits frames start (piece ++ rest) ⟨found, opened, piece.length⟩ where
  positive := List.length_pos_iff.mpr nonempty
  bounded := by simp
  scans lexemes := by simpa using scans lexemes
  lexes more later := lexes more (by simpa using later)

theorem quote_reads (tail : Text) :
    Reads frames start ('\'' :: tail) (quote frames start tail) := by
  rcases exists_run (fun c => !isSpecial c) tail with ⟨inner, after, split, taken, run, stop⟩
  have plain : ∀ c ∈ inner, c ≠ '\'' ∧ c ≠ '\\' := by
    intro c member
    have ordinary := run c member
    simp [isSpecial] at ordinary
    exact ordinary.symm
  simp only [quote, taken]
  subst split
  simp only [List.drop_left]
  cases after with
  | nil =>
    refine ⟨rfl, fun lexemes => ?_⟩
    rw [List.append_nil]
    exact Scan.complete_open plain
  | cons d rest =>
    by_cases closed : d = '\''
    · subst closed
      simp only [↓reduceIte]
      have split : '\'' :: (inner ++ '\'' :: rest) = '\'' :: inner ++ ['\''] ++ rest := by simp
      have size : inner.length + 2 = ('\'' :: inner ++ ['\'']).length := by simp
      rw [split, size]
      apply Fits.of_split _ (by simp)
      · intro lexemes
        rw [← split, ← size, ← List.cons_append, Scan.complete_literal plain]
        rfl
      · intro more later
        rw [← size] at later
        rw [← split]
        exact Lexes.literal plain later
    · have cut : d = '\\' := by simpa [closed, isSpecial] using stop d rfl
      subst cut
      exact ⟨rfl, fun lexemes => Scan.complete_cut plain rest⟩

theorem letter_reads {c : Char} {rest : Text} (letter : isFieldLetter c = true)
    (bareGroup : ¬ (c = 'g' ∧ rest.head? = some '(')) :
    Fits frames start ('\\' :: c :: rest)
      (if rest.head? = some '(' then
        ⟨[⟨.field c, start⟩, ⟨.parenOpen, start + 2⟩], .arguments :: frames, 3⟩
      else ⟨[⟨.field c, start⟩], frames, 2⟩) := by
  by_cases call : rest.head? = some '('
  · rw [if_pos call]
    have noGroup : c ≠ 'g' := fun equal => bareGroup ⟨equal, call⟩
    rcases List.head?_eq_some_iff.mp call with ⟨rest, rfl⟩
    exact Fits.of_split ['\\', c, '('] (List.cons_ne_nil _ _)
      (fun lexemes => Scan.complete_call letter noGroup rest)
      (fun more later => Lexes.call letter noGroup later)
  · rw [if_neg call]
    exact Fits.of_split ['\\', c] (List.cons_ne_nil _ _)
      (fun lexemes => Scan.complete_field letter call)
      (fun more later => Lexes.field letter call later)

theorem backslash_reads (tail : Text) :
    Reads frames start ('\\' :: tail) (backslash frames start tail) := by
  match tail with
  | [] => exact ⟨rfl, fun lexemes => Scan.complete_lone⟩
  | c :: rest =>
    cases opens : GroupKind.ofChar? c with
    | some kind =>
      have opener : '\\' :: c :: rest = kind.opener ++ rest ∧ 2 = kind.opener.length := by
        unfold GroupKind.ofChar? at opens
        split at opens <;> cases opens <;> exact ⟨rfl, rfl⟩
      simp only [backslash, opens]
      rw [opener.1, opener.2]
      exact Fits.of_split kind.opener (by cases kind <;> exact List.cons_ne_nil _ _)
        (fun lexemes => Scan.complete_group kind rest) (fun more later => Lexes.group kind later)
    | none =>
      simp only [backslash, opens]
      by_cases bare : c = 'g' ∧ rest.head? = some '('
      · rcases bare with ⟨rfl, call⟩
        rcases List.head?_eq_some_iff.mp call with ⟨rest, rfl⟩
        exact Fits.of_split GroupKind.bare.opener (List.cons_ne_nil _ _)
          (fun lexemes => Scan.complete_group .bare rest)
          (fun more later => Lexes.group .bare later)
      rw [if_neg bare]
      by_cases special : isSpecial c = true
      · have either : c = '\'' ∨ c = '\\' := by
          simpa [isSpecial, or_comm] using special
        rw [if_pos special]
        exact Fits.of_split ['\\', c] (List.cons_ne_nil _ _)
          (fun lexemes => Scan.complete_escaped either rest)
          (fun more later => Lexes.escaped either later)
      have ordinary : isSpecial c = false := by simpa using special
      rw [if_neg special]
      by_cases named : (Text.isLetter c || fieldSymbols.contains c) = true
      · have letter : isFieldLetter c = true := by
          rw [isFieldLetter, opens, ordinary, named]
          rfl
        rw [if_pos named, ← apply_ite]
        exact letter_reads letter bare
      · have letter : isFieldLetter c = false := by
          rw [isFieldLetter, Bool.eq_false_iff.mpr named, Bool.and_false]
        rw [if_neg named]
        exact ⟨rfl, fun lexemes => Scan.complete_unrecognized opens ordinary letter rest⟩

theorem hash_fits (tail : Text) : Fits frames start ('#' :: tail) (hash frames start tail) := by
  rcases exists_codesLex tail (start + 1) with ⟨list, rest, tokens, rfl, found, ended, listed⟩
  have place : start + 1 + list.length = start + list.length + 1 := by omega
  simp only [hash, found, List.drop_left]
  by_cases body : rest.head? = some '('
  · rcases List.head?_eq_some_iff.mp body with ⟨rest, rfl⟩
    have split : '#' :: (list ++ '(' :: rest) = '#' :: list ++ ['('] ++ rest := by simp
    have size : list.length + 2 = ('#' :: list ++ ['(']).length := by simp
    rw [if_pos body, split, size]
    apply Fits.of_split _ (by simp)
    · intro lexemes
      rw [← split, ← size, Scan.complete_style, Scan.complete_codes listed ended, place,
        Scan.complete_body]
      simp [Nat.add_assoc]
    · intro more later
      rw [← size, ← Nat.add_assoc] at later
      rw [← split]
      simpa using Lexes.style listed later
  · have bodiless : ∀ c ∈ rest.head?, c ∈ codesEnd ∧ c ≠ '(' := by
      intro c next
      refine ⟨ended c next, ?_⟩
      rintro rfl
      exact body next
    have size : list.length + 1 = ('#' :: list).length := by simp
    rw [if_neg body, size, ← List.cons_append]
    apply Fits.of_split _ (by simp)
    · intro lexemes
      rw [← size, List.cons_append, Scan.complete_style, Scan.complete_codes listed ended, place,
        Scan.complete_bodiless bodiless]
      simp [Nat.add_assoc]
    · intro more later
      rw [← size, ← Nat.add_assoc] at later
      simpa using Lexes.codes listed bodiless later

theorem separates_iff {c : Char} :
    separates frames c = true ↔ (Scope.within frames).Separates separators c :=
  Scan.separates_iff ⟨0, [], frames, .plain⟩ c

theorem separator_fits {c : Char} {tail : Text} (separated : separates frames c = true) :
    Fits frames start (c :: tail)
      (let run := (c :: tail).takeWhile (separates frames)
       ⟨[⟨.separator run, start⟩], frames, run.length⟩) := by
  rcases exists_run (separates frames) (c :: tail) with ⟨text, rest, split, taken, run, stop⟩
  have run : ∀ d ∈ text, (Scope.within frames).Separates separators d :=
    fun d member => separates_iff.mp (run d member)
  have whole : ∀ d ∈ rest.head?, ¬ (Scope.within frames).Separates separators d := by
    intro d next more
    have goes := separates_iff.mpr more
    rw [stop d next] at goes
    exact Bool.noConfusion goes
  have nonempty : text ≠ [] := by
    rintro rfl
    have goes := stop c (by rw [← List.nil_append rest, ← split]; rfl)
    rw [separated] at goes
    exact Bool.noConfusion goes
  rw [taken, split]
  exact Fits.of_split text nonempty (fun lexemes => Scan.complete_separator nonempty run whole)
    (fun more later => Lexes.separator nonempty run whole later)

theorem other_fits {c : Char} {tail : Text} (quote : c ≠ '\'') (backslash : c ≠ '\\')
    (hash : c ≠ '#') : Fits frames start (c :: tail) (other frames start c tail) := by
  unfold other
  cases closes : Closer.ofChar? c with
  | some closer =>
    have char : c = closer.char := by
      unfold Closer.ofChar? at closes
      split at closes <;> cases closes <;> rfl
    subst char
    exact Fits.of_split [closer.char] (List.cons_ne_nil _ _)
      (fun lexemes => Scan.complete_close closer tail) (fun more later => Lexes.close closer later)
  | none =>
    by_cases comma : c = ',' ∧ frames.head? = some .arguments
    · rcases comma with ⟨rfl, inside⟩
      rcases List.head?_eq_some_iff.mp inside with ⟨outer, rfl⟩
      exact Fits.of_split [','] (List.cons_ne_nil _ _) (fun lexemes => Scan.complete_comma tail)
        (fun more later => Lexes.comma later)
    simp only [if_neg comma]
    by_cases separator : isSeparator c = true
    · have separated : separates frames c = true := by
        simpa [separates, separator] using Decidable.not_and_iff_not_or_not.mp comma
      rw [if_pos separator]
      exact separator_fits separated
    rw [if_neg separator]
    by_cases paren : c = '('
    · subst paren
      exact Fits.of_split ['('] (List.cons_ne_nil _ _) (fun lexemes => Scan.complete_paren tail)
        (fun more later => Lexes.paren later)
    · have unknown : isStray c = true := by
        simp [isStray, quote, backslash, hash, closes, paren, separator]
      rw [if_neg paren]
      exact Fits.of_split [c] (List.cons_ne_nil _ _)
        (fun lexemes => Scan.complete_stray unknown tail)
        (fun more later => Lexes.stray unknown later)

theorem next_reads (frames : List Frame) (start : Nat) (c : Char) (tail : Text) :
    Reads frames start (c :: tail) (next frames start c tail) := by
  unfold next
  split
  · subst c
    exact quote_reads tail
  · split
    · subst c
      exact backslash_reads tail
    · split
      · subst c
        exact hash_fits tail
      · exact other_fits ‹_› ‹_› ‹_›

theorem consumes {c : Char} {tail : Text} {round : Round}
    (found : next frames start c tail = .ok round) :
    0 < round.length ∧ round.length ≤ (c :: tail).length := by
  have fits : Reads frames start (c :: tail) (next frames start c tail) :=
    next_reads frames start c tail
  rw [found] at fits
  exact ⟨fits.positive, fits.bounded⟩

end Round

def rounds (frames : List Frame) (start : Nat) (text : Text) :
    Except FormatError (List Lexeme) :=
  match text with
  | [] => .ok [⟨.endOfInput, start⟩]
  | c :: tail =>
    match _found : Round.next frames start c tail with
    | .error error => .error error
    | .ok round =>
      (rounds round.frames (start + round.length) ((c :: tail).drop round.length)).map
        (round.lexemes ++ ·)
termination_by text.length
decreasing_by
  have taken := Round.consumes ‹_›
  rw [List.length_drop]
  omega

theorem complete_eq_rounds (frames : List Frame) (start : Nat) (text : Text)
    (lexemes : List Lexeme) :
    Scan.complete ⟨start, lexemes, frames, .plain⟩ text =
      (rounds frames start text).map (lexemes.reverse ++ ·) := by
  fun_induction rounds frames start text generalizing lexemes with
  | case1 frames start => simp [Scan.complete_nil, Scan.finish, Scan.settle, Except.map]
  | case2 frames start c tail error found =>
    have reads := Round.next_reads frames start c tail
    rw [found] at reads
    exact reads.2 lexemes
  | case3 frames start c tail round found ih =>
    have reads := Round.next_reads frames start c tail
    rw [found] at reads
    rw [reads.scans, ih]
    cases rounds round.frames (start + round.length) ((c :: tail).drop round.length) with
    | error error => rfl
    | ok more => simp [Except.map]

theorem tokenize_eq_rounds (source : Text) : tokenize source = rounds [] 0 source := by
  have scanned : tokenize source = (rounds [] 0 source).map (([] : List Lexeme).reverse ++ ·) :=
    complete_eq_rounds [] 0 source []
  rw [scanned]
  cases rounds [] 0 source <;> rfl

def Lexed (frames : List Frame) (start : Nat) (text : Text) :
    Except FormatError (List Lexeme) → Prop
  | .ok lexemes => Lexes frames start text lexemes
  | .error error => start ≤ error.offset ∧ error.offset < start + text.length

theorem lexed_rounds (frames : List Frame) (start : Nat) (text : Text) :
    Lexed frames start text (rounds frames start text) := by
  fun_induction rounds frames start text with
  | case1 frames start => exact .done
  | case2 frames start c tail error found =>
    have reads := Round.next_reads frames start c tail
    rw [found] at reads
    have place : error.offset = start := reads.1
    simp only [Lexed, List.length_cons]
    omega
  | case3 frames start c tail round found ih =>
    have reads := Round.next_reads frames start c tail
    rw [found] at reads
    cases later : rounds round.frames (start + round.length) ((c :: tail).drop round.length) with
    | error error =>
      rw [later] at ih
      have inside : start + round.length ≤ error.offset ∧ error.offset <
          start + round.length + ((c :: tail).drop round.length).length := ih
      have bounded := reads.bounded
      rw [List.length_drop] at inside
      simp only [Except.map, Lexed]
      omega
    | ok others =>
      rw [later] at ih
      exact reads.lexes others ih

theorem tokenize_eq_ok_iff {source : Text} {lexemes : List Lexeme} :
    tokenize source = .ok lexemes ↔ Lexes [] 0 source lexemes := by
  constructor
  · intro tokenized
    have lexed := lexed_rounds [] 0 source
    rw [← tokenize_eq_rounds, tokenized] at lexed
    exact lexed
  · intro lexed
    exact lexed.complete []

theorem offset_of_tokenize_error {source : Text} {error : FormatError}
    (failed : tokenize source = .error error) : error.offset < source.length := by
  have lexed := lexed_rounds [] 0 source
  rw [← tokenize_eq_rounds, failed] at lexed
  have inside : 0 ≤ error.offset ∧ error.offset < 0 + source.length := lexed
  omega

end GitPrompt.Format
