import GitPrompt.Format.Descent
import GitPrompt.Proofs.Format.Layout
import GitPrompt.Proofs.Format.StyleCode

/-!
Style codes read within a limit of digits, and lists of tokens with them. They are read as without
the limit, up to the first number that has more digits.
-/
namespace GitPrompt.Format

/-- The first of some parts that has more digits than the limit. The parts before it are read. -/
structure Halts (limit : Option Nat) (parts : List Text) (digits : Text) : Prop where
  split : ∃ before after, parts = before ++ digits :: after ∧
    ∀ part ∈ before, ¬ Text.Overlong limit part ∧ ∃ value, colourComponent part = .ok value
  ascii : digits.all Text.isAsciiDigit = true
  long : Text.Overlong limit digits

/-- A style code with a number that has more digits than the limit. -/
inductive Unread (limit : Option Nat) : Text → Text → Prop
  | number {digits : Text} (halts : Halts limit [digits] digits) : Unread limit digits digits
  | colour (ground : Style.Ground) {inner digits : Text} (three : (inner.splitOn ',').length = 3)
      (halts : Halts limit (inner.splitOn ',') digits) :
      Unread limit (bracketOpen ground :: inner ++ [bracketClose ground]) digits

section
variable {limit : Option Nat} {part digits : Text} {parts : List Text}

theorem Halts.here (ascii : digits.all Text.isAsciiDigit = true)
    (long : Text.Overlong limit digits) : Halts limit (digits :: parts) digits :=
  ⟨⟨[], parts, rfl, nofun⟩, ascii, long⟩

theorem Halts.cons {value : Int} (short : ¬ Text.Overlong limit part)
    (read : colourComponent part = .ok value) (halts : Halts limit parts digits) :
    Halts limit (part :: parts) digits := by
  rcases halts with ⟨⟨before, after, rfl, others⟩, ascii, long⟩
  exact ⟨⟨part :: before, after, rfl, List.forall_mem_cons.mpr ⟨⟨short, value, read⟩, others⟩⟩,
    ascii, long⟩

theorem Halts.uncons (halts : Halts limit (part :: parts) digits) :
    part = digits ∨ (∃ value, colourComponent part = .ok value) ∧ Halts limit parts digits := by
  rcases halts with ⟨⟨before, after, split, others⟩, ascii, long⟩
  cases before with
  | nil => exact .inl (List.cons.inj split).1
  | cons first before =>
    cases split
    have parted := List.forall_mem_cons.mp others
    exact .inr ⟨parted.1.2, ⟨before, after, rfl, parted.2⟩, ascii, long⟩

theorem not_halts_nil : ¬ Halts limit [] digits := by
  rintro ⟨⟨before, after, split, -⟩, -, -⟩
  exact List.append_ne_nil_of_right_ne_nil before (List.cons_ne_nil digits after) split.symm

theorem Halts.mem (halts : Halts limit parts digits) : digits ∈ parts := by
  rcases halts with ⟨⟨before, after, rfl, -⟩, -, -⟩
  simp

theorem Unread.isInfix {text : Text} (unread : Unread limit text digits) : digits <:+: text := by
  cases unread with
  | number halts => exact List.infix_rfl
  | @colour ground inner digits three halts =>
    have within : digits <:+: inner := by
      have member := halts.mem
      have whole : [','].intercalate (inner.splitOn ',') = inner := List.intercalate_splitOn ','
      generalize inner.splitOn ',' = parts at three member whole
      match parts, three with
      | [red, green, blue], _ =>
        rw [← whole]
        apply List.infix_of_mem_flatten
        simp only [List.mem_cons, List.not_mem_nil, or_false] at member
        rcases member with rfl | rfl | rfl <;> simp
    rcases within with ⟨front, back, rfl⟩
    exact ⟨bracketOpen ground :: front, back ++ [bracketClose ground], by simp⟩

theorem Unread.overlong {text : Text} (unread : Unread limit text digits) :
    digits.all Text.isAsciiDigit = true ∧ Text.Overlong limit digits := by
  cases unread with
  | number halts => exact ⟨halts.ascii, halts.long⟩
  | colour ground three halts => exact ⟨halts.ascii, halts.long⟩

end

theorem ascii_of_colourComponent {text : Text} {value : Int}
    (read : colourComponent text = .ok value) : text.all Text.isAsciiDigit = true := by
  unfold colourComponent at read
  split at read
  case isTrue => cases read
  case isFalse accepted =>
    simp only [Bool.or_eq_true, decide_eq_true_eq, Bool.not_eq_true', not_or,
      Bool.not_eq_false] at accepted
    exact accepted.2

namespace Descent

def placed {α : Type} (place : Nat) (result : Except Fault α) : Except Halt α :=
  result.mapError fun fault => .raised ⟨fault, place⟩

/-- Reading parts within the limit comes to a crash at the first of them that is too long, and
otherwise to what it comes to without it. -/
structure Reads {α : Type} (limit : Option Nat) (place : Nat) (parts : List Text)
    (bounded : Except Halt α) (plain : Except Fault α) : Prop where
  halted : ∀ digits, Halts limit parts digits → bounded = .error (.crashed (.noNumber digits))
  read : (∀ digits, ¬ Halts limit parts digits) → bounded = placed place plain

section
variable {α : Type} {limit : Option Nat} {place : Nat} {part : Text} {parts : List Text}

theorem Reads.done {bounded : Except Halt α} {plain : Except Fault α}
    (same : bounded = placed place plain) : Reads limit place [] bounded plain :=
  ⟨fun _ halts => absurd halts not_halts_nil, fun _ => same⟩

theorem component_overlong (ascii : part.all Text.isAsciiDigit = true)
    (long : Text.Overlong limit part) :
    component limit place part = .error (.crashed (.noNumber part)) := by
  have accepted : ¬ (part = [] || !part.all Text.isAsciiDigit) = true := by
    simp [long.ne_nil, ascii]
  have none : number? limit part = none := by
    rw [number?, if_pos ⟨long.ne_nil, ascii⟩, Text.number?_eq_none.mpr long]
  rw [component, if_neg accepted, none]
  rfl

theorem component_short (short : part.all Text.isAsciiDigit = true → ¬ Text.Overlong limit part) :
    component limit place part = placed place (colourComponent part) := by
  unfold component colourComponent
  by_cases refused : (part = [] || !part.all Text.isAsciiDigit) = true
  · rw [if_pos refused, if_pos refused]
    rfl
  · have ascii : part ≠ [] ∧ part.all Text.isAsciiDigit = true := by simpa using refused
    have read : number? limit part = some (Text.numeral part) := by
      rw [number?, if_pos ascii, Text.number?_of_short (short ascii.2)]
    rw [if_neg refused, if_neg refused, read]
    by_cases large : 255 < Text.numeral part <;> simp only [sure, bind, Except.bind, large] <;> rfl

theorem Reads.component {next : Int → Except Halt α} {plain : Int → Except Fault α}
    (later : ∀ value, Reads limit place parts (next value) (plain value)) :
    Reads limit place (part :: parts) (component limit place part >>= next)
      (colourComponent part >>= plain) := by
  by_cases long : part.all Text.isAsciiDigit = true ∧ Text.Overlong limit part
  · have crash : Descent.component limit place part = .error (.crashed (.noNumber part)) :=
      component_overlong long.1 long.2
    rw [crash]
    refine ⟨fun digits halts => ?_, fun never => absurd (.here long.1 long.2) (never part)⟩
    rcases halts with ⟨⟨before, after, split, others⟩, -, -⟩
    cases before with
    | nil => rw [(List.cons.inj split).1]; rfl
    | cons first before =>
      cases split
      exact absurd long.2 (others part List.mem_cons_self).1
  · rw [component_short fun ascii overlong => long ⟨ascii, overlong⟩]
    cases read : colourComponent part with
    | error fault =>
      refine ⟨fun digits halts => ?_, fun _ => rfl⟩
      rcases halts.uncons with rfl | ⟨⟨value, other⟩, -⟩
      · exact absurd ⟨halts.ascii, halts.long⟩ long
      · cases read.symm.trans other
    | ok value =>
      have short : ¬ Text.Overlong limit part :=
        fun overlong => long ⟨ascii_of_colourComponent read, overlong⟩
      refine ⟨fun digits halts => ?_, fun never => ?_⟩
      · rcases halts.uncons with rfl | ⟨-, others⟩
        · exact absurd halts.long short
        · exact (later value).halted digits others
      · exact (later value).read fun digits halts => never digits (halts.cons short read)

theorem components_reads {ground : Style.Ground} {inner : Text}
    (three : (inner.splitOn ',').length = 3) :
    Reads limit place (inner.splitOn ',')
      (components limit place inner >>= fun colour =>
        return .rgb ground colour.1 colour.2.1 colour.2.2) (rgbCode ground inner) := by
  unfold components rgbCode
  match inner.splitOn ',', three with
  | [red, green, blue], _ =>
    simp only [bind_assoc]
    exact .component fun _ => .component fun _ => .component fun _ => .done rfl

theorem components_misshapen {ground : Style.Ground} {inner : Text}
    (other : (inner.splitOn ',').length ≠ 3) :
    (components limit place inner >>= fun colour =>
        return .rgb ground colour.1 colour.2.1 colour.2.2) =
      placed place (rgbCode ground inner) := by
  unfold components rgbCode
  match split : inner.splitOn ',' with
  | [red, green, blue] => exact absurd (congrArg List.length split) other
  | [] | [_] | [_, _] | _ :: _ :: _ :: _ :: _ => rfl

theorem code_bracket (ground : Style.Ground) (rest : Text) :
    code limit place (bracketOpen ground :: rest) =
      if rest.getLast? ≠ some (bracketClose ground) then
        raise (.colourOpen (bracketClose ground)) place
      else components limit place rest.dropLast >>= fun colour =>
        return .rgb ground colour.1 colour.2.1 colour.2.2 := by
  have unnamed : named? (bracketOpen ground :: rest) = none := by
    cases rest with
    | nil => cases ground <;> rfl
    | cons c rest => rfl
  have opens : groundOf? (bracketOpen ground) = some ground := by cases ground <;> rfl
  have shape : (bracketOpen ground :: rest).length < 2 ∨
      (bracketOpen ground :: rest).getLast? ≠ some (bracketClose ground) ↔
        rest.getLast? ≠ some (bracketClose ground) := by
    cases rest with
    | nil => simp
    | cons c rest =>
      have long : ¬ (bracketOpen ground :: c :: rest).length < 2 := by simp
      simp only [long, false_or, List.getLast?_cons_cons]
  unfold code
  rw [unnamed]
  simp only [List.head?_cons, sure, bind, Except.bind, opens, shape, List.tail_cons]

theorem code_number {c : Char} {rest : Text} (unnamed : named? (c :: rest) = none)
    (plain : groundOf? c = none) :
    code limit place (c :: rest) =
      if (c :: rest).all Text.isAsciiDigit then
        (component limit place (c :: rest)).map .indexed
      else raise (.unknownCode (c :: rest)) place := by
  unfold code
  rw [unnamed]
  simp only [List.head?_cons, sure, bind, Except.bind, plain]

theorem groundOf?_of_isDigit {c : Char} (digit : c.isDigit = true) : groundOf? c = none := by
  unfold groundOf?
  split
  · cases digit
  · cases digit
  · rfl

theorem named?_of_isDigit {c : Char} (digit : c.isDigit = true) (rest : Text) :
    named? (c :: rest) = none := by
  cases rest with
  | cons d rest => rfl
  | nil =>
    cases named : Style.Code.ofLetter? c with
    | none => exact named
    | some code => cases digit.symm.trans (isDigit_codeLetter named)

theorem code_unread {text digits : Text} (unread : Unread limit text digits) :
    code limit place text = .error (.crashed (.noNumber digits)) := by
  cases unread with
  | number halts =>
    obtain ⟨c, rest, rfl⟩ := List.exists_cons_of_ne_nil halts.long.ne_nil
    have digit : c.isDigit = true :=
      (Text.isAsciiDigit_iff c).mp (List.all_eq_true.mp halts.ascii c List.mem_cons_self)
    rw [code_number (named?_of_isDigit digit rest) (groundOf?_of_isDigit digit),
      if_pos halts.ascii, component_overlong halts.ascii halts.long]
    rfl
  | colour ground three halts =>
    rw [List.cons_append, code_bracket, if_neg (by simp), List.dropLast_concat]
    exact (components_reads three).halted digits halts

theorem code_read {text : Text} (nonempty : text ≠ [])
    (clear : ∀ digits, ¬ Unread limit text digits) :
    code limit place text = placed place (styleCode text) := by
  obtain ⟨c, rest, rfl⟩ := List.exists_cons_of_ne_nil nonempty
  by_cases bracket : ∃ ground, c = bracketOpen ground
  · rcases bracket with ⟨ground, rfl⟩
    have spelled : styleCode (bracketOpen ground :: rest) =
        bracketCode ground (bracketClose ground) rest := by
      cases ground <;> rfl
    rw [code_bracket, spelled, bracketCode]
    by_cases closed : rest.getLast? = some (bracketClose ground)
    · rw [if_neg (not_not_intro closed), if_pos closed]
      by_cases three : (rest.dropLast.splitOn ',').length = 3
      · refine (components_reads three).read fun digits halts => clear digits ?_
        rcases List.getLast?_eq_some_iff.mp closed with ⟨inner, rfl⟩
        rw [List.dropLast_concat] at three halts
        exact .colour ground three halts
      · exact components_misshapen three
    · rw [if_pos closed, if_neg closed]
      rfl
  · have plain : groundOf? c = none := by
      unfold groundOf?
      split
      · exact absurd ⟨.fore, rfl⟩ bracket
      · exact absurd ⟨.back, rfl⟩ bracket
      · rfl
    have spelled : styleCode (c :: rest) =
        (named? (c :: rest)).elim (styleCode.numberCode (c :: rest)) .ok := by
      unfold styleCode
      split
      case h_1 same =>
        cases same
        exact absurd ⟨.fore, rfl⟩ bracket
      case h_2 same =>
        cases same
        exact absurd ⟨.back, rfl⟩ bracket
      case h_3 =>
        cases rest with
        | cons d rest => rfl
        | nil =>
          dsimp only [named?]
          cases Style.Code.ofLetter? c <;> rfl
    rw [spelled]
    cases named : named? (c :: rest) with
    | some code =>
      unfold Descent.code
      rw [named]
      rfl
    | none =>
      rw [code_number named plain]
      unfold styleCode.numberCode
      by_cases ascii : (c :: rest).all Text.isAsciiDigit = true
      · have short : ¬ Text.Overlong limit (c :: rest) :=
          fun long => clear _ (.number (.here ascii long))
        rw [if_pos ascii, component_short fun _ => short, Option.elim_none, if_pos ascii]
        cases colourComponent (c :: rest) <;> rfl
      · rw [if_neg ascii, Option.elim_none, if_neg ascii]
        rfl

end

end Descent

namespace Reading

def stepWithin (limit : Option Nat) (reading : Reading) (lexeme : Lexeme) : Except Halt Reading :=
  match reading.phase, lexeme.token with
  | .codes opened codes _, .styleCode text =>
    (Descent.code limit lexeme.offset text).map fun code =>
      { reading with phase := .codes opened (code :: codes) none }
  | _, _ => (reading.step lexeme).mapError .raised

def runWithin (limit : Option Nat) (reading : Reading) (lexemes : List Lexeme) :
    Except Halt Reading :=
  lexemes.foldlM (stepWithin limit) reading

def Blocked (limit : Option Nat) (digits : Text) (reading : Reading) (lexeme : Lexeme) : Prop :=
  (∃ opened codes semicolon, reading.phase = .codes opened codes semicolon) ∧
    ∃ text, lexeme.token = .styleCode text ∧ Unread limit text digits

/-- A number with more digits than the limit is met before anything is at fault. -/
inductive Meets (limit : Option Nat) (digits : Text) : Reading → List Lexeme → Prop
  | here {reading : Reading} {found : Lexeme} {rest : List Lexeme}
      (blocked : reading.Blocked limit digits found) : Meets limit digits reading (found :: rest)
  | later {reading next : Reading} {found : Lexeme} {rest : List Lexeme}
      (clear : ∀ other, ¬ reading.Blocked limit other found)
      (stepped : reading.step found = .ok next)
      (meets : Meets limit digits next rest) : Meets limit digits reading (found :: rest)

section
variable {limit : Option Nat} {digits : Text} {reading : Reading} {lexemes : List Lexeme}
  {found : Lexeme} {rest : List Lexeme}

theorem stepWithin_blocked (blocked : reading.Blocked limit digits found) :
    reading.stepWithin limit found = .error (.crashed (.noNumber digits)) := by
  rcases reading with ⟨levels, draft, phase⟩
  rcases found with ⟨token, place⟩
  rcases blocked with ⟨⟨opened, codes, semicolon, rfl⟩, text, rfl, unread⟩
  simp only [stepWithin, Descent.code_unread unread]
  rfl

theorem stepWithin_clear (nonempty : found.token ≠ .styleCode [])
    (clear : ∀ digits, ¬ reading.Blocked limit digits found) :
    reading.stepWithin limit found = (reading.step found).mapError .raised := by
  rcases reading with ⟨levels, draft, phase⟩
  rcases found with ⟨token, place⟩
  unfold stepWithin
  split
  case h_1 opened codes semicolon text phased coded =>
    cases phased
    cases coded
    have filled : text ≠ [] := by
      rintro rfl
      exact nonempty rfl
    have read : Descent.code limit place text = Descent.placed place (styleCode text) :=
      Descent.code_read filled fun digits unread =>
        clear digits ⟨⟨opened, codes, semicolon, rfl⟩, text, rfl, unread⟩
    simp only [read, step, readCodes]
    cases styleCode text <;> rfl
  case h_2 => rfl

theorem stepWithin_other (other : ∀ text, found.token ≠ .styleCode text) :
    reading.stepWithin limit found = (reading.step found).mapError .raised :=
  stepWithin_clear (other []) fun digits blocked => by
    rcases blocked with ⟨-, text, coded, -⟩
    exact other text coded

theorem runWithin_fieldRead {levels : List Level} {draft : Draft} {field : Field} {place : Nat}
    (bare : found.token ≠ .parenOpen) :
    runWithin limit ⟨levels, draft, .fieldRead field place⟩ (found :: rest) =
      runWithin limit ⟨levels, draft.add (.field field .nil place), .ready⟩ (found :: rest) := by
  have same : stepWithin limit ⟨levels, draft, .fieldRead field place⟩ found =
      stepWithin limit ⟨levels, draft.add (.field field .nil place), .ready⟩ found := by
    simp only [stepWithin, step, if_neg bare, add]
  rw [runWithin, runWithin, List.foldlM_cons, List.foldlM_cons, same]

theorem Meets.exists_code (meets : Meets limit digits reading lexemes) :
    ∃ found ∈ lexemes, ∃ text, found.token = .styleCode text ∧ Unread limit text digits := by
  induction meets with
  | here blocked => exact ⟨_, List.mem_cons_self, blocked.2⟩
  | later clear stepped meets ih =>
    rcases ih with ⟨found, member, coded⟩
    exact ⟨found, List.mem_cons_of_mem _ member, coded⟩

theorem runWithin_meets (nonempty : ∀ found ∈ lexemes, found.token ≠ .styleCode [])
    (meets : Meets limit digits reading lexemes) :
    reading.runWithin limit lexemes = .error (.crashed (.noNumber digits)) := by
  induction meets with
  | here blocked =>
    rw [runWithin, List.foldlM_cons, stepWithin_blocked blocked]
    rfl
  | later clear stepped meets ih =>
    have parted := List.forall_mem_cons.mp nonempty
    rw [runWithin, List.foldlM_cons, stepWithin_clear parted.1 clear, stepped]
    exact ih parted.2

theorem runWithin_clear (nonempty : ∀ found ∈ lexemes, found.token ≠ .styleCode [])
    (clear : ∀ digits, ¬ Meets limit digits reading lexemes) :
    reading.runWithin limit lexemes = (reading.run lexemes).mapError .raised := by
  induction lexemes generalizing reading with
  | nil => rfl
  | cons found rest ih =>
    have parted := List.forall_mem_cons.mp nonempty
    have free : ∀ digits, ¬ reading.Blocked limit digits found :=
      fun digits blocked => clear digits (.here blocked)
    rw [runWithin, List.foldlM_cons, stepWithin_clear parted.1 free, run_cons]
    cases stepped : reading.step found with
    | error error => rfl
    | ok next => exact ih parted.2 fun digits meets => clear digits (.later free stepped meets)

end

end Reading
end GitPrompt.Format
