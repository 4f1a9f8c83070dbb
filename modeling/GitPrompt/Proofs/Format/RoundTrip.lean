import GitPrompt.Format.Source
import GitPrompt.Proofs.Format.Parsing

/-!
Writing a tree as a format and reading it back. The trees that formats have are the
well-formed ones, and each of them is read back from what is written for it.
-/
namespace GitPrompt

/-- A code that a format can spell: one with a letter, or a colour of bytes. -/
def Style.Code.WellFormed : Style.Code → Prop
  | .indexed number => 0 ≤ number ∧ number ≤ 255
  | .rgb _ red green blue =>
    (0 ≤ red ∧ red ≤ 255) ∧ (0 ≤ green ∧ green ≤ 255) ∧ (0 ≤ blue ∧ blue ≤ 255)
  | code => code ∈ Style.Code.lettered

namespace Format

mutual
/-- A literal either has none of the characters that must be escaped or is one of them. -/
def Element.WellFormed : Element → Prop
  | .literal text =>
    (∀ c ∈ text, c ≠ '\'' ∧ c ≠ '\\') ∨ ∃ c, (c = '\'' ∨ c = '\\') ∧ text = [c]
  | .field _ arguments _ => arguments.WellFormed
  | .group _ body => body.WellFormed .free
  | .style codes body => codes ≠ [] ∧ (∀ code ∈ codes, code.WellFormed) ∧ body.WellFormed .free
  | .nested _ => False

def Sequence.WellFormed : Sequence → Scope → Prop
  | .done trailing, scope => ∀ c ∈ trailing, scope.Separates separators c
  | .item separator element rest, scope =>
    (∀ c ∈ separator, scope.Separates separators c) ∧ element.WellFormed ∧ rest.WellFormed scope

def Arguments.WellFormed : Arguments → Prop
  | .nil => True
  | .cons argument rest => argument.WellFormed .argument ∧ rest.WellFormed
end

theorem CodeDerives.wellFormed {code : Style.Code} {text : Text}
    (derived : CodeDerives code text) : code.WellFormed := by
  have byte : ∀ {text : Text} {value : Nat}, Component text value →
      (0 : Int) ≤ value ∧ (value : Int) ≤ 255 := by
    intro text value component
    have small := component.small
    omega
  cases derived with
  | letter named =>
    have member : code ∈ Style.Code.lettered := List.mem_of_find?_eq_some named
    cases code with
    | indexed number => simp [Style.Code.lettered] at member
    | rgb ground red green blue => simp [Style.Code.lettered] at member
    | _ => exact member
  | number component => exact byte component
  | rgb ground first second third => exact ⟨byte first, byte second, byte third⟩

theorem CodesDerive.wellFormed {codes : List Style.Code} {text : Text}
    (derived : CodesDerive codes text) : ∀ code ∈ codes, code.WellFormed := by
  induction derived with
  | single first =>
    intro code member
    rw [List.mem_singleton.mp member]
    exact first.wellFormed
  | divided first others ih =>
    intro code member
    rcases List.mem_cons.mp member with rfl | later
    · exact first.wellFormed
    · exact ih code later
  | adjacent first others apart ih =>
    intro code member
    rcases List.mem_cons.mp member with rfl | later
    · exact first.wellFormed
    · exact ih code later

mutual
theorem Element.Derives.wellFormed {start : Nat} {element : Element} {text : Text}
    (derived : Element.Derives separators start element text) : element.WellFormed := by
  match derived with
  | .literal plain => exact .inl plain
  | @Element.Derives.escaped _ _ c special => exact .inr ⟨c, special, rfl⟩
  | .field field => exact trivial
  | .call field inner => exact inner.wellFormed
  | .group kind inner => exact inner.wellFormed
  | .style listed inner => exact ⟨listed.nonempty, listed.wellFormed, inner.wellFormed⟩

theorem Sequence.Derives.wellFormed {scope : Scope} {start : Nat} {sequence : Sequence}
    {text : Text} (derived : Sequence.Derives separators scope start sequence text) :
    sequence.WellFormed scope := by
  match derived with
  | .done run => exact run
  | .item run first others => exact ⟨run, first.wellFormed, others.wellFormed⟩

theorem Arguments.Derives.wellFormed {start : Nat} {arguments : Arguments} {text : Text}
    (derived : Arguments.Derives separators start arguments text) : arguments.WellFormed := by
  match derived with
  | .last only => exact ⟨only.wellFormed, trivial⟩
  | .cons first others => exact ⟨first.wellFormed, others.wellFormed⟩
end

theorem component_signed {value : Int} (byte : 0 ≤ value ∧ value ≤ 255) :
    ∃ n : Nat, value = n ∧ Component (Text.signed value) n := by
  rcases Int.eq_ofNat_of_zero_le byte.1 with ⟨n, rfl⟩
  have small : n ≤ 255 := by
    omega
  refine ⟨n, rfl, ?_⟩
  exact {
    nonempty := Text.decimal_ne_nil n
    digits := fun c member => Text.isDigit_of_mem_decimal member
    reads := Text.ofDigitChars_decimal n
    small := small }

theorem CodeDerives.of_wellFormed {code : Style.Code} (wellFormed : code.WellFormed) :
    CodeDerives code code.source := by
  cases code with
  | indexed number =>
    rcases component_signed wellFormed with ⟨n, same, component⟩
    subst same
    exact .number component
  | rgb ground red green blue =>
    rcases wellFormed with ⟨redByte, greenByte, blueByte⟩
    rcases component_signed redByte with ⟨r, sameRed, first⟩
    rcases component_signed greenByte with ⟨g, sameGreen, second⟩
    rcases component_signed blueByte with ⟨b, sameBlue, third⟩
    subst sameRed sameGreen sameBlue
    have derived := CodeDerives.rgb ground first second third
    cases ground <;>
      simpa [bracketOpen, bracketClose, Style.Code.source, Style.components, Text.joined,
        List.intercalate] using derived
  | _ =>
    rcases Style.Code.ofLetter?_source wellFormed with ⟨letter, spelled, named⟩
    rw [spelled]
    exact .letter named

theorem codesSource_cons (code next : Style.Code) (more : List Style.Code) :
    codesSource (code :: next :: more) = code.source ++ ';' :: codesSource (next :: more) := by
  simp [codesSource, Text.joined, List.intercalate]

theorem CodesDerive.of_wellFormed {codes : List Style.Code} (nonempty : codes ≠ [])
    (wellFormed : ∀ code ∈ codes, code.WellFormed) : CodesDerive codes (codesSource codes) := by
  induction codes with
  | nil => exact absurd rfl nonempty
  | cons code rest ih =>
    have first : CodeDerives code code.source := .of_wellFormed (wellFormed code (by simp))
    cases rest with
    | nil =>
      rw [codesSource, List.map_singleton, Text.joined, List.intercalate_singleton]
      exact .single first
    | cons next more =>
      have others := ih (List.cons_ne_nil next more) fun later member =>
        wellFormed later (List.mem_cons_of_mem code member)
      rw [codesSource_cons]
      exact .divided first others

def Arguments.inner : Arguments → Text
  | .nil => []
  | .cons argument .nil => argument.source
  | .cons argument rest => argument.source ++ ',' :: rest.inner

theorem Arguments.inner_cons (argument next : Sequence) (more : Arguments) :
    (Arguments.cons argument (.cons next more)).inner =
      argument.source ++ ',' :: (Arguments.cons next more).inner := rfl

theorem Arguments.tailSource_cons (argument : Sequence) (rest : Arguments) :
    (Arguments.cons argument rest).tailSource =
      ',' :: (Arguments.cons argument rest).inner ++ [')'] := by
  match rest with
  | .nil => rfl
  | .cons next more =>
    rw [tailSource, tailSource_cons next more, inner_cons]
    simp

theorem Arguments.source_cons (argument : Sequence) (rest : Arguments) :
    (Arguments.cons argument rest).source =
      '(' :: (Arguments.cons argument rest).inner ++ [')'] := by
  have tail := tailSource_cons argument rest
  rw [tailSource] at tail
  rw [source]
  simpa using tail

theorem literalSource_special {c : Char} (special : c = '\'' ∨ c = '\\') :
    literalSource [c] = ['\\', c] := by
  rcases special with rfl | rfl <;> rfl

theorem literalSource_free {text : Text} (plain : ∀ c ∈ text, c ≠ '\'' ∧ c ≠ '\\') :
    literalSource text = '\'' :: text ++ ['\''] := by
  apply literalSource_plain
  intro c member
  simp [isSpecial, plain c member]

mutual
theorem Element.WellFormed.derives {element : Element} (wellFormed : element.WellFormed)
    (start : Nat) : ∃ derived : Element, derived.withoutOffsets = element.withoutOffsets ∧
      Element.Derives separators start derived element.source := by
  match element, wellFormed with
  | .literal text, .inl plain =>
    rw [Element.source, literalSource_free plain]
    exact ⟨.literal text, rfl, .literal plain⟩
  | .literal _, .inr ⟨c, special, rfl⟩ =>
    rw [Element.source, literalSource_special special]
    exact ⟨.literal [c], rfl, .escaped special⟩
  | .field field .nil offset, _ => exact ⟨.field field .nil start, rfl, .field field⟩
  | .field field (.cons argument rest) offset, wellFormed =>
    have nonempty : Arguments.cons argument rest ≠ .nil := by
      simp
    rcases Arguments.WellFormed.derives wellFormed nonempty (start + 3) with
      ⟨arguments, same, inner⟩
    rw [Element.source, Arguments.source_cons]
    refine ⟨.field field arguments start, ?_, .call field inner⟩
    simp [Element.withoutOffsets, same]
  | .group kind body, wellFormed =>
    rcases Sequence.WellFormed.derives wellFormed (start + kind.opener.length) with
      ⟨read, same, inner⟩
    refine ⟨.group kind read, ?_, .group kind inner⟩
    simp [Element.withoutOffsets, same]
  | .style codes body, ⟨nonempty, spelled, wellFormed⟩ =>
    have listed := CodesDerive.of_wellFormed nonempty spelled
    rcases Sequence.WellFormed.derives wellFormed (start + (codesSource codes).length + 2) with
      ⟨read, same, inner⟩
    refine ⟨.style codes read, ?_, .style listed inner⟩
    simp [Element.withoutOffsets, same]

theorem Sequence.WellFormed.derives {sequence : Sequence} {scope : Scope}
    (wellFormed : sequence.WellFormed scope) (start : Nat) :
    ∃ derived : Sequence, derived.withoutOffsets = sequence.withoutOffsets ∧
      Sequence.Derives separators scope start derived sequence.source := by
  match sequence, wellFormed with
  | .done trailing, run => exact ⟨.done trailing, rfl, .done run⟩
  | .item separator element rest, ⟨run, wellFormed, later⟩ =>
    rcases Element.WellFormed.derives wellFormed (start + separator.length) with
      ⟨first, sameFirst, derived⟩
    rcases Sequence.WellFormed.derives later
      (start + separator.length + element.source.length) with ⟨others, sameOthers, more⟩
    refine ⟨.item separator first others, ?_, .item run derived more⟩
    simp [Sequence.withoutOffsets, sameFirst, sameOthers]

theorem Arguments.WellFormed.derives {arguments : Arguments} (wellFormed : arguments.WellFormed)
    (nonempty : arguments ≠ .nil) (start : Nat) :
    ∃ derived : Arguments, derived.withoutOffsets = arguments.withoutOffsets ∧
      Arguments.Derives separators start derived arguments.inner := by
  match arguments, wellFormed with
  | .nil, _ => exact absurd rfl nonempty
  | .cons argument .nil, ⟨wellFormed, _⟩ =>
    rcases Sequence.WellFormed.derives wellFormed start with ⟨only, same, derived⟩
    refine ⟨.cons only .nil, ?_, .last derived⟩
    simp [Arguments.withoutOffsets, same]
  | .cons argument (.cons next more), ⟨wellFormed, later⟩ =>
    have another : Arguments.cons next more ≠ .nil := by
      simp
    rcases Sequence.WellFormed.derives wellFormed start with ⟨first, sameFirst, derived⟩
    rcases Arguments.WellFormed.derives later another (start + argument.source.length + 1) with
      ⟨others, sameOthers, inner⟩
    rw [Arguments.inner_cons]
    refine ⟨.cons first others, ?_, .cons derived inner⟩
    rw [Arguments.withoutOffsets, sameFirst, sameOthers]
    rfl
end

theorem parse_source_of_wellFormed {tree : Sequence} (wellFormed : tree.WellFormed .free) :
    ∃ read, parse tree.source = .ok read ∧ read.Alike tree := by
  rcases wellFormed.derives 0 with ⟨read, same, derived⟩
  exact ⟨read, parse_eq_ok_iff.mpr derived, same⟩

/-- Formats have well-formed trees only, and a well-formed tree is read back from what is
written for it. -/
theorem parse_source_inverse :
    (∀ (source : Text) (tree : Sequence), parse source = .ok tree → tree.WellFormed .free) ∧
      ∀ tree : Sequence, tree.WellFormed .free →
        ∃ read, parse tree.source = .ok read ∧ read.Alike tree := by
  constructor
  · intro source tree parsed
    exact (parse_eq_ok_iff.mp parsed).wellFormed
  · intro tree wellFormed
    exact parse_source_of_wellFormed wellFormed

def styledBranch : Sequence :=
  .item [] (.style [.bold, .indexed 196] (.item []
    (.field .branch (.cons (.item [' '] (.literal ['\'']) (.done [])) .nil) 7) (.done [])))
    (.done ['|'])

theorem parse_source_inverse_styledBranch :
    styledBranch.WellFormed .free ∧
      ∃ read, parse styledBranch.source = .ok read ∧ read.WellFormed .free ∧
        read.Alike styledBranch := by
  have wellFormed : styledBranch.WellFormed .free := by
    simp [styledBranch, Sequence.WellFormed, Element.WellFormed, Arguments.WellFormed,
      Style.Code.WellFormed, Style.Code.lettered, Scope.Separates, separators]
  rcases parse_source_inverse.2 styledBranch wellFormed with ⟨read, parsed, same⟩
  exact ⟨wellFormed, read, parsed, parse_source_inverse.1 _ read parsed, same⟩

end Format
end GitPrompt
