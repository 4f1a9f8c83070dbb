import GitPrompt.Proofs.Format.RoundTrip

/-!
Formats that are made of formats. What is written one after the other, between the brackets of a
group or a style, or between the commas of an argument list is read as the trees of its parts.
-/
namespace GitPrompt.Format

mutual
def Element.shift (distance : Nat) : Element → Element
  | .literal text => .literal text
  | .field field arguments offset =>
    .field field (arguments.shift distance) (offset + distance)
  | .group kind body => .group kind (body.shift distance)
  | .style codes body => .style codes (body.shift distance)
  | .nested sequence => .nested (sequence.shift distance)

def Sequence.shift (distance : Nat) : Sequence → Sequence
  | .done trailing => .done trailing
  | .item separator element rest =>
    .item separator (element.shift distance) (rest.shift distance)

def Arguments.shift (distance : Nat) : Arguments → Arguments
  | .nil => .nil
  | .cons argument rest => .cons (argument.shift distance) (rest.shift distance)
end

section
variable (distance : Nat)

mutual
theorem Element.withoutOffsets_shift (element : Element) :
    (element.shift distance).withoutOffsets = element.withoutOffsets := by
  cases element with
  | literal text => rfl
  | field field arguments offset =>
    simp only [Element.shift, Element.withoutOffsets, arguments.withoutOffsets_shift]
  | group kind body =>
    simp only [Element.shift, Element.withoutOffsets, body.withoutOffsets_shift]
  | style codes body =>
    simp only [Element.shift, Element.withoutOffsets, body.withoutOffsets_shift]
  | nested sequence =>
    simp only [Element.shift, Element.withoutOffsets, sequence.withoutOffsets_shift]

theorem Sequence.withoutOffsets_shift (sequence : Sequence) :
    (sequence.shift distance).withoutOffsets = sequence.withoutOffsets := by
  cases sequence with
  | done trailing => rfl
  | item separator element rest =>
    simp only [Sequence.shift, Sequence.withoutOffsets, element.withoutOffsets_shift,
      rest.withoutOffsets_shift]

theorem Arguments.withoutOffsets_shift (arguments : Arguments) :
    (arguments.shift distance).withoutOffsets = arguments.withoutOffsets := by
  cases arguments with
  | nil => rfl
  | cons argument rest =>
    simp only [Arguments.shift, Arguments.withoutOffsets, argument.withoutOffsets_shift,
      rest.withoutOffsets_shift]
end

mutual
theorem Element.Derives.shift {alphabet : Text} {start : Nat} {element : Element} {text : Text}
    (derived : Element.Derives alphabet start element text) :
    Element.Derives alphabet (start + distance) (element.shift distance) text := by
  match derived with
  | .literal plain => exact .literal plain
  | .escaped special => exact .escaped special
  | .field field => exact .field field
  | .call field inner =>
    have moved := inner.shift
    rw [Nat.add_right_comm] at moved
    exact .call field moved
  | .group kind inner =>
    have moved := inner.shift
    rw [Nat.add_right_comm] at moved
    exact .group kind moved
  | @Element.Derives.style _ _ codes list body text listed inner =>
    have moved := inner.shift
    have place : start + list.length + 2 + distance = start + distance + list.length + 2 := by
      omega
    rw [place] at moved
    exact .style listed moved

theorem Sequence.Derives.shift {alphabet : Text} {scope : Scope} {start : Nat}
    {sequence : Sequence} {text : Text}
    (derived : Sequence.Derives alphabet scope start sequence text) :
    Sequence.Derives alphabet scope (start + distance) (sequence.shift distance) text := by
  match derived with
  | .done run => exact .done run
  | @Sequence.Derives.item _ _ _ separator text more element rest run first others =>
    have head := first.shift
    have tail := others.shift
    have later : start + separator.length + text.length + distance =
        start + distance + separator.length + text.length := by
      omega
    rw [Nat.add_right_comm] at head
    rw [later] at tail
    exact .item run head tail

theorem Arguments.Derives.shift {alphabet : Text} {start : Nat} {arguments : Arguments}
    {text : Text} (derived : Arguments.Derives alphabet start arguments text) :
    Arguments.Derives alphabet (start + distance) (arguments.shift distance) text := by
  match derived with
  | .last only => exact .last only.shift
  | @Arguments.Derives.cons _ _ argument rest text more first others =>
    have tail := others.shift
    have later : start + text.length + 1 + distance = start + distance + text.length + 1 := by
      omega
    rw [later] at tail
    exact .cons first.shift tail
end

end

theorem Sequence.derives_of_parse {source : Text} {tree : Sequence}
    (parsed : parse source = .ok tree) (start : Nat) :
    Sequence.Derives separators .free start (tree.shift start) source := by
  have moved := (parse_eq_ok_iff.mp parsed).shift start
  rwa [Nat.zero_add] at moved

/-- No comma stands between the elements of the sequence itself; deeper in it there may be some. -/
def Sequence.CommaFree : Sequence → Prop
  | .done trailing => ',' ∉ trailing
  | .item separator _ rest => ',' ∉ separator ∧ rest.CommaFree

theorem Sequence.Derives.argument {alphabet : Text} {start : Nat} {sequence : Sequence}
    {text : Text} (derived : Sequence.Derives alphabet .free start sequence text)
    (clear : sequence.CommaFree) : Sequence.Derives alphabet .argument start sequence text := by
  have apart : ∀ run : Text, (∀ c ∈ run, Scope.free.Separates alphabet c) → ',' ∉ run →
      ∀ c ∈ run, Scope.argument.Separates alphabet c := by
    intro run separates noComma c member
    refine ⟨separates c member, ?_⟩
    intro comma
    exact noComma (comma ▸ member)
  match derived, clear with
  | .done run, noComma => exact .done (apart _ run noComma)
  | .item run first others, ⟨noComma, later⟩ =>
    exact .item (apart _ run noComma) first (others.argument later)

def Arguments.placed (start : Nat) : List (Text × Sequence) → Arguments
  | [] => .nil
  | (text, tree) :: rest => .cons (tree.shift start) (placed (start + text.length + 1) rest)

theorem Arguments.derives_placed {parts : List (Text × Sequence)} (nonempty : parts ≠ [])
    (reads : ∀ part ∈ parts, parse part.1 = .ok part.2 ∧ part.2.CommaFree) (start : Nat) :
    Arguments.Derives separators start (placed start parts)
      (Text.joined [','] (parts.map Prod.fst)) := by
  induction parts generalizing start with
  | nil => exact absurd rfl nonempty
  | cons part rest ih =>
    have here := reads part List.mem_cons_self
    have derived : Sequence.Derives separators .argument 0 part.2 part.1 :=
      (parse_eq_ok_iff.mp here.1).argument here.2
    have first := derived.shift start
    rw [Nat.zero_add] at first
    cases rest with
    | nil =>
      have alone : Text.joined [','] ([part].map Prod.fst) = part.1 :=
        List.intercalate_singleton
      rw [alone]
      exact .last first
    | cons next more =>
      have others := ih (List.cons_ne_nil next more)
        (fun later member => reads later (List.mem_cons_of_mem part member))
        (start + part.1.length + 1)
      have split : Text.joined [','] ((part :: next :: more).map Prod.fst) =
          part.1 ++ ',' :: Text.joined [','] ((next :: more).map Prod.fst) := by
        simp [Text.joined, List.intercalate]
      rw [split]
      exact .cons first others

theorem parse_single {text : Text} {element : Element}
    (derived : Element.Derives separators 0 element text) :
    parse text = .ok (.item [] element (.done [])) :=
  parse_eq_ok_iff.mpr derived.single

/-- Formats written one after the other are read as one, and a format between the brackets of a
group, after the codes of a style or among the arguments of a field is read as the body or the
argument that it stands for. Only the offsets of its fields are other ones. -/
theorem parse_compositional :
    (∀ (distance : Nat) (tree : Sequence), (tree.shift distance).Alike tree) ∧
    (∀ {first second : Text} {before after : Sequence},
      parse first = .ok before → parse second = .ok after →
        parse (first ++ second) = .ok (before.append (after.shift first.length))) ∧
    (∀ (kind : GroupKind) {source : Text} {body : Sequence}, parse source = .ok body →
      parse (kind.opener ++ source ++ [kind.closer.char]) =
        .ok (.item [] (.group kind (body.shift kind.opener.length)) (.done []))) ∧
    (∀ {codes : List Style.Code} {source : Text} {body : Sequence}, codes ≠ [] →
      (∀ code ∈ codes, code.WellFormed) → parse source = .ok body →
        parse ('#' :: codesSource codes ++ '(' :: source ++ [')']) =
          .ok (.item [] (.style codes (body.shift ((codesSource codes).length + 2)))
            (.done []))) ∧
    ∀ (field : Field) {parts : List (Text × Sequence)}, parts ≠ [] →
      (∀ part ∈ parts, parse part.1 = .ok part.2 ∧ part.2.CommaFree) →
        parse ('\\' :: field.letter :: '(' :: Text.joined [','] (parts.map Prod.fst) ++ [')']) =
          .ok (.item [] (.field field (.placed 3 parts) 0) (.done [])) := by
  refine ⟨fun distance tree => tree.withoutOffsets_shift distance, ?_, ?_, ?_, ?_⟩
  · intro first second before after read next
    have derived := parse_eq_ok_iff.mp read
    have later := Sequence.derives_of_parse next first.length
    apply parse_eq_ok_iff.mpr
    apply derived.append
    rwa [Nat.zero_add]
  · intro kind source body read
    have inner := Sequence.derives_of_parse read (0 + kind.opener.length)
    apply parse_single
    simpa using Element.Derives.group kind inner
  · intro codes source body nonempty spelled read
    have listed := CodesDerive.of_wellFormed nonempty spelled
    have inner := Sequence.derives_of_parse read (0 + (codesSource codes).length + 2)
    apply parse_single
    simpa using Element.Derives.style listed inner
  · intro field parts nonempty reads
    have inner := Arguments.derives_placed nonempty reads (0 + 3)
    exact parse_single (.call field inner)

def branchFirst : Sequence := .item [] (.field .branch .nil 0) (.done [' ', '|'])

def addedNext : Sequence := .item [':'] (.field (.count .stagedAdded) .nil 1) (.done [])

theorem parse_compositional_branch_added :
    parse ['\\', 'b', ' ', '|'] = .ok branchFirst ∧ parse [':', '\\', 'A'] = .ok addedNext ∧
      parse (['\\', 'b', ' ', '|'] ++ [':', '\\', 'A']) =
        .ok (.item [] (.field .branch .nil 0)
          (.item [' ', '|', ':'] (.field (.count .stagedAdded) .nil 5) (.done []))) ∧
      parse (['\\', 'g', '('] ++ [':', '\\', 'A'] ++ [')']) =
        .ok (.item [] (.group .bare (addedNext.shift 3)) (.done [])) ∧
      parse ('#' :: codesSource [.bold, .indexed 7] ++ '(' :: [':', '\\', 'A'] ++ [')']) =
        .ok (.item [] (.style [.bold, .indexed 7] (addedNext.shift 5)) (.done [])) ∧
      parse ('\\' :: 'R' :: '(' :: ['\\', 'b', ' ', '|', ',', ':', '\\', 'A'] ++ [')']) =
        .ok (.item [] (.field (.count .stagedRenamed)
          (.cons (branchFirst.shift 3) (.cons (addedNext.shift 8) .nil)) 0) (.done [])) := by
  have before : parse ['\\', 'b', ' ', '|'] = .ok branchFirst := rfl
  have after : parse [':', '\\', 'A'] = .ok addedNext := rfl
  obtain ⟨_, joined, grouped, styled, called⟩ := parse_compositional
  have spelled : ∀ code ∈ [Style.Code.bold, .indexed 7], code.WellFormed := by
    simp [Style.Code.WellFormed, Style.Code.lettered]
  have reads : ∀ part ∈ [(['\\', 'b', ' ', '|'], branchFirst), ([':', '\\', 'A'], addedNext)],
      parse part.1 = .ok part.2 ∧ part.2.CommaFree := by
    simp [before, after, branchFirst, addedNext, Sequence.CommaFree]
  exact ⟨before, after, joined before after, grouped .bare after,
    styled (List.cons_ne_nil _ _) spelled after,
    called (.count .stagedRenamed) (List.cons_ne_nil _ _) reads⟩

end GitPrompt.Format
