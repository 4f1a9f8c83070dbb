import GitPrompt.Proofs.Format.RoundTrip

/-!
Literals of any text. What is written for a tree splits a literal where quotes cannot hold its text:
it is the source of a well-formed tree that has more literals.
-/
namespace GitPrompt.Format

def ordinaryPiece (run : Text) : List Text := if run = [] then [] else [run]

/-- The pieces of a text behind a run of ordinary characters. A special character is a piece by
itself. -/
def literalPieces (run : Text) : Text → List Text
  | [] => ordinaryPiece run
  | c :: rest =>
    if isSpecial c then ordinaryPiece run ++ [c] :: literalPieces [] rest
    else literalPieces (run ++ [c]) rest

def splitLiteral (text : Text) : List Text := if text = [] then [[]] else literalPieces [] text

section
variable {run text : Text}

theorem flatten_ordinaryPiece (run : Text) : (ordinaryPiece run).flatten = run := by
  unfold ordinaryPiece
  split
  · subst run
    rfl
  · simp

theorem flatten_literalPieces (run text : Text) :
    (literalPieces run text).flatten = run ++ text := by
  induction text generalizing run with
  | nil => simp [literalPieces, flatten_ordinaryPiece]
  | cons c rest ih =>
    unfold literalPieces
    split
    · simp [flatten_ordinaryPiece, ih]
    · simp [ih]

theorem forall_mem_literalPieces (holds : Text → Prop)
    (ordinary : ∀ c ∈ run, isSpecial c = false)
    (runs : ∀ piece : Text, piece ≠ [] → (∀ c ∈ piece, isSpecial c = false) → holds piece)
    (alone : ∀ c, isSpecial c = true → holds [c]) :
    ∀ piece ∈ literalPieces run text, holds piece := by
  have ordinaries : ∀ run : Text, (∀ c ∈ run, isSpecial c = false) →
      ∀ piece ∈ ordinaryPiece run, holds piece := by
    intro run ordinary piece member
    unfold ordinaryPiece at member
    split at member
    · cases member
    · rename_i nonempty
      rw [List.mem_singleton.mp member]
      exact runs run nonempty ordinary
  induction text generalizing run with
  | nil => exact ordinaries run ordinary
  | cons c rest ih =>
    intro piece member
    unfold literalPieces at member
    split at member
    · rename_i special
      simp only [List.mem_append, List.mem_cons] at member
      obtain before | here | later := member
      · exact ordinaries run ordinary piece before
      · exact here ▸ alone c special
      · exact ih (by simp) piece later
    · rename_i usual
      have longer : ∀ d ∈ run ++ [c], isSpecial d = false := by
        simpa [or_imp, forall_and, usual] using ordinary
      exact ih longer piece member

theorem source_literalPieces (ordinary : ∀ c ∈ run, isSpecial c = false) :
    (literalPieces run text).flatMap literalSource =
      (if run = [] then [] else '\'' :: run) ++ literalTail (run ≠ []) text := by
  have written : ∀ run : Text, (∀ c ∈ run, isSpecial c = false) →
      (ordinaryPiece run).flatMap literalSource =
        if run = [] then [] else '\'' :: run ++ ['\''] := by
    intro run ordinary
    unfold ordinaryPiece
    split
    · rfl
    · simp [literalSource_plain ordinary]
  induction text generalizing run with
  | nil =>
    rw [literalPieces, written run ordinary]
    by_cases empty : run = [] <;> simp [empty, literalTail]
  | cons c rest ih =>
    by_cases special : isSpecial c = true
    · have single : literalSource [c] = ['\\', c] := by
        simp [literalSource, literalTail, special]
      have nothing : ∀ d ∈ ([] : Text), isSpecial d = false := by simp
      have later := ih nothing
      rw [literalPieces, if_pos special, List.flatMap_append, List.flatMap_cons, later, single,
        written run ordinary]
      by_cases empty : run = [] <;> simp [empty, literalTail, special]
    · have usual : isSpecial c = false := by simpa using special
      have longer : ∀ d ∈ run ++ [c], isSpecial d = false := by
        simpa [or_imp, forall_and, usual] using ordinary
      rw [literalPieces, if_neg special, ih longer]
      by_cases empty : run = [] <;> simp [empty, literalTail, special]

theorem source_splitLiteral (text : Text) :
    (splitLiteral text).flatMap literalSource = literalSource text := by
  unfold splitLiteral
  split
  · subst text
    rfl
  · rename_i nonempty
    rw [source_literalPieces (by simp), literalSource, if_neg nonempty]
    rfl

theorem wellFormed_splitLiteral (text : Text) :
    ∀ piece ∈ splitLiteral text, (Element.literal piece).WellFormed := by
  unfold splitLiteral
  split
  · simp [Element.WellFormed]
  · apply forall_mem_literalPieces fun piece => (Element.literal piece).WellFormed
    · simp
    · intro piece _ ordinary
      left
      intro c member
      have usual := ordinary c member
      simp only [isSpecial, Bool.or_eq_false_iff, beq_eq_false_iff_ne] at usual
      exact ⟨usual.2, usual.1⟩
    · intro c special
      right
      exact ⟨c, by simpa [isSpecial, or_comm] using special, rfl⟩

end

def literalRow : List Text → Sequence
  | [] => .done []
  | piece :: rest => .item [] (.literal piece) (literalRow rest)

mutual
def Element.split : Element → Sequence
  | .literal text => literalRow (splitLiteral text)
  | .field field arguments offset =>
    .item [] (.field field arguments.split offset) (.done [])
  | .group kind body => .item [] (.group kind body.split) (.done [])
  | .style codes body => .item [] (.style codes body.split) (.done [])
  | .nested sequence => .item [] (.nested sequence.split) (.done [])

def Sequence.split : Sequence → Sequence
  | .done trailing => .done trailing
  | .item separator element rest => (element.split.lead separator).append rest.split

def Arguments.split : Arguments → Arguments
  | .nil => .nil
  | .cons argument rest => .cons argument.split rest.split
end

theorem Sequence.source_lead (run : Text) (sequence : Sequence) :
    (sequence.lead run).source = run ++ sequence.source := by
  cases sequence with
  | done trailing => rfl
  | item separator element rest => simp [Sequence.lead, Sequence.source]

theorem Sequence.source_append (first second : Sequence) :
    (first.append second).source = first.source ++ second.source := by
  match first with
  | .done trailing => exact second.source_lead trailing
  | .item separator element rest =>
    rw [Sequence.append, Sequence.source, rest.source_append second]
    simp [Sequence.source]

theorem source_literalRow (pieces : List Text) :
    (literalRow pieces).source = pieces.flatMap literalSource := by
  induction pieces with
  | nil => rfl
  | cons piece rest ih => simp [literalRow, Sequence.source, Element.source, ih]

mutual
theorem Element.source_split (element : Element) : element.split.source = element.source := by
  cases element with
  | literal text =>
    rw [Element.split, source_literalRow, source_splitLiteral, Element.source]
  | field field arguments offset =>
    simp [Element.split, Sequence.source, Element.source, arguments.source_split]
  | group kind body => simp [Element.split, Sequence.source, Element.source, body.source_split]
  | style codes body => simp [Element.split, Sequence.source, Element.source, body.source_split]
  | nested sequence =>
    simp [Element.split, Sequence.source, Element.source, sequence.source_split]

theorem Sequence.source_split (sequence : Sequence) :
    sequence.split.source = sequence.source := by
  cases sequence with
  | done trailing => rfl
  | item separator element rest =>
    rw [Sequence.split, Sequence.source_append, Sequence.source_lead, element.source_split,
      rest.source_split, Sequence.source]

theorem Arguments.source_split (arguments : Arguments) :
    arguments.split.source = arguments.source := by
  cases arguments with
  | nil => rfl
  | cons argument rest =>
    rw [Arguments.split, Arguments.source, Arguments.source, argument.source_split,
      rest.tailSource_split]

theorem Arguments.tailSource_split (arguments : Arguments) :
    arguments.split.tailSource = arguments.tailSource := by
  cases arguments with
  | nil => rfl
  | cons argument rest =>
    rw [Arguments.split, Arguments.tailSource, Arguments.tailSource, argument.source_split,
      rest.tailSource_split]
end

mutual
/-- What holds of every tree of a format, except that a literal may have any text. -/
def Element.Writable : Element → Prop
  | .literal _ => True
  | .field _ arguments _ => arguments.Writable
  | .group _ body => body.Writable .free
  | .style codes body => codes ≠ [] ∧ (∀ code ∈ codes, code.WellFormed) ∧ body.Writable .free
  | .nested _ => False

def Sequence.Writable : Sequence → Scope → Prop
  | .done trailing, scope => ∀ c ∈ trailing, scope.Separates separators c
  | .item separator element rest, scope =>
    (∀ c ∈ separator, scope.Separates separators c) ∧ element.Writable ∧ rest.Writable scope

def Arguments.Writable : Arguments → Prop
  | .nil => True
  | .cons argument rest => argument.Writable .argument ∧ rest.Writable
end

section
variable {scope : Scope}

theorem Sequence.WellFormed.lead {run : Text} {sequence : Sequence}
    (separates : ∀ c ∈ run, scope.Separates separators c)
    (wellFormed : sequence.WellFormed scope) : (sequence.lead run).WellFormed scope := by
  have joined : ∀ more : Text, (∀ c ∈ more, scope.Separates separators c) →
      ∀ c ∈ run ++ more, scope.Separates separators c := by
    intro more others c member
    cases List.mem_append.mp member with
    | inl early => exact separates c early
    | inr late => exact others c late
  cases sequence with
  | done trailing => exact joined trailing wellFormed
  | item separator element rest => exact ⟨joined separator wellFormed.1, wellFormed.2⟩

theorem Sequence.WellFormed.append {first second : Sequence} (wellFormed : first.WellFormed scope)
    (later : second.WellFormed scope) : (first.append second).WellFormed scope := by
  cases first with
  | done trailing => exact later.lead wellFormed
  | item separator element rest =>
    obtain ⟨run, here, others⟩ := wellFormed
    exact ⟨run, here, others.append later⟩

theorem Element.WellFormed.single {element : Element} (wellFormed : element.WellFormed) :
    (Sequence.item [] element (.done [])).WellFormed scope :=
  ⟨nofun, wellFormed, nofun⟩

theorem wellFormed_literalRow {pieces : List Text}
    (each : ∀ piece ∈ pieces, (Element.literal piece).WellFormed) :
    (literalRow pieces).WellFormed scope := by
  induction pieces with
  | nil => exact nofun
  | cons piece rest ih =>
    simp only [List.mem_cons, forall_eq_or_imp] at each
    exact ⟨nofun, each.1, ih each.2⟩

end

mutual
theorem Element.Writable.split {element : Element} (writable : element.Writable)
    (scope : Scope) : element.split.WellFormed scope := by
  match element, writable with
  | .literal text, _ => exact wellFormed_literalRow (wellFormed_splitLiteral text)
  | .field field arguments offset, inner =>
    have wellFormed : (Element.field field arguments.split offset).WellFormed :=
      Arguments.Writable.split inner
    exact wellFormed.single
  | .group kind body, inner =>
    have wellFormed : (Element.group kind body.split).WellFormed := Sequence.Writable.split inner
    exact wellFormed.single
  | .style codes body, ⟨nonempty, spelled, inner⟩ =>
    have wellFormed : (Element.style codes body.split).WellFormed :=
      ⟨nonempty, spelled, Sequence.Writable.split inner⟩
    exact wellFormed.single

theorem Sequence.Writable.split {sequence : Sequence} {scope : Scope}
    (writable : sequence.Writable scope) : sequence.split.WellFormed scope := by
  match sequence, writable with
  | .done trailing, run => exact run
  | .item separator element rest, ⟨run, first, others⟩ =>
    have here := Element.Writable.split first scope
    exact (here.lead run).append (Sequence.Writable.split others)

theorem Arguments.Writable.split {arguments : Arguments} (writable : arguments.Writable) :
    arguments.split.WellFormed := by
  match arguments, writable with
  | .nil, _ => exact trivial
  | .cons argument rest, ⟨first, others⟩ =>
    exact ⟨Sequence.Writable.split first, Arguments.Writable.split others⟩
end

end GitPrompt.Format
