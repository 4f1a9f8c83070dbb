import GitPrompt.Proofs.Format.Splitting
import GitPrompt.Proofs.Render.Emptiness

/-!
A tree and the one with its literals split show the same, so what a tree with literals of any text
is written as shows the same as the tree. Where a count cannot be shown both stop with the same
message.
-/
namespace GitPrompt.Format

section
variable {scene : Scene}

theorem Flagged.join_some (begun : Flagged) (separator : Text) {text : Text}
    (nonempty : text ≠ []) : begun.join separator ⟨text, text.isEmpty⟩ =
      ⟨begun.text ++ (if begun.isEmpty then [] else separator) ++ text, false⟩ := by
  have visible : text.isEmpty = false := by simpa using nonempty
  rw [join, visible]
  rfl

theorem flagged_literalRow {pieces : List Text} (nonempty : ∀ piece ∈ pieces, piece ≠ [])
    (context : Style.Context) (begun : Text) (rest : Sequence) :
    ((literalRow pieces).append rest).flagged scene context ⟨begun, false⟩ =
      rest.flagged scene context ⟨begun ++ pieces.flatten, false⟩ := by
  induction pieces generalizing begun with
  | nil => simp [literalRow, Sequence.append, Sequence.lead_nil]
  | cons piece others ih =>
    simp only [List.mem_cons, forall_eq_or_imp] at nonempty
    calc
      _ = ((literalRow others).append rest).flagged scene context
          (Flagged.join ⟨begun, false⟩ [] ⟨piece, piece.isEmpty⟩) := rfl
      _ = ((literalRow others).append rest).flagged scene context ⟨begun ++ piece, false⟩ := by
        rw [Flagged.join_some _ _ nonempty.1]
        simp
      _ = rest.flagged scene context ⟨begun ++ (piece :: others).flatten, false⟩ := by
        rw [ih nonempty.2]
        simp

theorem flagged_splitLiteral (text : Text) (context : Style.Context) (separator : Text)
    (rest : Sequence) (begun : Flagged) :
    (((literalRow (splitLiteral text)).lead separator).append rest).flagged scene context begun =
      rest.flagged scene context (begun.join separator ⟨text, text.isEmpty⟩) := by
  have first : ∀ (piece : Text) (others : List Text),
      (((literalRow (piece :: others)).lead separator).append rest).flagged scene context begun =
        ((literalRow others).append rest).flagged scene context
          (begun.join separator ⟨piece, piece.isEmpty⟩) := by
    intro piece others
    rw [literalRow, Sequence.lead, List.append_nil]
    rfl
  by_cases empty : text = []
  · subst empty
    calc
      _ = ((literalRow []).append rest).flagged scene context
          (begun.join separator ⟨[], true⟩) := first [] []
      _ = rest.flagged scene context (begun.join separator ⟨[], true⟩) := by
        rw [literalRow, Sequence.done_append, Sequence.lead_nil]
  · have visible : ∀ piece ∈ literalPieces [] text, piece ≠ [] :=
      forall_mem_literalPieces (· ≠ []) (List.forall_mem_nil _) (fun _ nonempty _ => nonempty)
        (fun c _ => List.cons_ne_nil c [])
    have whole := flatten_literalPieces [] text
    rw [splitLiteral, if_neg empty]
    cases pieces : literalPieces [] text with
    | nil =>
      rw [pieces] at whole
      exact absurd whole.symm empty
    | cons piece others =>
      rw [pieces] at whole visible
      simp only [List.mem_cons, forall_eq_or_imp] at visible
      have joined : piece ++ others.flatten = text := by simpa using whole
      rw [first, Flagged.join_some _ _ visible.1, flagged_literalRow visible.2, List.append_assoc,
        joined, Flagged.join_some _ _ empty]

mutual
theorem Element.flagged_split (element : Element) (context : Style.Context) (separator : Text)
    (rest : Sequence) (begun : Flagged) :
    ((element.split.lead separator).append rest).flagged scene context begun =
      element.flagged scene context >>= fun next =>
        rest.flagged scene context (begun.join separator next) := by
  have single : ∀ other : Element, (((Sequence.item [] other (.done [])).lead separator).append
      rest).flagged scene context begun =
        other.flagged scene context >>= fun next =>
          rest.flagged scene context (begun.join separator next) := by
    intro other
    rw [Sequence.lead, List.append_nil, Sequence.item_append, Sequence.done_append,
      Sequence.lead_nil, Sequence.flagged]
  cases element with
  | literal text => exact flagged_splitLiteral text context separator rest begun
  | field field arguments offset =>
    rw [Element.split, single, Element.flagged, Element.flagged, arguments.flagged_split]
  | group kind body =>
    rw [Element.split, single, Element.flagged, Element.flagged, body.flagged_split]
  | style codes body =>
    rw [Element.split, single, Element.flagged, Element.flagged, body.flagged_split]
  | nested sequence =>
    rw [Element.split, single, Element.flagged, Element.flagged, sequence.flagged_split]

theorem Sequence.flagged_split (sequence : Sequence) (context : Style.Context)
    (begun : Flagged) :
    sequence.split.flagged scene context begun = sequence.flagged scene context begun := by
  cases sequence with
  | done trailing => rfl
  | item separator element rest =>
    rw [Sequence.split, element.flagged_split, Sequence.flagged]
    congr 1
    funext next
    exact rest.flagged_split context (begun.join separator next)

theorem Arguments.flagged_split (arguments : Arguments) (context : Style.Context) :
    arguments.split.flagged scene context = arguments.flagged scene context := by
  cases arguments with
  | nil => rfl
  | cons argument rest =>
    rw [Arguments.split, Arguments.flagged, Arguments.flagged, argument.flagged_split,
      rest.flagged_split]
end

theorem Flagged.ofShown_injective {first second : Option Text}
    (same : ofShown first = ofShown second) : first = second := by
  cases first <;> cases second <;> simp_all [ofShown, nothing]

theorem Sequence.render_split (sequence : Sequence) (context : Style.Context) :
    sequence.split.render scene context = sequence.render scene context := by
  have flags : ∀ tree : Sequence, tree.flagged scene context .nothing =
      (tree.render scene context).map Flagged.ofShown := by
    intro tree
    rw [← Element.render_nested, ← Element.flagged_eq, Element.flagged]
  have same : sequence.split.flagged scene context .nothing =
      sequence.flagged scene context .nothing := sequence.flagged_split context .nothing
  rw [flags, flags] at same
  cases split : sequence.split.render scene context <;>
    cases whole : sequence.render scene context <;> rw [split, whole] at same <;>
    simp only [Except.map, reduceCtorEq, Except.ok.injEq, Except.error.injEq] at same
  · rw [same]
  · rw [Flagged.ofShown_injective same]

def Overflow.unplaced (overflow : Overflow) : Overflow := { overflow with offset := 0 }

theorem mapError_bind {ε ε' α β : Type} (view : ε → ε') (first : Except ε α)
    (next : α → Except ε β) :
    (first >>= next).mapError view = first.mapError view >>= fun a => (next a).mapError view := by
  cases first <;> rfl

mutual
theorem Element.render_withoutOffsets (element : Element) (context : Style.Context) :
    element.withoutOffsets.render scene context =
      (element.render scene context).mapError Overflow.unplaced := by
  cases element with
  | literal text => rfl
  | field field arguments offset =>
    rw [Element.withoutOffsets, Element.render, Element.render]
    cases field.value scene.snapshot with
    | error value => rfl
    | ok found =>
      cases found with
      | none => rfl
      | some value =>
        simp only [mapError_bind, arguments.render_withoutOffsets]
        rfl
  | group kind body =>
    rw [Element.withoutOffsets, Element.render, Element.render, mapError_bind,
      body.pieces_withoutOffsets]
    rfl
  | style codes body =>
    rw [Element.withoutOffsets, Element.render, Element.render, mapError_bind,
      body.pieces_withoutOffsets]
    rfl
  | nested sequence =>
    rw [Element.withoutOffsets, Element.render, Element.render, mapError_bind,
      sequence.pieces_withoutOffsets]
    rfl

theorem Sequence.pieces_withoutOffsets (sequence : Sequence) (context : Style.Context) :
    sequence.withoutOffsets.pieces scene context =
      (sequence.pieces scene context).mapError Overflow.unplaced := by
  cases sequence with
  | done trailing => rfl
  | item separator element rest =>
    rw [Sequence.withoutOffsets, Sequence.pieces, Sequence.pieces, mapError_bind,
      element.render_withoutOffsets, rest.pieces_withoutOffsets]
    congr 1
    funext shown
    rw [mapError_bind]
    rfl

theorem Arguments.render_withoutOffsets (arguments : Arguments) (context : Style.Context) :
    arguments.withoutOffsets.render scene context =
      (arguments.render scene context).mapError Overflow.unplaced := by
  cases arguments with
  | nil => rfl
  | cons argument rest =>
    rw [Arguments.withoutOffsets, Arguments.render, Arguments.render, mapError_bind,
      argument.pieces_withoutOffsets, rest.render_withoutOffsets]
    congr 1
    funext pieces
    rw [mapError_bind]
    rfl
end

theorem Sequence.Alike.message_eq {first second : Sequence} (alike : first.Alike second)
    (context : Style.Context) :
    (first.render scene context).mapError Overflow.message =
      (second.render scene context).mapError Overflow.message := by
  have unplaced : ∀ tree : Sequence, (tree.render scene context).mapError Overflow.message =
      (tree.withoutOffsets.render scene context).mapError Overflow.message := by
    intro tree
    rw [Sequence.render, Sequence.render, tree.pieces_withoutOffsets]
    cases tree.pieces scene context <;> rfl
  rw [unplaced first, unplaced second, alike]

end

/-- A tree whose literals hold any text is written as a format, and what is read back shows the same
or stops with the same message. -/
theorem parse_source_shows_same {tree : Sequence} (writable : tree.Writable .free) :
    ∃ read, parse tree.source = .ok read ∧ ∀ (scene : Scene) (context : Style.Context),
      (read.render scene context).mapError Overflow.message =
        (tree.render scene context).mapError Overflow.message := by
  have wellFormed : tree.split.WellFormed .free := writable.split
  obtain ⟨read, parsed, alike⟩ := parse_source_of_wellFormed wellFormed
  rw [tree.source_split] at parsed
  refine ⟨read, parsed, ?_⟩
  intro scene context
  rw [alike.message_eq, tree.render_split]

def carefulTree : Sequence :=
  .item [] (.literal ['a', '\'', ',', '\\', '\\', '#', '(', '\n'])
    (.item [' '] (.field (.count .untracked)
      (.cons (.item ['|'] (.literal ['\'', ')']) (.done [])) .nil) 41) (.done [',']))

theorem parse_source_shows_same_careful :
    carefulTree.Writable .free ∧
      carefulTree.source = "'a'\\'','\\\\\\\\'#(\n' \\a(|\\'')'),".toList ∧
      ∃ read, parse carefulTree.source = .ok read ∧ ∀ context : Style.Context,
        (read.render { snapshot := { branch := [], untracked := 2 } } context).mapError
            Overflow.message = .ok (some "a',\\\\#(\n ')2".toList) ∧
          (read.render { snapshot := { branch := [], untracked := -2 } } context).mapError
            Overflow.message =
            .error "untracked count -2 is outside the range 0-4294967295".toList := by
  have writable : carefulTree.Writable .free := by
    simp [carefulTree, Sequence.Writable, Element.Writable, Arguments.Writable, Scope.Separates,
      separators]
  obtain ⟨read, parsed, same⟩ := parse_source_shows_same writable
  refine ⟨writable, rfl, read, parsed, ?_⟩
  intro context
  have stopped : carefulTree.render { snapshot := { branch := [], untracked := -2 } } context =
      .error ⟨.count .untracked, -2, 41⟩ := rfl
  rw [same, same, stopped]
  refine ⟨rfl, congrArg Except.error ?_⟩
  simp only [Overflow.message, Text.words_eq]
  rfl

end GitPrompt.Format
