import GitPrompt.Proofs.Render.Pruning

/-!
Rendering outside a repository, where no field has anything to show. What is shown then is what any
repository shows of the tree without its fields.
-/
namespace GitPrompt.Format

mutual
/-- A field is taken away with its arguments, and with the separator before it. -/
def Element.withoutFields : Element → Option Element
  | .literal text => some (.literal text)
  | .field _ _ _ => none
  | .group kind body => some (.group kind body.withoutFields)
  | .style codes body => some (.style codes body.withoutFields)
  | .nested sequence => some (.nested sequence.withoutFields)

def Sequence.withoutFields : Sequence → Sequence
  | .done trailing => .done trailing
  | .item separator element rest =>
    match element.withoutFields with
    | none => rest.withoutFields
    | some kept => .item separator kept rest.withoutFields
end

def renderKept (scene : Scene) (context : Style.Context) :
    Option Element → Except Overflow (Option Text)
  | none => .ok none
  | some kept => kept.render scene context

section
variable {bare : Snapshot} (snapshot : Snapshot) (display : Style.Display)

mutual
theorem Element.render_of_absent (absent : ∀ field : Field, field.value bare = .ok none)
    (context : Style.Context) (element : Element) :
    ∃ shown, element.render ⟨bare, display⟩ context = .ok shown ∧
      renderKept ⟨snapshot, display⟩ context element.withoutFields = .ok shown := by
  match element with
  | .literal text => exact ⟨_, rfl, rfl⟩
  | .field field arguments offset =>
    refine ⟨none, ?_, rfl⟩
    rw [Element.render, absent field]
  | .group kind body =>
    obtain ⟨pieces, read, kept⟩ := Sequence.pieces_of_absent absent context body
    rw [Element.withoutFields, renderKept, Element.render, Element.render, read, kept]
    exact ⟨_, rfl, rfl⟩
  | .style codes body =>
    obtain ⟨pieces, read, kept⟩ := Sequence.pieces_of_absent absent (context.apply codes) body
    rw [Element.withoutFields, renderKept, Element.render, Element.render, read, kept]
    exact ⟨_, rfl, rfl⟩
  | .nested sequence =>
    obtain ⟨pieces, read, kept⟩ := Sequence.pieces_of_absent absent context sequence
    rw [Element.withoutFields, renderKept, Element.render, Element.render, read, kept]
    exact ⟨_, rfl, rfl⟩

theorem Sequence.pieces_of_absent (absent : ∀ field : Field, field.value bare = .ok none)
    (context : Style.Context) (sequence : Sequence) :
    ∃ pieces, sequence.pieces ⟨bare, display⟩ context = .ok pieces ∧
      sequence.withoutFields.pieces ⟨snapshot, display⟩ context = .ok pieces := by
  match sequence with
  | .done trailing => exact ⟨[], rfl, rfl⟩
  | .item separator element rest =>
    obtain ⟨shown, first, alone⟩ := Element.render_of_absent absent context element
    obtain ⟨others, later, kept⟩ := Sequence.pieces_of_absent absent context rest
    rw [Sequence.pieces, first, later, Sequence.withoutFields]
    cases left : element.withoutFields with
    | none =>
      -- The separator goes with the field, and it was not shown before either.
      rw [left] at alone
      cases alone
      exact ⟨others, rfl, kept⟩
    | some element =>
      rw [left, renderKept] at alone
      rw [Sequence.pieces, alone, kept]
      exact ⟨_, rfl, rfl⟩
end

end

/-- Outside a repository every tree renders, and to what its literals show by themselves. -/
theorem render_outsideRepository (display : Style.Display) (context : Style.Context)
    (tree : Sequence) :
    ∃ shown, tree.render ⟨.outsideRepository, display⟩ context = .ok shown ∧
      ∀ snapshot, tree.withoutFields.render ⟨snapshot, display⟩ context = .ok shown := by
  have kept (snapshot : Snapshot) :=
    tree.pieces_of_absent snapshot display Field.value_outsideRepository context
  obtain ⟨pieces, read, -⟩ := kept .outsideRepository
  refine ⟨joinPieces pieces, Sequence.render_of_pieces read, ?_⟩
  intro snapshot
  obtain ⟨others, again, left⟩ := kept snapshot
  obtain rfl : pieces = others := Except.ok.inj (read.symm.trans again)
  exact Sequence.render_of_pieces left

end GitPrompt.Format
