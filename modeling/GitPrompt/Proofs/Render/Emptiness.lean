import GitPrompt.Proofs.Render.Contents
import GitPrompt.Proofs.Render.Presence

/-!
Emptiness. Rendered to a text and a flag beside it, which alone tells the parent whether there is
anything to join, to bracket or to enclose, a node has the flag set exactly when its text is empty,
and exactly when no literal and no field outside its lists of arguments has anything to show.
-/
namespace GitPrompt.Format

/-- A text and a flag of its own. Nothing in the type keeps the two in step. -/
structure Flagged where
  text : Text
  isEmpty : Bool
  deriving DecidableEq, Repr

namespace Flagged

def nothing : Flagged := ⟨[], true⟩

def ofShown : Option Text → Flagged
  | none => nothing
  | some text => ⟨text, false⟩

def join (begun : Flagged) (separator : Text) (next : Flagged) : Flagged :=
  if next.isEmpty then begun
  else ⟨begun.text ++ (if begun.isEmpty then [] else separator) ++ next.text, false⟩

def bracket (left right : Text) (inside : Flagged) : Flagged :=
  if inside.isEmpty then nothing else ⟨left ++ inside.text ++ right, false⟩

def instead (mark : Text) (arguments : List Flagged) : Text :=
  if arguments.all isEmpty then mark else arguments.flatMap text

end Flagged

mutual
def Element.flagged (scene : Scene) (context : Style.Context) :
    Element → Except Overflow Flagged
  | .literal text => .ok ⟨text, text.isEmpty⟩
  | .field field arguments offset =>
    match field.value scene.snapshot with
    | .error value => .error ⟨field, value, offset⟩
    | .ok none => .ok .nothing
    | .ok (some value) => do
      let marks ← arguments.flagged scene context
      return ⟨Flagged.instead field.mark marks ++ value, false⟩
  | .group kind body => do
    let inside ← body.flagged scene context .nothing
    return inside.bracket kind.left kind.right
  | .style codes body => do
    let inside ← body.flagged scene (context.apply codes) .nothing
    return inside.bracket (scene.display.escape (context.apply codes))
      (scene.display.escape context)
  | .nested sequence => sequence.flagged scene context .nothing

def Sequence.flagged (scene : Scene) (context : Style.Context) :
    Sequence → Flagged → Except Overflow Flagged
  | .done _, begun => .ok begun
  | .item separator element rest, begun => do
    let next ← element.flagged scene context
    rest.flagged scene context (begun.join separator next)

def Arguments.flagged (scene : Scene) (context : Style.Context) :
    Arguments → Except Overflow (List Flagged)
  | .nil => .ok []
  | .cons argument rest => do
    let first ← argument.flagged scene context .nothing
    let others ← rest.flagged scene context
    return first :: others
end

namespace Flagged

def joinAll (begun : Flagged) (pieces : List (Text × Text)) : Flagged :=
  pieces.foldl (fun begun piece => begun.join piece.1 ⟨piece.2, false⟩) begun

theorem joinAll_begun (text : Text) (pieces : List (Text × Text)) :
    joinAll ⟨text, false⟩ pieces =
      ⟨text ++ pieces.flatMap fun piece => piece.1 ++ piece.2, false⟩ := by
  induction pieces generalizing text with
  | nil => simp [joinAll]
  | cons piece rest ih =>
    have joined : joinAll ⟨text, false⟩ (piece :: rest) =
        joinAll ⟨text ++ piece.1 ++ piece.2, false⟩ rest := rfl
    rw [joined, ih]
    simp

theorem joinAll_nothing (pieces : List (Text × Text)) :
    joinAll nothing pieces = ofShown (joinPieces pieces) := by
  cases pieces with
  | nil => rfl
  | cons piece rest => exact joinAll_begun piece.2 rest

theorem bracket_ofShown (left right : Text) (shown : Option Text) :
    bracket left right (ofShown shown) =
      ofShown (shown.map fun text => left ++ text ++ right) := by
  cases shown <;> rfl

theorem foldr_joinArguments (shown : List (Option Text)) :
    shown.foldr joinArguments none =
      if (shown.map ofShown).all isEmpty then none
      else some ((shown.map ofShown).flatMap text) := by
  induction shown with
  | nil => rfl
  | cons first others ih =>
    rw [List.foldr_cons, ih]
    cases first with
    | none => simp [ofShown, nothing, joinArguments]
    | some text =>
      by_cases silent : (others.map ofShown).all isEmpty = true
      · have texts : (others.map ofShown).flatMap Flagged.text = [] := by
          rw [List.flatMap_eq_nil_iff]
          intro flagged member
          obtain ⟨shown, among, rfl⟩ := List.mem_map.mp member
          have empty := List.all_eq_true.mp silent _ member
          cases shown with
          | none => rfl
          | some text => cases empty
        simp [silent, texts, ofShown, joinArguments]
      · simp [silent, ofShown, joinArguments]

theorem instead_ofShown (mark : Text) (shown : List (Option Text)) :
    instead mark (shown.map ofShown) = (shown.foldr joinArguments none).getD mark := by
  rw [foldr_joinArguments, instead]
  split <;> rfl

end Flagged

theorem bind_map {ε α β γ : Type} (first : Except ε α) (view : α → β) (next : β → Except ε γ) :
    first.map view >>= next = first >>= fun a => next (view a) := by
  cases first <;> rfl

theorem map_bind {ε α β γ : Type} (first : Except ε α) (next : α → Except ε β) (view : β → γ) :
    (first >>= next).map view = first >>= fun a => (next a).map view := by
  cases first <;> rfl

mutual
theorem Element.flagged_eq (scene : Scene) (context : Style.Context) (element : Element) :
    element.flagged scene context = (element.render scene context).map Flagged.ofShown := by
  match element with
  | .literal text => cases text <;> rfl
  | .field field arguments offset =>
    rw [Element.flagged, Element.render]
    match field.value scene.snapshot with
    | .error value => rfl
    | .ok none => rfl
    | .ok (some value) =>
      obtain ⟨each, flags, joined⟩ := arguments.flagged_eq scene context
      simp only [flags, joined, bind_map, map_bind, Flagged.instead_ofShown]
      rfl
  | .group kind body =>
    rw [Element.flagged, Element.render, body.flagged_eq scene context, bind_map, map_bind]
    simp only [Flagged.joinAll_nothing, Flagged.bracket_ofShown]
    rfl
  | .style codes body =>
    rw [Element.flagged, Element.render, body.flagged_eq scene (context.apply codes), bind_map,
      map_bind]
    simp only [Flagged.joinAll_nothing, Flagged.bracket_ofShown]
    rfl
  | .nested sequence =>
    rw [Element.flagged, Element.render, sequence.flagged_eq scene context, map_bind]
    cases sequence.pieces scene context with
    | error overflow => rfl
    | ok pieces => exact congrArg Except.ok (Flagged.joinAll_nothing pieces)

theorem Sequence.flagged_eq (scene : Scene) (context : Style.Context) (sequence : Sequence)
    (begun : Flagged) :
    sequence.flagged scene context begun =
      (sequence.pieces scene context).map begun.joinAll := by
  match sequence with
  | .done trailing => rfl
  | .item separator element rest =>
    rw [Sequence.flagged, Sequence.pieces, element.flagged_eq scene context, bind_map, map_bind]
    congr 1
    funext shown
    rw [rest.flagged_eq scene context, map_bind]
    cases rest.pieces scene context with
    | error overflow => rfl
    | ok pieces => cases shown <;> rfl

theorem Arguments.flagged_eq (scene : Scene) (context : Style.Context) (arguments : Arguments) :
    ∃ each : Except Overflow (List (Option Text)),
      arguments.flagged scene context = each.map (List.map Flagged.ofShown) ∧
        arguments.render scene context = each.map (List.foldr joinArguments none) := by
  match arguments with
  | .nil => exact ⟨.ok [], rfl, rfl⟩
  | .cons argument rest =>
    obtain ⟨each, flags, joined⟩ := rest.flagged_eq scene context
    rw [Arguments.flagged, Arguments.render, argument.flagged_eq scene context, bind_map]
    refine ⟨argument.pieces scene context >>= fun pieces => each.map (joinPieces pieces :: ·),
      ?_, ?_⟩
    · rw [flags, map_bind]
      simp only [bind_map, Flagged.joinAll_nothing]
      cases each <;> rfl
    · rw [joined, map_bind]
      simp only [bind_map]
      cases each <;> rfl
end

inductive Leaf
  | literal (text : Text)
  | value (field : Field)
  deriving DecidableEq, Repr

def Leaf.Visible (snapshot : Snapshot) : Leaf → Prop
  | .literal text => text ≠ []
  | .value field => field.Present snapshot

mutual
/-- The literals and fields outside all lists of arguments. -/
def Element.leaves : Element → List Leaf
  | .literal text => [.literal text]
  | .field field _ _ => [.value field]
  | .group _ body => body.leaves
  | .style _ body => body.leaves
  | .nested sequence => sequence.leaves

def Sequence.leaves : Sequence → List Leaf
  | .done _ => []
  | .item _ element rest => element.leaves ++ rest.leaves
end

/-- Something is shown exactly when a leaf is visible, and what is shown is not the empty text. -/
def Tells (snapshot : Snapshot) (leaves : List Leaf) : Option Text → Prop
  | none => ∀ leaf ∈ leaves, ¬ leaf.Visible snapshot
  | some text => text ≠ [] ∧ ∃ leaf ∈ leaves, leaf.Visible snapshot

namespace Tells

variable {snapshot : Snapshot} {leaves more : List Leaf} {shown : Option Text}

theorem single {leaf : Leaf} {text : Text} (visible : leaf.Visible snapshot)
    (nonempty : text ≠ []) : Tells snapshot [leaf] (some text) :=
  ⟨nonempty, leaf, List.mem_singleton_self leaf, visible⟩

theorem silent {leaf : Leaf} (hidden : ¬ leaf.Visible snapshot) : Tells snapshot [leaf] none := by
  intro other member
  rw [List.mem_singleton.mp member]
  exact hidden

theorem bracketed (tells : Tells snapshot leaves shown) (left right : Text) :
    Tells snapshot leaves (shown.map fun text => left ++ text ++ right) := by
  cases shown with
  | none => exact tells
  | some text =>
    rcases tells with ⟨nonempty, visible⟩
    refine ⟨?_, visible⟩
    intro empty
    exact nonempty (List.append_eq_nil_iff.mp (List.append_eq_nil_iff.mp empty).1).2

theorem skip {later : List (Text × Text)} (tells : Tells snapshot leaves none)
    (others : Tells snapshot more (joinPieces later)) :
    Tells snapshot (leaves ++ more) (joinPieces later) := by
  cases joined : joinPieces later with
  | none =>
    rw [joined] at others
    intro leaf member
    rcases List.mem_append.mp member with early | late
    · exact tells leaf early
    · exact others leaf late
  | some text =>
    rw [joined] at others
    rcases others with ⟨nonempty, leaf, member, visible⟩
    exact ⟨nonempty, leaf, List.mem_append_right leaves member, visible⟩

theorem first {separator text : Text} {later : List (Text × Text)}
    (tells : Tells snapshot leaves (some text)) :
    Tells snapshot (leaves ++ more) (joinPieces ((separator, text) :: later)) := by
  rcases tells with ⟨nonempty, leaf, member, visible⟩
  refine ⟨?_, leaf, List.mem_append_left more member, visible⟩
  intro empty
  exact nonempty (List.append_eq_nil_iff.mp empty).1

theorem isEmpty_iff (tells : Tells snapshot leaves shown) :
    ((Flagged.ofShown shown).isEmpty = true ↔ (Flagged.ofShown shown).text = []) ∧
      ((Flagged.ofShown shown).isEmpty = true ↔ ∀ leaf ∈ leaves, ¬ leaf.Visible snapshot) := by
  cases shown with
  | none => exact ⟨⟨fun _ => rfl, fun _ => rfl⟩, fun _ => tells, fun _ => rfl⟩
  | some text =>
    rcases tells with ⟨nonempty, leaf, member, visible⟩
    refine ⟨⟨nofun, fun empty => absurd empty nonempty⟩, nofun, ?_⟩
    intro hidden
    exact absurd visible (hidden leaf member)

end Tells

mutual
theorem Element.tells {scene : Scene} {context : Style.Context} {element : Element}
    {shown : Option Text} (rendered : element.render scene context = .ok shown) :
    Tells scene.snapshot element.leaves shown := by
  match element with
  | .literal text =>
    rw [Element.render] at rendered
    cases rendered
    by_cases empty : text = []
    · have hidden : ¬ (Leaf.literal text).Visible scene.snapshot := fun visible => visible empty
      rw [if_pos empty]
      exact .silent hidden
    · have visible : (Leaf.literal text).Visible scene.snapshot := empty
      rw [if_neg empty]
      exact .single visible empty
  | .field field arguments offset =>
    rw [Element.render] at rendered
    cases value : field.value scene.snapshot with
    | error number =>
      rw [value] at rendered
      cases rendered
    | ok found =>
      rw [value] at rendered
      cases found with
      | none =>
        cases rendered
        have hidden : ¬ (Leaf.value field).Visible scene.snapshot := Field.value_eq_none.mp value
        exact .silent hidden
      | some text =>
        obtain ⟨mark, -, joined⟩ := bind_eq_ok.mp rendered
        cases joined
        have present : (Leaf.value field).Visible scene.snapshot := by
          apply Classical.byContradiction
          intro absent
          rw [Field.value_eq_none.mpr absent] at value
          cases value
        refine .single present ?_
        intro empty
        exact Field.value_ne_nil value (List.append_eq_nil_iff.mp empty).2
  | .group kind body =>
    rw [Element.render] at rendered
    obtain ⟨pieces, read, joined⟩ := bind_eq_ok.mp rendered
    cases joined
    exact (Sequence.tells read).bracketed kind.left kind.right
  | .style codes body =>
    rw [Element.render] at rendered
    obtain ⟨pieces, read, joined⟩ := bind_eq_ok.mp rendered
    cases joined
    exact (Sequence.tells read).bracketed _ _
  | .nested sequence =>
    rw [Element.render] at rendered
    obtain ⟨pieces, read, joined⟩ := bind_eq_ok.mp rendered
    cases joined
    exact Sequence.tells read

theorem Sequence.tells {scene : Scene} {context : Style.Context} {sequence : Sequence}
    {pieces : List (Text × Text)} (rendered : sequence.pieces scene context = .ok pieces) :
    Tells scene.snapshot sequence.leaves (joinPieces pieces) := by
  match sequence with
  | .done trailing =>
    cases rendered
    exact nofun
  | .item separator element rest =>
    rw [Sequence.pieces] at rendered
    obtain ⟨shown, first, later⟩ := bind_eq_ok.mp rendered
    obtain ⟨others, read, joined⟩ := bind_eq_ok.mp later
    cases joined
    have start := Element.tells first
    cases shown with
    | none => exact start.skip (Sequence.tells read)
    | some text => exact start.first
end

theorem Element.flagged_of_render {scene : Scene} {context : Style.Context} {element : Element}
    {shown : Option Text} (rendered : element.render scene context = .ok shown) :
    element.flagged scene context = .ok (.ofShown shown) := by
  rw [element.flagged_eq scene context, rendered]
  rfl

/-- The flag agrees with the text, and the leaves decide it alone: whatever the arguments, codes,
separators and brackets around the same leaves are, in whatever context and on whatever display, a
rendering that does not stop is flagged alike. -/
theorem isEmpty_iff_no_leaf_visible {scene : Scene} {context : Style.Context} {element : Element}
    {shown : Option Text} (rendered : element.render scene context = .ok shown) :
    ∃ result : Flagged, element.flagged scene context = .ok result ∧
      shown = (if result.isEmpty then none else some result.text) ∧
      (result.isEmpty = true ↔ result.text = []) ∧
      (result.isEmpty = true ↔ ∀ leaf ∈ element.leaves, ¬ leaf.Visible scene.snapshot) ∧
      ∀ (other : Element) (display : Style.Display) (outer : Style.Context) (found : Flagged),
        other.leaves = element.leaves →
        other.flagged ⟨scene.snapshot, display⟩ outer = .ok found →
        found.isEmpty = result.isEmpty := by
  obtain ⟨empty, hidden⟩ := (Element.tells rendered).isEmpty_iff
  refine ⟨.ofShown shown, Element.flagged_of_render rendered, by cases shown <;> rfl, empty, hidden,
    ?_⟩
  intro other display outer found same again
  cases outcome : other.render ⟨scene.snapshot, display⟩ outer with
  | error overflow =>
    rw [other.flagged_eq, outcome] at again
    cases again
  | ok instead =>
    rw [Element.flagged_of_render outcome] at again
    cases again
    have tells := Element.tells outcome
    rw [same] at tells
    rw [Bool.eq_iff_iff, hidden, tells.isEmpty_iff.2]

theorem isEmpty_iff_no_leaf_visible_untracked :
    let snapshot : Snapshot := { branch := ['m'], ahead := 3 }
    let ahead : Element :=
      .field (.count .ahead) (.cons (.item [] (.literal ['x']) (.done [])) .nil) 0
    let element : Element :=
      .group .square (.item [] (.style [.bold] (.item [' '] ahead (.done []))) (.done ['|']))
    element.render ⟨snapshot, {}⟩ .plain = .ok none ∧
      element.flagged ⟨snapshot, {}⟩ .plain = .ok .nothing ∧
      ∀ leaf ∈ element.leaves, ¬ leaf.Visible snapshot := by
  intro snapshot ahead element
  have rendered : element.render ⟨snapshot, {}⟩ .plain = .ok none := rfl
  obtain ⟨result, flagged, shown, empty, hidden, -⟩ := isEmpty_iff_no_leaf_visible rendered
  cases flagged
  exact ⟨rendered, rfl, hidden.mp rfl⟩

end GitPrompt.Format
