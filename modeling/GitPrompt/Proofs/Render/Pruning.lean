import GitPrompt.Proofs.Render.Emptiness

/-!
Suppression. A tree without all that shows nothing is rendered as the tree itself, and the
separators before the first items of its sequences do not matter. What a sequence shows is what its
elements show, with the run before each but the first of those that show something.
-/
namespace GitPrompt.Format

mutual
/-- The tree without the items that show nothing, the runs before them and after the last items,
and without the arguments that show nothing. -/
def Element.prune (scene : Scene) (context : Style.Context) : Element → Element
  | .literal text => .literal text
  | .field field arguments offset => .field field (arguments.prune scene context) offset
  | .group kind body => .group kind (body.prune scene context)
  | .style codes body => .style codes (body.prune scene (context.apply codes))
  | .nested sequence => .nested (sequence.prune scene context)

def Sequence.prune (scene : Scene) (context : Style.Context) : Sequence → Sequence
  | .done _ => .done []
  | .item separator element rest =>
    match element.render scene context with
    | .ok none => rest.prune scene context
    | _ => .item separator (element.prune scene context) (rest.prune scene context)

def Arguments.prune (scene : Scene) (context : Style.Context) : Arguments → Arguments
  | .nil => .nil
  | .cons argument rest =>
    match argument.render scene context with
    | .ok none => rest.prune scene context
    | _ => .cons (argument.prune scene context) (rest.prune scene context)
end

variable {scene : Scene} {context : Style.Context}

theorem Sequence.render_of_pieces {sequence : Sequence} {pieces : List (Text × Text)}
    (read : sequence.pieces scene context = .ok pieces) :
    sequence.render scene context = .ok (joinPieces pieces) := by
  rw [Sequence.render, read]
  rfl

mutual
theorem Element.render_prune {context : Style.Context} {element : Element} {shown : Option Text}
    (rendered : element.render scene context = .ok shown) :
    (element.prune scene context).render scene context = .ok shown := by
  match element with
  | .literal text => exact rendered
  | .field field arguments offset =>
    rw [Element.render] at rendered
    rw [Element.prune, Element.render]
    cases value : field.value scene.snapshot with
    | error number =>
      rw [value] at rendered
      cases rendered
    | ok found =>
      rw [value] at rendered
      cases found with
      | none => exact rendered
      | some text =>
        obtain ⟨mark, marked, joined⟩ := bind_eq_ok.mp rendered
        exact bind_eq_ok.mpr ⟨mark, Arguments.render_prune marked, joined⟩
  | .group kind body =>
    rw [Element.render] at rendered
    obtain ⟨pieces, read, joined⟩ := bind_eq_ok.mp rendered
    rw [Element.prune, Element.render]
    exact bind_eq_ok.mpr ⟨pieces, Sequence.pieces_prune read, joined⟩
  | .style codes body =>
    rw [Element.render] at rendered
    obtain ⟨pieces, read, joined⟩ := bind_eq_ok.mp rendered
    rw [Element.prune, Element.render]
    exact bind_eq_ok.mpr ⟨pieces, Sequence.pieces_prune read, joined⟩
  | .nested sequence =>
    rw [Element.render] at rendered
    obtain ⟨pieces, read, joined⟩ := bind_eq_ok.mp rendered
    rw [Element.prune, Element.render]
    exact bind_eq_ok.mpr ⟨pieces, Sequence.pieces_prune read, joined⟩

theorem Sequence.pieces_prune {context : Style.Context} {sequence : Sequence}
    {pieces : List (Text × Text)} (rendered : sequence.pieces scene context = .ok pieces) :
    (sequence.prune scene context).pieces scene context = .ok pieces := by
  match sequence with
  | .done trailing => exact rendered
  | .item separator element rest =>
    rw [Sequence.pieces] at rendered
    obtain ⟨shown, first, later⟩ := bind_eq_ok.mp rendered
    obtain ⟨others, read, joined⟩ := bind_eq_ok.mp later
    have kept := Sequence.pieces_prune read
    rw [Sequence.prune, first]
    cases shown with
    | none =>
      cases joined
      exact kept
    | some text =>
      rw [Sequence.pieces]
      exact bind_eq_ok.mpr ⟨some text, Element.render_prune first,
        bind_eq_ok.mpr ⟨others, kept, joined⟩⟩

theorem Arguments.render_prune {context : Style.Context} {arguments : Arguments}
    {shown : Option Text} (rendered : arguments.render scene context = .ok shown) :
    (arguments.prune scene context).render scene context = .ok shown := by
  match arguments with
  | .nil => exact rendered
  | .cons argument rest =>
    rw [Arguments.render] at rendered
    obtain ⟨pieces, first, later⟩ := bind_eq_ok.mp rendered
    obtain ⟨others, read, joined⟩ := bind_eq_ok.mp later
    have kept := Arguments.render_prune read
    rw [Arguments.prune, Sequence.render_of_pieces first]
    cases start : joinPieces pieces with
    | none =>
      rw [start] at joined
      cases joined
      exact kept
    | some text =>
      rw [Arguments.render]
      exact bind_eq_ok.mpr ⟨pieces, Sequence.pieces_prune first,
        bind_eq_ok.mpr ⟨others, kept, joined⟩⟩
end

mutual
/-- Two trees that differ in the separators before the first items of their sequences alone. -/
inductive Element.Releads : Element → Element → Prop
  | literal (text : Text) : Element.Releads (.literal text) (.literal text)
  | field (field : Field) {arguments others : Arguments} (offset : Int)
      (inner : Arguments.Releads arguments others) :
      Element.Releads (.field field arguments offset) (.field field others offset)
  | group (kind : GroupKind) {body other : Sequence} (inner : Sequence.Releads body other) :
      Element.Releads (.group kind body) (.group kind other)
  | style (codes : List Style.Code) {body other : Sequence}
      (inner : Sequence.Releads body other) :
      Element.Releads (.style codes body) (.style codes other)
  | nested {body other : Sequence} (inner : Sequence.Releads body other) :
      Element.Releads (.nested body) (.nested other)

inductive Sequence.Releads : Sequence → Sequence → Prop
  | done (trailing : Text) : Sequence.Releads (.done trailing) (.done trailing)
  | item (separator instead : Text) {element other : Element} {rest more : Sequence}
      (first : Element.Releads element other) (later : Sequence.Continues rest more) :
      Sequence.Releads (.item separator element rest) (.item instead other more)

inductive Sequence.Continues : Sequence → Sequence → Prop
  | done (trailing : Text) : Sequence.Continues (.done trailing) (.done trailing)
  | item (separator : Text) {element other : Element} {rest more : Sequence}
      (first : Element.Releads element other) (later : Sequence.Continues rest more) :
      Sequence.Continues (.item separator element rest) (.item separator other more)

inductive Arguments.Releads : Arguments → Arguments → Prop
  | nil : Arguments.Releads .nil .nil
  | cons {argument other : Sequence} {rest more : Arguments}
      (first : Sequence.Releads argument other) (later : Arguments.Releads rest more) :
      Arguments.Releads (.cons argument rest) (.cons other more)
end

theorem bind_joined_congr {α : Type} {read other : Except Overflow (List (Text × Text))}
    (same : read.map joinPieces = other.map joinPieces)
    (next : Option Text → Except Overflow α) :
    (read >>= fun pieces => next (joinPieces pieces)) =
      other >>= fun pieces => next (joinPieces pieces) := by
  rw [← bind_map read joinPieces next, ← bind_map other joinPieces next, same]

mutual
theorem Element.Releads.render_eq {element other : Element} (releads : element.Releads other)
    (context : Style.Context) : element.render scene context = other.render scene context := by
  match releads with
  | .literal text => rfl
  | .field field offset inner =>
    rw [Element.render, Element.render, inner.render_eq context]
  | .group kind inner =>
    rw [Element.render, Element.render]
    exact bind_joined_congr (inner.render_eq context) fun shown =>
      .ok (shown.map fun text => kind.left ++ text ++ kind.right)
  | .style codes inner =>
    rw [Element.render, Element.render]
    exact bind_joined_congr (inner.render_eq (context.apply codes)) fun shown =>
      .ok (shown.map (scene.display.enclose (context.apply codes) context))
  | .nested inner =>
    rw [Element.render_nested, Element.render_nested]
    exact inner.render_eq context

theorem Sequence.Releads.render_eq {sequence other : Sequence} (releads : sequence.Releads other)
    (context : Style.Context) : sequence.render scene context = other.render scene context := by
  match releads with
  | .done trailing => rfl
  | .item separator instead first later =>
    rw [Sequence.render, Sequence.render, Sequence.pieces, Sequence.pieces,
      first.render_eq context, later.pieces_eq context, map_bind, map_bind]
    congr 1
    funext shown
    rw [map_bind, map_bind]
    congr 1
    funext others
    cases shown <;> rfl

theorem Sequence.Continues.pieces_eq {sequence other : Sequence}
    (continues : sequence.Continues other) (context : Style.Context) :
    sequence.pieces scene context = other.pieces scene context := by
  match continues with
  | .done trailing => rfl
  | .item separator first later =>
    rw [Sequence.pieces, Sequence.pieces, first.render_eq context, later.pieces_eq context]

theorem Arguments.Releads.render_eq {arguments other : Arguments}
    (releads : arguments.Releads other) (context : Style.Context) :
    arguments.render scene context = other.render scene context := by
  match releads with
  | .nil => rfl
  | @Arguments.Releads.cons _ _ _ more first later =>
    rw [Arguments.render, Arguments.render, later.render_eq context]
    exact bind_joined_congr (first.render_eq context) fun shown =>
      more.render scene context >>= fun others => .ok (joinArguments shown others)
end

/-- The elements of a sequence that show something: the run before each of them, and its text. -/
def Sequence.shown (scene : Scene) (context : Style.Context) (sequence : Sequence) :
    List (Text × Text) :=
  sequence.items.filterMap fun item =>
    match item.2.render scene context with
    | .ok (some text) => some (item.1, text)
    | _ => none

theorem Sequence.shown_of_pieces {sequence : Sequence} {pieces : List (Text × Text)}
    (rendered : sequence.pieces scene context = .ok pieces) :
    sequence.shown scene context = pieces := by
  match sequence with
  | .done trailing =>
    cases rendered
    rfl
  | .item separator element rest =>
    rw [Sequence.pieces] at rendered
    obtain ⟨shown, first, later⟩ := bind_eq_ok.mp rendered
    obtain ⟨others, read, joined⟩ := bind_eq_ok.mp later
    have same := Sequence.shown_of_pieces read
    unfold Sequence.shown at same
    cases joined
    cases shown with
    | none => simp [Sequence.shown, Sequence.items, first, same]
    | some text => simp [Sequence.shown, Sequence.items, first, same]

theorem Sequence.renders_of_pieces {sequence : Sequence} {pieces : List (Text × Text)}
    (rendered : sequence.pieces scene context = .ok pieces) :
    ∀ item ∈ sequence.items, ∃ shown, item.2.render scene context = .ok shown := by
  match sequence with
  | .done trailing => exact nofun
  | .item separator element rest =>
    rw [Sequence.pieces] at rendered
    obtain ⟨shown, first, later⟩ := bind_eq_ok.mp rendered
    obtain ⟨others, read, -⟩ := bind_eq_ok.mp later
    intro item member
    rcases List.mem_cons.mp member with rfl | among
    · exact ⟨shown, first⟩
    · exact Sequence.renders_of_pieces read item among

/-- What shows nothing leaves no trace: without it the tree is rendered alike, whatever then stands
before the first items of its sequences. The texts of the elements that show something follow each
other, and between two neighbours stands the run that is written before the later one. -/
theorem render_eq_of_pruned {tree : Sequence} {shown : Option Text}
    (rendered : tree.render scene context = .ok shown) :
    (tree.prune scene context).render scene context = .ok shown ∧
      (∀ other, (tree.prune scene context).Releads other →
        other.render scene context = .ok shown) ∧
      (∀ item ∈ tree.items, ∃ found, item.2.render scene context = .ok found) ∧
      (tree.shown scene context = [] ∧ shown = none ∨
        ∃ first rest, tree.shown scene context = first :: rest ∧
          shown = some (first.2 ++ rest.flatMap fun piece => piece.1 ++ piece.2)) := by
  rw [Sequence.render] at rendered
  cases read : tree.pieces scene context with
  | error overflow =>
    rw [read] at rendered
    cases rendered
  | ok pieces =>
    rw [read] at rendered
    cases rendered
    have pruned := Sequence.render_of_pieces (Sequence.pieces_prune read)
    refine ⟨pruned, ?_, Sequence.renders_of_pieces read, ?_⟩
    · intro other releads
      rw [← releads.render_eq context]
      exact pruned
    · rw [Sequence.shown_of_pieces read]
      cases pieces with
      | nil => exact .inl ⟨rfl, rfl⟩
      | cons first rest => exact .inr ⟨first, rest, rfl, rfl⟩

theorem render_eq_of_pruned_added :
    let scene : Scene := { snapshot := { branch := ['m'], ahead := 2, stagedAdded := 1 } }
    let added : Element := .field (.count .stagedAdded) .nil 3
    ∃ tree, parse "\\h|\\A(\\h) \\(\\+:'x') #r(\\h);".toList = .ok tree ∧
      tree.render scene .plain = .ok (some "A1 (x)".toList) ∧
      tree.prune scene .plain = .item ['|'] added (.item [' ']
        (.group .paren (.item [':'] (.literal ['x']) (.done []))) (.done [])) ∧
      ∀ before inside : Text,
        (Sequence.item before added (.item [' ']
          (.group .paren (.item inside (.literal ['x']) (.done []))) (.done []))).render
            scene .plain = .ok (some "A1 (x)".toList) := by
  intro scene added
  let hidden (offset : Int) : Element := .field (.count .stashed) .nil offset
  let alone (offset : Int) : Sequence := .item [] (hidden offset) (.done [])
  let tree : Sequence :=
    .item [] (hidden 0)
      (.item ['|'] (.field (.count .stagedAdded) (.cons (alone 6) .nil) 3)
        (.item [' '] (.group .paren (.item [] (.field (.count .ahead) .nil 12)
            (.item [':'] (.literal ['x']) (.done []))))
          (.item [' '] (.style [.named .fore .red] (alone 23)) (.done [';']))))
  have parsed : parse "\\h|\\A(\\h) \\(\\+:'x') #r(\\h);".toList = .ok tree := rfl
  have rendered : tree.render scene .plain = .ok (some "A1 (x)".toList) := rfl
  obtain ⟨-, replaced, -, -⟩ := render_eq_of_pruned rendered
  refine ⟨tree, parsed, rendered, rfl, ?_⟩
  intro before inside
  apply replaced
  exact .item ['|'] before (.field _ 3 .nil) (.item [' ']
    (.group .paren (.item [':'] inside (.literal ['x']) (.done []))) (.done []))

end GitPrompt.Format
