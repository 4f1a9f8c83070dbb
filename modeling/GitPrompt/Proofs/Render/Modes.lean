import GitPrompt.Prompt
import GitPrompt.Proofs.Render.Contents
import GitPrompt.Proofs.Style.Modes

/-!
Colour and the marks of a bash prompt change how a prompt is sent, never what it shows: the
runs for all displays stop at the same error or show the same text.
-/
namespace GitPrompt.Format

open Style (Context Display)
open Style.Display (Marked Versions controls withoutEscapes withoutMarks)

/-- Three runs that stop at the same error or have related results. -/
inductive Agree {ε α : Type} (Related : α → α → α → Prop) :
    Except ε α → Except ε α → Except ε α → Prop
  | ok {a b c : α} (related : Related a b c) : Agree Related (.ok a) (.ok b) (.ok c)
  | error (error : ε) : Agree Related (.error error) (.error error) (.error error)

theorem Agree.bind {ε α β : Type} {Related : α → α → α → Prop} {Later : β → β → β → Prop}
    {first second third : Except ε α} {next after last : α → Except ε β}
    (agree : Agree Related first second third)
    (later : ∀ a b c, Related a b c → Agree Later (next a) (after b) (last c)) :
    Agree Later (first >>= next) (second >>= after) (third >>= last) := by
  cases agree with
  | ok related => exact later _ _ _ related
  | error error => exact .error error

theorem Agree.of_error {ε α : Type} {Related : α → α → α → Prop} {first third : Except ε α}
    {error : ε} (agree : Agree Related first (.error error) third) :
    first = .error error ∧ third = .error error := by
  cases agree with
  | error error => exact ⟨rfl, rfl⟩

theorem Agree.of_ok {ε α : Type} {Related : α → α → α → Prop} {first third : Except ε α} {b : α}
    (agree : Agree Related first (.ok b) third) :
    ∃ a c, first = .ok a ∧ third = .ok c ∧ Related a b c := by
  cases agree with
  | ok related => exact ⟨_, _, rfl, rfl, related⟩

inductive ShownAlike : Option Text → Option Text → Option Text → Prop
  | nothing : ShownAlike none none none
  | text {bare coloured marked : Text} (nonempty : bare ≠ [])
      (versions : Versions bare coloured marked) :
      ShownAlike (some bare) (some coloured) (some marked)

inductive PiecesAlike : List (Text × Text) → List (Text × Text) → List (Text × Text) → Prop
  | nothing : PiecesAlike [] [] []
  | piece {separator bare coloured marked : Text} {plain styled wrapped : List (Text × Text)}
      (between : ∀ c ∈ controls, c ∉ separator) (nonempty : bare ≠ [])
      (versions : Versions bare coloured marked) (rest : PiecesAlike plain styled wrapped) :
      PiecesAlike ((separator, bare) :: plain) ((separator, coloured) :: styled)
        ((separator, marked) :: wrapped)

section
variable {plain styled wrapped : List (Text × Text)}

theorem PiecesAlike.versions (alike : PiecesAlike plain styled wrapped) :
    Versions (plain.flatMap fun piece => piece.1 ++ piece.2)
      (styled.flatMap fun piece => piece.1 ++ piece.2)
      (wrapped.flatMap fun piece => piece.1 ++ piece.2) := by
  induction alike with
  | nothing => exact .nothing
  | piece between nonempty versions rest ih =>
    exact ((Versions.plain between).append versions).append ih

theorem PiecesAlike.joined (alike : PiecesAlike plain styled wrapped) :
    ShownAlike (joinPieces plain) (joinPieces styled) (joinPieces wrapped) := by
  cases alike with
  | nothing => exact .nothing
  | piece between nonempty versions rest =>
    refine .text ?_ (versions.append rest.versions)
    intro empty
    exact nonempty (List.append_eq_nil_iff.mp empty).1

end

section
variable {bare coloured marked : Option Text}

theorem ShownAlike.joined {plain styled wrapped : Option Text}
    (alike : ShownAlike bare coloured marked) (later : ShownAlike plain styled wrapped) :
    ShownAlike (joinArguments bare plain) (joinArguments coloured styled)
      (joinArguments marked wrapped) := by
  cases alike with
  | nothing => exact later
  | text nonempty versions =>
    cases later with
    | nothing => exact .text nonempty versions
    | text another more =>
      refine .text ?_ (versions.append more)
      intro empty
      exact nonempty (List.append_eq_nil_iff.mp empty).1

theorem ShownAlike.valued {mark value : Text} (instead : ShownAlike bare coloured marked)
    (usual : ∀ c ∈ controls, c ∉ mark) (visible : ∀ c ∈ controls, c ∉ value)
    (nonempty : value ≠ []) :
    ShownAlike (some (bare.getD mark ++ value)) (some (coloured.getD mark ++ value))
      (some (marked.getD mark ++ value)) := by
  have last : Versions value value value := .plain visible
  cases instead with
  | nothing =>
    refine .text ?_ ((Versions.plain usual).append last)
    intro empty
    exact nonempty (List.append_eq_nil_iff.mp empty).2
  | text another versions =>
    refine .text ?_ (versions.append last)
    intro empty
    exact nonempty (List.append_eq_nil_iff.mp empty).2

theorem ShownAlike.bracketed {left right : Text} (inside : ShownAlike bare coloured marked)
    (before : ∀ c ∈ controls, c ∉ left) (after : ∀ c ∈ controls, c ∉ right) :
    ShownAlike (bare.map fun text => left ++ text ++ right)
      (coloured.map fun text => left ++ text ++ right)
      (marked.map fun text => left ++ text ++ right) := by
  cases inside with
  | nothing => exact .nothing
  | text nonempty versions =>
    refine .text ?_ (((Versions.plain before).append versions).append (.plain after))
    intro empty
    exact nonempty (List.append_eq_nil_iff.mp (List.append_eq_nil_iff.mp empty).1).2

theorem ShownAlike.enclosed (inside : ShownAlike bare coloured marked) (bash : Bool)
    (inner outer : Context) :
    ShownAlike (bare.map (Display.enclose ⟨false, bash⟩ inner outer))
      (coloured.map (Display.enclose ⟨true, false⟩ inner outer))
      (marked.map (Display.enclose ⟨true, true⟩ inner outer)) := by
  cases inside with
  | nothing => exact .nothing
  | text nonempty versions =>
    refine .text ?_ (versions.enclose bash inner outer)
    rw [Display.enclose_colourless]
    exact nonempty

end

mutual
theorem Element.render_alike {snapshot : Snapshot} (named : ∀ c ∈ controls, snapshot.Excludes c)
    {element : Element} (clear : ∀ c ∈ controls, element.Excludes c) (bash : Bool)
    (context : Context) :
    Agree ShownAlike (element.render ⟨snapshot, ⟨false, bash⟩⟩ context)
      (element.render ⟨snapshot, ⟨true, false⟩⟩ context)
      (element.render ⟨snapshot, ⟨true, true⟩⟩ context) := by
  match element with
  | .literal text =>
    simp only [Element.render]
    by_cases empty : text = []
    · rw [if_pos empty]
      exact .ok .nothing
    · rw [if_neg empty]
      have visible : ∀ c ∈ controls, c ∉ text :=
        fun c control => (clear c control).1 text List.mem_cons_self
      exact .ok (.text empty (.plain visible))
  | .field field arguments offset =>
    simp only [Element.render]
    cases value : field.value snapshot with
    | error number => exact .error _
    | ok found =>
      cases found with
      | none => exact .ok .nothing
      | some text =>
        apply Agree.bind (Arguments.render_alike named clear bash context)
        intro plain styled wrapped instead
        have usual : ∀ c ∈ controls, c ∉ field.mark :=
          fun c control => Field.not_mem_mark control field
        have visible : ∀ c ∈ controls, c ∉ text :=
          fun c control => Field.not_mem_value (named c control) control value
        exact .ok (instead.valued usual visible (Field.value_ne_nil value))
  | .group kind body =>
    simp only [Element.render]
    apply Agree.bind (Sequence.pieces_alike named clear bash context)
    intro plain styled wrapped alike
    have before : ∀ c ∈ controls, c ∉ kind.left :=
      fun c control => (kind.not_mem_brackets control).1
    have after : ∀ c ∈ controls, c ∉ kind.right :=
      fun c control => (kind.not_mem_brackets control).2
    exact .ok (alike.joined.bracketed before after)
  | .style codes body =>
    simp only [Element.render]
    apply Agree.bind (Sequence.pieces_alike named clear bash (context.apply codes))
    intro plain styled wrapped alike
    exact .ok (alike.joined.enclosed bash (context.apply codes) context)
  | .nested sequence =>
    simp only [Element.render]
    apply Agree.bind (Sequence.pieces_alike named clear bash context)
    intro plain styled wrapped alike
    exact .ok alike.joined

theorem Sequence.pieces_alike {snapshot : Snapshot} (named : ∀ c ∈ controls, snapshot.Excludes c)
    {sequence : Sequence} (clear : ∀ c ∈ controls, sequence.Excludes c) (bash : Bool)
    (context : Context) :
    Agree PiecesAlike (sequence.pieces ⟨snapshot, ⟨false, bash⟩⟩ context)
      (sequence.pieces ⟨snapshot, ⟨true, false⟩⟩ context)
      (sequence.pieces ⟨snapshot, ⟨true, true⟩⟩ context) := by
  match sequence with
  | .done trailing => exact .ok .nothing
  | .item separator element rest =>
    have between : ∀ c ∈ controls, c ∉ separator :=
      fun c control => (clear c control).of_item.1
    have clearFirst : ∀ c ∈ controls, element.Excludes c :=
      fun c control => (clear c control).of_item.2.1
    have clearRest : ∀ c ∈ controls, rest.Excludes c :=
      fun c control => (clear c control).of_item.2.2
    simp only [Sequence.pieces]
    apply Agree.bind (Element.render_alike named clearFirst bash context)
    intro bare coloured marked first
    apply Agree.bind (Sequence.pieces_alike named clearRest bash context)
    intro plain styled wrapped others
    cases first with
    | nothing => exact .ok others
    | text nonempty versions => exact .ok (.piece between nonempty versions others)

theorem Arguments.render_alike {snapshot : Snapshot}
    (named : ∀ c ∈ controls, snapshot.Excludes c) {arguments : Arguments}
    (clear : ∀ c ∈ controls, arguments.Excludes c) (bash : Bool) (context : Context) :
    Agree ShownAlike (arguments.render ⟨snapshot, ⟨false, bash⟩⟩ context)
      (arguments.render ⟨snapshot, ⟨true, false⟩⟩ context)
      (arguments.render ⟨snapshot, ⟨true, true⟩⟩ context) := by
  match arguments with
  | .nil => exact .ok .nothing
  | .cons argument rest =>
    have clearFirst : ∀ c ∈ controls, argument.Excludes c :=
      fun c control => (clear c control).of_cons.1
    have clearRest : ∀ c ∈ controls, rest.Excludes c :=
      fun c control => (clear c control).of_cons.2
    simp only [Arguments.render]
    apply Agree.bind (Sequence.pieces_alike named clearFirst bash context)
    intro plain styled wrapped first
    apply Agree.bind (Arguments.render_alike named clearRest bash context)
    intro bare coloured marked others
    exact .ok (first.joined.joined others)
end

/-- A whole prompt on the three kinds of displays: where nothing is shown nothing is sent. -/
structure PromptAlike (bare coloured marked : Text) : Prop where
  versions : Versions bare coloured marked
  silent : bare = [] → coloured = [] ∧ marked = []

theorem ShownAlike.framed {bare coloured marked : Option Text}
    (alike : ShownAlike bare coloured marked) (bash : Bool) :
    PromptAlike (Prompt.framed ⟨false, bash⟩ bare) (Prompt.framed ⟨true, false⟩ coloured)
      (Prompt.framed ⟨true, true⟩ marked) := by
  cases alike with
  | nothing => exact ⟨.nothing, fun _ => ⟨rfl, rfl⟩⟩
  | @text bare coloured marked nonempty versions =>
    refine ⟨versions.enclose bash .plain .plain, ?_⟩
    intro empty
    have shown : Prompt.framed ⟨false, bash⟩ (some bare) = bare :=
      Display.enclose_colourless bash .plain .plain bare
    rw [shown] at empty
    exact absurd empty nonempty

theorem Agree.showTree {snapshot : Snapshot} {tree : Sequence} {bash : Bool}
    (alike : Agree PiecesAlike (tree.pieces ⟨snapshot, ⟨false, bash⟩⟩ .plain)
      (tree.pieces ⟨snapshot, ⟨true, false⟩⟩ .plain)
      (tree.pieces ⟨snapshot, ⟨true, true⟩⟩ .plain)) :
    Agree PromptAlike (Prompt.showTree ⟨snapshot, ⟨false, bash⟩⟩ tree)
      (Prompt.showTree ⟨snapshot, ⟨true, false⟩⟩ tree)
      (Prompt.showTree ⟨snapshot, ⟨true, true⟩⟩ tree) := by
  simp only [Prompt.showTree, Sequence.render]
  generalize tree.pieces ⟨snapshot, ⟨false, bash⟩⟩ .plain = bare at alike
  generalize tree.pieces ⟨snapshot, ⟨true, false⟩⟩ .plain = coloured at alike
  generalize tree.pieces ⟨snapshot, ⟨true, true⟩⟩ .plain = marked at alike
  cases alike with
  | ok related => exact .ok (related.joined.framed bash)
  | error overflow => exact .error (Prompt.PromptError.overflow overflow)

theorem prompt_alike {snapshot : Snapshot} {format : Text}
    (clear : ∀ c ∈ controls, c ∉ format ∧ snapshot.Excludes c) (bash : Bool) :
    Agree PromptAlike (Prompt.render ⟨snapshot, ⟨false, bash⟩⟩ format)
      (Prompt.render ⟨snapshot, ⟨true, false⟩⟩ format)
      (Prompt.render ⟨snapshot, ⟨true, true⟩⟩ format) := by
  simp only [Prompt.render]
  cases parsed : parse format with
  | error error => exact .error (Prompt.PromptError.format error)
  | ok tree =>
    have derived := parse_eq_ok_iff.mp parsed
    have excluded : ∀ c ∈ controls, tree.Excludes c := by
      intro c control
      apply Sequence.excludes_of_parse parsed control
      intro text among member
      exact (clear c control).1 (derived.literals text among member)
    have named : ∀ c ∈ controls, snapshot.Excludes c := fun c control => (clear c control).2
    exact Agree.showTree (Sequence.pieces_alike named excluded bash .plain)

theorem PromptAlike.nil_iff {bare coloured marked : Text}
    (alike : PromptAlike bare coloured marked) :
    (bare = [] ↔ coloured = []) ∧ (bare = [] ↔ marked = []) := by
  have deleted := alike.versions.withoutEscapes_eq
  have unmarked := alike.versions.withoutMarks_eq
  constructor
  · constructor
    · intro empty
      exact (alike.silent empty).1
    · intro empty
      rw [← deleted, empty]
      rfl
  · constructor
    · intro empty
      exact (alike.silent empty).2
    · intro empty
      rw [← deleted, ← unmarked, empty]
      rfl

/-- The runs for all displays stop at one error, or what they show is the same text. -/
theorem render_modes (snapshot : Snapshot) (format : Text)
    (clear : ∀ c ∈ controls, c ∉ format ∧ snapshot.Excludes c) :
    (∃ error, ∀ display, Prompt.render ⟨snapshot, display⟩ format = .error error) ∨
      ∃ bare coloured marked,
        (∀ bash, Prompt.render ⟨snapshot, ⟨false, bash⟩⟩ format = .ok bare) ∧
        Prompt.render ⟨snapshot, ⟨true, false⟩⟩ format = .ok coloured ∧
        Prompt.render ⟨snapshot, ⟨true, true⟩⟩ format = .ok marked ∧
        withoutEscapes false coloured = bare ∧ withoutMarks marked = coloured ∧
        Marked marked ∧ (∀ c ∈ bare, c ∉ controls) ∧
        (bare = [] ↔ coloured = []) ∧ (bare = [] ↔ marked = []) := by
  have agree := prompt_alike clear
  cases sent : Prompt.render ⟨snapshot, ⟨true, false⟩⟩ format with
  | error error =>
    rw [sent] at agree
    refine .inl ⟨error, ?_⟩
    intro display
    rcases display with ⟨colour, bash⟩
    cases colour with
    | false => exact (agree bash).of_error.1
    | true =>
      cases bash with
      | false => exact sent
      | true => exact (agree false).of_error.2
  | ok coloured =>
    rw [sent] at agree
    rcases (agree false).of_ok with ⟨bare, marked, shown, wrapped, alike⟩
    refine .inr ⟨bare, coloured, marked, ?_, rfl, wrapped, alike.versions.withoutEscapes_eq,
      alike.versions.withoutMarks_eq, alike.versions.isMarked, alike.versions.visible,
      alike.nil_iff⟩
    intro bash
    -- Both runs without colour show what is left of the coloured one.
    rcases (agree bash).of_ok with ⟨other, _, same, _, again⟩
    have equal : other = bare :=
      again.versions.withoutEscapes_eq.symm.trans alike.versions.withoutEscapes_eq
    rw [same, equal]

theorem render_modes_branch :
    let snapshot : Snapshot := { branch := ['x'] }
    let red : Text := [Display.escapeStart, '[', '0', ';', '3', '1', 'm']
    let plain : Text := [Display.escapeStart, '[', '0', 'm']
    Prompt.render ⟨snapshot, ⟨true, false⟩⟩ "#r(\\b)".toList =
        .ok (plain ++ red ++ 'x' :: plain ++ plain) ∧
      ∃ bare marked, (∀ bash, Prompt.render ⟨snapshot, ⟨false, bash⟩⟩ "#r(\\b)".toList = .ok bare) ∧
        Prompt.render ⟨snapshot, ⟨true, true⟩⟩ "#r(\\b)".toList = .ok marked ∧
        withoutEscapes false (plain ++ red ++ 'x' :: plain ++ plain) = bare ∧
        withoutMarks marked = plain ++ red ++ 'x' :: plain ++ plain ∧ Marked marked := by
  intro snapshot red plain
  have clear : ∀ c ∈ controls, c ∉ "#r(\\b)".toList ∧ snapshot.Excludes c := by
    simp [controls, Display.escapeStart, Display.hiddenStart, Display.hiddenEnd, snapshot,
      Snapshot.Excludes]
  have sent : Prompt.render ⟨snapshot, ⟨true, false⟩⟩ "#r(\\b)".toList =
      .ok (plain ++ red ++ 'x' :: plain ++ plain) := rfl
  rcases render_modes snapshot "#r(\\b)".toList clear with ⟨error, stopped⟩ | found
  · have failed := stopped ⟨true, false⟩
    rw [sent] at failed
    cases failed
  · rcases found with ⟨bare, coloured, marked, quiet, loud, wrapped, deleted, unmarked, held, -⟩
    rw [sent] at loud
    cases loud
    exact ⟨sent, bare, marked, quiet, wrapped, deleted, unmarked, held⟩

end GitPrompt.Format
