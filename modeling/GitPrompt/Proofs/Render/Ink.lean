import GitPrompt.Prompt
import GitPrompt.Proofs.Render.Contents
import GitPrompt.Proofs.Style.Terminal

/-!
The characters that a rendering shows, each under the styles that enclose what shows it, and
the terminal that shows them so.
-/
namespace GitPrompt.Format

open Style (Context Cell Display Paints Terminal parameters)

/-- A character and the lists of codes of the styles around it, the outermost first. -/
structure Ink where
  char : Char
  styles : List (List Style.Code)
  deriving DecidableEq, Repr

def inked (styles : List (List Style.Code)) (text : Text) : List Ink := text.map (⟨·, styles⟩)

mutual
def Element.ink (snapshot : Snapshot) (styles : List (List Style.Code)) : Element → List Ink
  | .literal text => inked styles text
  | .field field arguments _ =>
    match field.value snapshot with
    | .ok (some value) =>
      let mark := arguments.ink snapshot styles
      (if mark = [] then inked styles field.mark else mark) ++ inked styles value
    | _ => []
  | .group kind body =>
    let inside := body.ink snapshot styles false
    if inside = [] then [] else inked styles kind.left ++ inside ++ inked styles kind.right
  | .style codes body => body.ink snapshot (styles ++ [codes]) false
  | .nested sequence => sequence.ink snapshot styles false

/-- A separator is shown between two elements that show something: the sequence has begun
once one of them did. -/
def Sequence.ink (snapshot : Snapshot) (styles : List (List Style.Code)) :
    Sequence → Bool → List Ink
  | .done _, _ => []
  | .item separator element rest, begun =>
    let shown := element.ink snapshot styles
    if shown = [] then rest.ink snapshot styles begun
    else (if begun then inked styles separator else []) ++ shown ++ rest.ink snapshot styles true

def Arguments.ink (snapshot : Snapshot) (styles : List (List Style.Code)) : Arguments → List Ink
  | .nil => []
  | .cons argument rest =>
    argument.ink snapshot styles false ++ rest.ink snapshot styles
end

def within (context : Context) (styles : List (List Style.Code)) : Context :=
  styles.foldl Context.apply context

theorem within_concat (context : Context) (styles : List (List Style.Code))
    (codes : List Style.Code) :
    within context (styles ++ [codes]) = (within context styles).apply codes := by
  simp [within]

def Ink.cell (context : Context) (ink : Ink) : Cell :=
  ⟨ink.char, parameters (within context ink.styles).numbers⟩

/-- What is shown, if anything is, puts the ink on the terminal. -/
def Shows (context : Context) (styles : List (List Style.Code)) (ink : List Ink) :
    Option Text → Prop
  | none => ink = []
  | some text => ink ≠ [] ∧ Paints (within context styles) text (ink.map (Ink.cell context))

variable {context : Context} {styles : List (List Style.Code)}

theorem inked_ne_nil {text : Text} (nonempty : text ≠ []) : inked styles text ≠ [] := by
  intro empty
  exact nonempty (List.map_eq_nil_iff.mp empty)

theorem paints_inked {text : Text} (visible : Display.escapeStart ∉ text) :
    Paints (within context styles) text ((inked styles text).map (Ink.cell context)) := by
  have painted : Paints (within context styles) text
      (text.map (⟨·, parameters (within context styles).numbers⟩)) := .plain visible
  have cells : (inked styles text).map (Ink.cell context) =
      text.map (⟨·, parameters (within context styles).numbers⟩) := by
    rw [inked, List.map_map]
    rfl
  rw [cells]
  exact painted

theorem paints_append {first second : Text} {ink more : List Ink}
    (painted : Paints (within context styles) first (ink.map (Ink.cell context)))
    (later : Paints (within context styles) second (more.map (Ink.cell context))) :
    Paints (within context styles) (first ++ second) ((ink ++ more).map (Ink.cell context)) := by
  rw [List.map_append]
  exact painted.append later

theorem Shows.joined {ink more : List Ink} {first second : Option Text}
    (shown : Shows context styles ink first) (later : Shows context styles more second) :
    Shows context styles (ink ++ more) (joinArguments first second) := by
  cases first with
  | none =>
    have nothing : ink = [] := shown
    rw [nothing, List.nil_append]
    exact later
  | some text =>
    rcases shown with ⟨nonempty, painted⟩
    cases second with
    | none =>
      have nothing : more = [] := later
      rw [nothing, List.append_nil]
      exact ⟨nonempty, painted⟩
    | some next =>
      refine ⟨?_, paints_append painted later.2⟩
      intro empty
      exact nonempty (List.append_eq_nil_iff.mp empty).1

theorem Shows.valued {ink : List Ink} {shown : Option Text} {mark value : Text}
    (instead : Shows context styles ink shown) (marked : Display.escapeStart ∉ mark)
    (visible : Display.escapeStart ∉ value) (nonempty : value ≠ []) :
    Shows context styles ((if ink = [] then inked styles mark else ink) ++ inked styles value)
      (some (shown.getD mark ++ value)) := by
  have last : Paints (within context styles) value
      ((inked styles value).map (Ink.cell context)) := paints_inked visible
  have something : inked styles value ≠ [] := inked_ne_nil nonempty
  cases shown with
  | none =>
    have nothing : ink = [] := instead
    rw [if_pos nothing]
    refine ⟨?_, paints_append (paints_inked marked) last⟩
    intro empty
    exact something (List.append_eq_nil_iff.mp empty).2
  | some text =>
    rw [if_neg instead.1]
    refine ⟨?_, paints_append instead.2 last⟩
    intro empty
    exact something (List.append_eq_nil_iff.mp empty).2

theorem Shows.bracketed {ink : List Ink} {shown : Option Text} {left right : Text}
    (inside : Shows context styles ink shown) (before : Display.escapeStart ∉ left)
    (after : Display.escapeStart ∉ right) :
    Shows context styles (if ink = [] then [] else inked styles left ++ ink ++ inked styles right)
      (shown.map fun text => left ++ text ++ right) := by
  cases shown with
  | none =>
    have nothing : ink = [] := inside
    rw [if_pos nothing]
    rfl
  | some text =>
    rcases inside with ⟨something, painted⟩
    rw [if_neg something]
    refine ⟨?_, paints_append (paints_append (paints_inked before) painted) (paints_inked after)⟩
    intro empty
    exact something (List.append_eq_nil_iff.mp (List.append_eq_nil_iff.mp empty).1).2

theorem Shows.enclosed {ink : List Ink} {shown : Option Text} {codes : List Style.Code}
    (inside : Shows context (styles ++ [codes]) ink shown) :
    Shows context styles ink (shown.map (Display.enclose ⟨true, false⟩
      ((within context styles).apply codes) (within context styles))) := by
  cases shown with
  | none => exact inside
  | some text =>
    rcases inside with ⟨something, painted⟩
    rw [within_concat] at painted
    exact ⟨something, painted.enclose⟩

mutual
theorem Element.shows {snapshot : Snapshot} (named : snapshot.Excludes Display.escapeStart)
    {element : Element} (clear : element.Excludes Display.escapeStart)
    {styles : List (List Style.Code)} {shown : Option Text}
    (rendered : element.render ⟨snapshot, ⟨true, false⟩⟩ (within context styles) = .ok shown) :
    Shows context styles (element.ink snapshot styles) shown := by
  have control : Display.escapeStart ∈ Display.controls := List.mem_cons_self
  match element with
  | .literal text =>
    rw [Element.render] at rendered
    rw [Element.ink]
    by_cases empty : text = []
    · rw [if_pos empty] at rendered
      cases rendered
      exact List.map_eq_nil_iff.mpr empty
    · rw [if_neg empty] at rendered
      cases rendered
      exact ⟨inked_ne_nil empty, paints_inked (clear.1 text List.mem_cons_self)⟩
  | .field field arguments offset =>
    rw [Element.render] at rendered
    rw [Element.ink]
    cases value : field.value snapshot with
    | error number =>
      rw [value] at rendered
      cases rendered
    | ok found =>
      rw [value] at rendered
      cases found with
      | none =>
        cases rendered
        rfl
      | some text =>
        rcases bind_eq_ok.mp rendered with ⟨mark, marked, joined⟩
        cases joined
        have instead := Arguments.shows named clear marked
        exact instead.valued (Field.not_mem_mark control field)
          (Field.not_mem_value named control value) (Field.value_ne_nil value)
  | .group kind body =>
    rw [Element.render] at rendered
    rw [Element.ink]
    rcases bind_eq_ok.mp rendered with ⟨pieces, read, joined⟩
    cases joined
    rcases kind.not_mem_brackets control with ⟨before, after⟩
    exact (Sequence.shows named clear read).1.bracketed before after
  | .style codes body =>
    rw [Element.render, ← within_concat] at rendered
    rw [Element.ink]
    rcases bind_eq_ok.mp rendered with ⟨pieces, read, joined⟩
    cases joined
    have inside := (Sequence.shows named clear read).1.enclosed
    rw [← within_concat] at inside
    exact inside
  | .nested sequence =>
    rw [Element.render] at rendered
    rw [Element.ink]
    rcases bind_eq_ok.mp rendered with ⟨pieces, read, joined⟩
    cases joined
    exact (Sequence.shows named clear read).1

theorem Sequence.shows {snapshot : Snapshot} (named : snapshot.Excludes Display.escapeStart)
    {sequence : Sequence} (clear : sequence.Excludes Display.escapeStart)
    {styles : List (List Style.Code)} {pieces : List (Text × Text)}
    (rendered : sequence.pieces ⟨snapshot, ⟨true, false⟩⟩ (within context styles) = .ok pieces) :
    Shows context styles (sequence.ink snapshot styles false) (joinPieces pieces) ∧
      Paints (within context styles) (pieces.flatMap fun piece => piece.1 ++ piece.2)
        ((sequence.ink snapshot styles true).map (Ink.cell context)) := by
  match sequence with
  | .done trailing =>
    cases rendered
    exact ⟨rfl, .nothing⟩
  | .item separator element rest =>
    rw [Sequence.pieces] at rendered
    rcases bind_eq_ok.mp rendered with ⟨shown, first, later⟩
    rcases bind_eq_ok.mp later with ⟨others, read, joined⟩
    rcases clear.of_item with ⟨between, clearFirst, clearRest⟩
    have start := Element.shows named clearFirst first
    rcases Sequence.shows named clearRest read with ⟨alone, after⟩
    rw [Sequence.ink, Sequence.ink]
    cases shown with
    | none =>
      cases joined
      have nothing : element.ink snapshot styles = [] := start
      rw [if_pos nothing, if_pos nothing]
      exact ⟨alone, after⟩
    | some text =>
      cases joined
      rcases start with ⟨something, painted⟩
      have separated : Paints (within context styles) separator
          ((inked styles separator).map (Ink.cell context)) := paints_inked between
      rw [if_neg something, if_neg something]
      refine ⟨⟨?_, paints_append painted after⟩, ?_⟩
      · intro empty
        exact something (List.append_eq_nil_iff.mp empty).1
      · exact paints_append (paints_append separated painted) after

theorem Arguments.shows {snapshot : Snapshot} (named : snapshot.Excludes Display.escapeStart)
    {arguments : Arguments} (clear : arguments.Excludes Display.escapeStart)
    {styles : List (List Style.Code)} {shown : Option Text}
    (rendered : arguments.render ⟨snapshot, ⟨true, false⟩⟩ (within context styles) = .ok shown) :
    Shows context styles (arguments.ink snapshot styles) shown := by
  match arguments with
  | .nil =>
    cases rendered
    rfl
  | .cons argument rest =>
    rw [Arguments.render] at rendered
    rcases bind_eq_ok.mp rendered with ⟨pieces, first, later⟩
    rcases bind_eq_ok.mp later with ⟨others, read, joined⟩
    cases joined
    rcases clear.of_cons with ⟨clearFirst, clearRest⟩
    rw [Arguments.ink]
    exact (Sequence.shows named clearFirst first).1.joined (Arguments.shows named clearRest read)
end

theorem Shows.run {ink : List Ink} {shown : Option Text} (shows : Shows context [] ink shown) :
    (Terminal.start (parameters context.numbers)).run (shown.getD []) =
      ⟨parameters context.numbers, ink.map (Ink.cell context), .ground⟩ := by
  cases shown with
  | none =>
    have nothing : ink = [] := shows
    rw [nothing]
    rfl
  | some text => exact shows.2 []

theorem Sequence.shows_of_render {snapshot : Snapshot}
    (named : snapshot.Excludes Display.escapeStart) {sequence : Sequence}
    (clear : sequence.Excludes Display.escapeStart) {shown : Option Text}
    (rendered : sequence.render ⟨snapshot, ⟨true, false⟩⟩ context = .ok shown) :
    Shows context [] (sequence.ink snapshot [] false) shown := by
  rw [Sequence.render] at rendered
  cases read : sequence.pieces ⟨snapshot, ⟨true, false⟩⟩ context with
  | error overflow =>
    rw [read] at rendered
    cases rendered
  | ok pieces =>
    rw [read] at rendered
    cases rendered
    have read : sequence.pieces ⟨snapshot, ⟨true, false⟩⟩ (within context []) = .ok pieces := read
    exact (Sequence.shows named clear read).1

theorem Shows.run_framed {ink : List Ink} {text : Text} (shows : Shows .plain [] ink (some text))
    (style : Text) :
    (Terminal.start style).run (Prompt.framed ⟨true, false⟩ (some text)) =
      ⟨parameters Context.plain.numbers, ink.map (Ink.cell .plain), .ground⟩ := by
  have painted := shows.2 []
  have sent : Prompt.framed ⟨true, false⟩ (some text) =
      Display.sequence .plain ++ text ++ Display.sequence .plain := rfl
  rw [sent, Terminal.run_append, Terminal.run_append, Terminal.start, Terminal.run_sequence]
  rw [within, List.foldl_nil] at painted
  rw [painted, Terminal.run_sequence]
  rfl

theorem run_prompt {snapshot : Snapshot} (named : snapshot.Excludes Display.escapeStart)
    {format text : Text} {tree : Sequence} (parsed : parse format = .ok tree)
    (clear : ∀ literal ∈ tree.literals, Display.escapeStart ∉ literal)
    (rendered : Prompt.render ⟨snapshot, ⟨true, false⟩⟩ format = .ok text) (nonempty : text ≠ [])
    (style : Text) :
    (Terminal.start style).run text =
      ⟨parameters Context.plain.numbers, (tree.ink snapshot [] false).map (Ink.cell .plain),
        .ground⟩ := by
  have excluded := Sequence.excludes_of_parse parsed List.mem_cons_self clear
  rw [Prompt.render, parsed] at rendered
  simp only [Prompt.showTree] at rendered
  cases read : tree.render ⟨snapshot, ⟨true, false⟩⟩ .plain with
  | error overflow =>
    rw [read] at rendered
    cases rendered
  | ok shown =>
    rw [read] at rendered
    cases rendered
    have shows := Sequence.shows_of_render named excluded read
    cases shown with
    | none => exact absurd rfl nonempty
    | some text => exact shows.run_framed style

/-- Every character stands under the styles that enclose what shows it, and the style from
before comes back. No literal, shown run or name may smuggle an escape in. -/
theorem render_shows_ink :
    (∀ (snapshot : Snapshot) (context : Context) (element : Element) (shown : Option Text),
      snapshot.Excludes Display.escapeStart → element.Excludes Display.escapeStart →
      element.render ⟨snapshot, ⟨true, false⟩⟩ context = .ok shown →
      (Terminal.start (parameters context.numbers)).run (shown.getD []) =
        ⟨parameters context.numbers, (element.ink snapshot []).map (Ink.cell context),
          .ground⟩) ∧
    (∀ (snapshot : Snapshot) (context : Context) (sequence : Sequence) (shown : Option Text),
      snapshot.Excludes Display.escapeStart → sequence.Excludes Display.escapeStart →
      sequence.render ⟨snapshot, ⟨true, false⟩⟩ context = .ok shown →
      (Terminal.start (parameters context.numbers)).run (shown.getD []) =
        ⟨parameters context.numbers, (sequence.ink snapshot [] false).map (Ink.cell context),
          .ground⟩) ∧
    ∀ (snapshot : Snapshot) (format text : Text) (tree : Sequence),
      snapshot.Excludes Display.escapeStart → parse format = .ok tree →
      (∀ literal ∈ tree.literals, Display.escapeStart ∉ literal) →
      Prompt.render ⟨snapshot, ⟨true, false⟩⟩ format = .ok text → text ≠ [] →
      ∀ style, (Terminal.start style).run text =
        ⟨parameters Context.plain.numbers, (tree.ink snapshot [] false).map (Ink.cell .plain),
          .ground⟩ := by
  refine ⟨?_, ?_, ?_⟩
  · intro snapshot context element shown named clear rendered
    have shows : Shows context [] (element.ink snapshot []) shown :=
      Element.shows named clear rendered
    exact shows.run
  · intro snapshot context sequence shown named clear rendered
    exact (Sequence.shows_of_render named clear rendered).run
  · intro snapshot format text tree named parsed clear rendered nonempty style
    exact run_prompt named parsed clear rendered nonempty style

def boldBranch : Element := .style [.bold] (.item [] (.field .branch .nil 9) (.done []))

def nestedTree : Sequence :=
  .item [] (.style [.named .fore .red] (.item [] (.literal ['a']) (.item [] boldBranch
    (.item [' '] (.literal ['c']) (.done []))))) (.done [])

theorem render_shows_ink_nested :
    let snapshot : Snapshot := { branch := ['x'] }
    let red : Text := ['0', ';', '3', '1']
    let bold : Text := ['0', ';', '3', '1', ';', '1']
    (∃ shown, boldBranch.render ⟨snapshot, ⟨true, false⟩⟩
        (Context.plain.apply [.named .fore .red]) = .ok shown ∧
      (Terminal.start red).run (shown.getD []) = ⟨red, [⟨'x', bold⟩], .ground⟩) ∧
    (∃ shown, nestedTree.render ⟨snapshot, ⟨true, false⟩⟩ .plain = .ok shown ∧
      (Terminal.start ['0']).run (shown.getD []) =
        ⟨['0'], [⟨'a', red⟩, ⟨'x', bold⟩, ⟨' ', red⟩, ⟨'c', red⟩], .ground⟩) ∧
    ∃ text, Prompt.render ⟨snapshot, ⟨true, false⟩⟩ nestedTree.source = .ok text ∧
      (Terminal.start ['7']).run text =
        ⟨['0'], [⟨'a', red⟩, ⟨'x', bold⟩, ⟨' ', red⟩, ⟨'c', red⟩], .ground⟩ := by
  intro snapshot red bold
  have named : snapshot.Excludes Display.escapeStart := by
    simp [snapshot, Snapshot.Excludes, Display.escapeStart]
  have clearBranch : boldBranch.Excludes Display.escapeStart := by
    simp [boldBranch, Element.Excludes, Element.literals, Element.runs, Sequence.literals,
      Sequence.runs, Arguments.literals, Arguments.runs]
  have clear : nestedTree.Excludes Display.escapeStart := by
    simp [nestedTree, boldBranch, Sequence.Excludes, Sequence.literals, Sequence.runs,
      Element.literals, Element.runs, Arguments.literals, Arguments.runs, Display.escapeStart]
  have parsed : parse nestedTree.source = .ok nestedTree := rfl
  have branch := render_shows_ink.1 snapshot (Context.plain.apply [.named .fore .red])
    boldBranch _ named clearBranch rfl
  have whole := render_shows_ink.2.1 snapshot .plain nestedTree _ named clear rfl
  have framed := render_shows_ink.2.2 snapshot nestedTree.source _ nestedTree named parsed
    clear.1 rfl (by decide) ['7']
  exact ⟨⟨_, rfl, branch⟩, ⟨_, rfl, whole⟩, _, rfl, framed⟩

/-- A tree that no format has: the separator before its second letter is an escape. -/
def smuggled : Sequence :=
  .item [] (.literal ['a']) (.item [Display.escapeStart, '[', '3', '1', 'm'] (.literal ['b'])
    (.done []))

theorem not_render_shows_ink_of_literals :
    ¬ ∀ (snapshot : Snapshot) (context : Context) (sequence : Sequence) (shown : Option Text),
      snapshot.Excludes Display.escapeStart →
      (∀ literal ∈ sequence.literals, Display.escapeStart ∉ literal) →
      sequence.render ⟨snapshot, ⟨true, false⟩⟩ context = .ok shown →
      (Terminal.start (parameters context.numbers)).run (shown.getD []) =
        ⟨parameters context.numbers, (sequence.ink snapshot [] false).map (Ink.cell context),
          .ground⟩ := by
  intro claimed
  have named : Snapshot.outsideRepository.Excludes Display.escapeStart := by
    simp [Snapshot.outsideRepository, Snapshot.Excludes]
  have clear : ∀ literal ∈ smuggled.literals, Display.escapeStart ∉ literal := by
    decide
  have painted := claimed .outsideRepository .plain smuggled _ named clear rfl
  have style := congrArg Terminal.style painted
  exact absurd style (by decide)

end GitPrompt.Format
