import GitPrompt.Format.Render
import GitPrompt.Proofs.Format.Parsing
import GitPrompt.Proofs.Render.Presence

/-!
A rendering stops exactly when a field that it reaches has a count out of range. The fields are
reached in the order in which the format names them, so it stops at the first of these.
-/
namespace GitPrompt.Format

open Text (words)

/-- A text that begins at an offset names the field, at the backslash before its letter. -/
def Mention.NamedIn (mention : Mention) (start : Nat) (text : Text) : Prop :=
  ∃ before after, text = before ++ '\\' :: mention.field.letter :: after ∧
    mention.offset = (start + before.length : Nat)

section
variable {mention : Mention} {start : Nat}

theorem Mention.NamedIn.within {before text : Text}
    (named : mention.NamedIn (start + before.length) text) (after : Text) :
    mention.NamedIn start (before ++ text ++ after) := by
  rcases named with ⟨first, last, rfl, placed⟩
  refine ⟨before ++ first, last ++ after, by simp, ?_⟩
  rw [placed, List.length_append, Nat.add_assoc]

theorem Mention.NamedIn.bounds {text : Text} (named : mention.NamedIn start text) :
    (start : Int) ≤ mention.offset ∧ mention.offset < (start + text.length : Nat) := by
  rcases named with ⟨before, after, rfl, placed⟩
  simp only [placed, List.length_append, List.length_cons]
  omega

theorem Mention.NamedIn.take_drop {source : Text} (named : mention.NamedIn 0 source) :
    ∃ place : Nat, mention.offset = place ∧
      (source.drop place).take 2 = ['\\', mention.field.letter] := by
  rcases named with ⟨before, after, rfl, placed⟩
  refine ⟨before.length, by rw [placed, Nat.zero_add], ?_⟩
  rw [List.drop_left]
  rfl

end

variable {snapshot : Snapshot} {mention : Mention}

mutual
theorem Element.Derives.named {start : Nat} {element : Element} {text : Text}
    (derived : Element.Derives separators start element text)
    (live : element.Live snapshot mention) : mention.NamedIn start text := by
  match derived with
  | .literal plain => cases live
  | .escaped special => cases live
  | .field field =>
    rcases live with rfl | ⟨_, inner⟩
    · exact ⟨[], [], rfl, rfl⟩
    · cases inner
  | @Element.Derives.call _ _ field arguments text inner =>
    rcases live with rfl | ⟨_, later⟩
    · exact ⟨[], '(' :: text ++ [')'], rfl, rfl⟩
    · have named : mention.NamedIn (start + ['\\', field.letter, '('].length) text :=
        inner.named later
      exact named.within [')']
  | .group kind inner => exact (inner.named live).within [kind.closer.char]
  | @Element.Derives.style _ _ codes list body text listed inner =>
    have place : start + list.length + 2 = start + ('#' :: list ++ ['(']).length := by
      simp
      omega
    have named := inner.named live
    rw [place] at named
    simpa using named.within [')']

theorem Sequence.Derives.named {scope : Scope} {start : Nat} {sequence : Sequence}
    {text : Text} (derived : Sequence.Derives separators scope start sequence text)
    (live : sequence.Live snapshot mention) : mention.NamedIn start text := by
  match derived with
  | .done run => cases live
  | @Sequence.Derives.item _ _ _ separator text more element rest run first others =>
    rcases live with early | late
    · exact (first.named early).within more
    · have named := others.named late
      rw [Nat.add_assoc, ← List.length_append] at named
      simpa using named.within []

theorem Arguments.Derives.named {start : Nat} {arguments : Arguments} {text : Text}
    (derived : Arguments.Derives separators start arguments text)
    (live : arguments.Live snapshot mention) : mention.NamedIn start text := by
  match derived with
  | .last only =>
    rcases live with early | late
    · exact only.named early
    · cases late
  | @Arguments.Derives.cons _ _ argument rest text more first others =>
    rcases live with early | late
    · have named : mention.NamedIn (start + ([] : Text).length) text := first.named early
      exact named.within (',' :: more)
    · have place : start + text.length + 1 = start + (text ++ [',']).length := by
        simp
        omega
      have named := others.named late
      rw [place] at named
      simpa using named.within []
end

/-- A result is an error exactly when a live field is out of range, and then the error of the
first of them. -/
def StopsAtFirst {α : Type} (snapshot : Snapshot) (live : Mention → Prop) :
    Except Overflow α → Prop
  | .ok _ => ∀ mention, live mention → ∀ number, ¬ mention.field.OutOfRange snapshot number
  | .error overflow =>
    live ⟨overflow.field, overflow.offset⟩ ∧
      overflow.field.OutOfRange snapshot overflow.value ∧
      ∀ mention, live mention → ∀ number, mention.field.OutOfRange snapshot number →
        overflow.offset ≤ mention.offset

section
variable {α β : Type} {live later : Mention → Prop}

theorem StopsAtFirst.of_not_live (none : ∀ mention, ¬ live mention) (result : α) :
    StopsAtFirst snapshot live (.ok result) := by
  intro mention lives
  exact absurd lives (none mention)

theorem StopsAtFirst.bind {first : Except Overflow α} {next : α → Except Overflow β}
    (stops : StopsAtFirst snapshot live first)
    (continues : ∀ result, StopsAtFirst snapshot later (next result))
    (ordered : ∀ early late, live early → later late → early.offset ≤ late.offset) :
    StopsAtFirst snapshot (fun mention => live mention ∨ later mention) (first >>= next) := by
  cases first with
  | error overflow =>
    rcases stops with ⟨lives, outside, least⟩
    refine ⟨.inl lives, outside, ?_⟩
    intro mention reached number beyond
    rcases reached with early | late
    · exact least mention early number beyond
    · exact ordered _ mention lives late
  | ok result =>
    have others := continues result
    change StopsAtFirst snapshot _ (next result)
    cases outcome : next result with
    | ok final =>
      rw [outcome] at others
      intro mention reached
      rcases reached with early | late
      · exact stops mention early
      · exact others mention late
    | error overflow =>
      rw [outcome] at others
      rcases others with ⟨lives, outside, least⟩
      refine ⟨.inr lives, outside, ?_⟩
      intro mention reached number beyond
      rcases reached with early | late
      · exact absurd beyond (stops mention early number)
      · exact least mention late number beyond

theorem StopsAtFirst.map {first : Except Overflow α}
    (stops : StopsAtFirst snapshot live first) (view : α → β) :
    StopsAtFirst snapshot live (first >>= fun result => .ok (view result)) := by
  cases first with
  | error overflow => exact stops
  | ok result => exact stops

theorem StopsAtFirst.field {field : Field} {offset : Int} {view : Text → Option Text → β}
    {nothing : β} {marked : Except Overflow (Option Text)}
    (stops : StopsAtFirst snapshot live marked)
    (ordered : ∀ mention, live mention → offset ≤ mention.offset) :
    StopsAtFirst snapshot
      (fun mention => mention = ⟨field, offset⟩ ∨ field.Present snapshot ∧ live mention)
      (match field.value snapshot with
        | .error value => .error ⟨field, value, offset⟩
        | .ok none => .ok nothing
        | .ok (some value) => marked >>= fun mark => .ok (view value mark)) := by
  cases valued : field.value snapshot with
  | error value =>
    refine ⟨.inl rfl, Field.value_eq_error.mp valued, ?_⟩
    intro mention reached number beyond
    rcases reached with rfl | ⟨-, inner⟩
    · exact Int.le_refl _
    · exact ordered mention inner
  | ok shown =>
    have inside : ∀ number, ¬ field.OutOfRange snapshot number := by
      intro number beyond
      rw [Field.value_eq_error.mpr beyond] at valued
      cases valued
    cases shown with
    | none =>
      have absent := Field.value_eq_none.mp valued
      intro mention reached
      rcases reached with rfl | ⟨present, -⟩
      · exact inside
      · exact absurd present absent
    | some value =>
      have present : field.Present snapshot := by
        apply Classical.byContradiction
        intro absent
        rw [Field.value_eq_none.mpr absent] at valued
        cases valued
      cases marked with
      | ok mark =>
        intro mention reached
        rcases reached with rfl | ⟨-, inner⟩
        · exact inside
        · exact stops mention inner
      | error overflow =>
        rcases stops with ⟨lives, outside, least⟩
        refine ⟨.inr ⟨present, lives⟩, outside, ?_⟩
        intro mention reached number beyond
        rcases reached with rfl | ⟨-, inner⟩
        · exact absurd beyond (inside number)
        · exact least mention inner number beyond

end

mutual
theorem Element.Derives.stopsAtFirst {start : Nat} {element : Element} {text : Text}
    (derived : Element.Derives separators start element text) (scene : Scene)
    (context : Style.Context) :
    StopsAtFirst scene.snapshot (element.Live scene.snapshot) (element.render scene context) := by
  match derived with
  | .literal plain => exact .of_not_live (fun mention live => live) _
  | .escaped special => exact .of_not_live (fun mention live => live) _
  | .field field =>
    have nothing : StopsAtFirst scene.snapshot (Arguments.nil.Live scene.snapshot)
        (Arguments.nil.render scene context) := .of_not_live (fun mention live => live) _
    exact nothing.field nofun
  | .call field inner =>
    apply (inner.stopsAtFirst scene context).field
    intro mention live
    have bounds := (inner.named live).bounds
    omega
  | .group kind inner => exact (inner.stopsAtFirst scene context).map _
  | .style listed inner => exact (inner.stopsAtFirst scene _).map _

theorem Sequence.Derives.stopsAtFirst {scope : Scope} {start : Nat} {sequence : Sequence}
    {text : Text} (derived : Sequence.Derives separators scope start sequence text)
    (scene : Scene) (context : Style.Context) :
    StopsAtFirst scene.snapshot (sequence.Live scene.snapshot)
      (sequence.pieces scene context) := by
  match derived with
  | .done run => exact .of_not_live (fun mention live => live) _
  | .item run first others =>
    apply (first.stopsAtFirst scene context).bind
    · intro shown
      exact (others.stopsAtFirst scene context).map _
    · intro early late reached follows
      have before := (first.named reached).bounds
      have after := (others.named follows).bounds
      omega

theorem Arguments.Derives.stopsAtFirst {start : Nat} {arguments : Arguments} {text : Text}
    (derived : Arguments.Derives separators start arguments text) (scene : Scene)
    (context : Style.Context) :
    StopsAtFirst scene.snapshot (arguments.Live scene.snapshot)
      (arguments.render scene context) := by
  match derived with
  | .last only =>
    apply (only.stopsAtFirst scene context).bind
    · intro pieces
      exact StopsAtFirst.of_not_live (fun mention live => live) _
    · intro early late reached follows
      cases follows
  | .cons first others =>
    apply (first.stopsAtFirst scene context).bind
    · intro pieces
      exact (others.stopsAtFirst scene context).map _
    · intro early late reached follows
      have before := (first.named reached).bounds
      have after := (others.named follows).bounds
      omega
end

theorem Sequence.stopsAtFirst_of_parse {source : Text} {tree : Sequence}
    (parsed : parse source = .ok tree) (scene : Scene) (context : Style.Context) :
    StopsAtFirst scene.snapshot (tree.Live scene.snapshot) (tree.render scene context) := by
  have stops := (parse_eq_ok_iff.mp parsed).stopsAtFirst scene context
  unfold Sequence.render
  cases outcome : tree.pieces scene context with
  | ok pieces =>
    rw [outcome] at stops
    exact stops
  | error overflow =>
    rw [outcome] at stops
    exact stops

def Sequence.Overflows (tree : Sequence) (snapshot : Snapshot) (mention : Mention) : Prop :=
  tree.Live snapshot mention ∧ ∃ number, mention.field.OutOfRange snapshot number

/-- A rendering stops exactly when a live field is out of range. It then reports the first of
these, where the format names it, by its title and its number. -/
theorem render_stops_iff_overflows {source : Text} {tree : Sequence}
    (parsed : parse source = .ok tree) (scene : Scene) (context : Style.Context) :
    ((∃ overflow, tree.render scene context = .error overflow) ↔
        ∃ mention, tree.Overflows scene.snapshot mention) ∧
      ((∃ shown, tree.render scene context = .ok shown) ↔
        ∀ mention, ¬ tree.Overflows scene.snapshot mention) ∧
      ∀ overflow, tree.render scene context = .error overflow →
        tree.Overflows scene.snapshot ⟨overflow.field, overflow.offset⟩ ∧
        (∀ mention, tree.Overflows scene.snapshot mention → overflow.offset ≤ mention.offset) ∧
        (∃ place : Nat, overflow.offset = place ∧
          (source.drop place).take 2 = ['\\', overflow.field.letter]) ∧
        ∃ which, overflow.field = .count which ∧
          overflow.message = words which.title ++ words " count " ++
            Text.signed (scene.snapshot.count which) ++
            words " is outside the range 0-4294967295" := by
  have stops := Sequence.stopsAtFirst_of_parse parsed scene context
  cases outcome : tree.render scene context with
  | ok shown =>
    rw [outcome] at stops
    have faultless : ∀ mention, ¬ tree.Overflows scene.snapshot mention := by
      rintro mention ⟨live, number, outside⟩
      exact stops mention live number outside
    refine ⟨⟨nofun, ?_⟩, ⟨fun _ => faultless, fun _ => ⟨shown, rfl⟩⟩, nofun⟩
    rintro ⟨mention, faulty⟩
    exact absurd faulty (faultless mention)
  | error overflow =>
    rw [outcome] at stops
    rcases stops with ⟨live, outside, least⟩
    have faulty : tree.Overflows scene.snapshot ⟨overflow.field, overflow.offset⟩ :=
      ⟨live, overflow.value, outside⟩
    refine ⟨⟨fun _ => ⟨_, faulty⟩, fun _ => ⟨overflow, rfl⟩⟩,
      ⟨nofun, fun faultless => absurd faulty (faultless _)⟩, ?_⟩
    rintro _ ⟨⟩
    have named := (parse_eq_ok_iff.mp parsed).named live
    rcases outside with ⟨-, -, which, field, number⟩
    refine ⟨faulty, ?_, named.take_drop, which, field, ?_⟩
    · rintro mention ⟨reached, number, beyond⟩
      exact least mention reached number beyond
    · have most : words " is outside the range 0-" ++ Text.signed maxCount =
          words " is outside the range 0-4294967295" := by
        simp only [Text.words_eq]
        decide
      rw [Overflow.message, field, number, List.append_assoc _ _ (Text.signed maxCount), most]
      rfl

theorem render_stops_iff_overflows_added :
    let source := "\\B(\\a)\\b(\\A(\\h))\\h".toList
    let snapshot : Snapshot :=
      { branch := ['m'], untracked := -1, stagedAdded := 4294967296, stashed := -5 }
    ∃ tree, parse source = .ok tree ∧
      tree.render ⟨snapshot, {}⟩ .plain = .error ⟨.count .stagedAdded, 4294967296, 9⟩ ∧
      tree.Overflows snapshot ⟨.count .stagedAdded, 9⟩ ∧
      (∀ mention, tree.Overflows snapshot mention → 9 ≤ mention.offset) ∧
      (source.drop 9).take 2 = ['\\', 'A'] := by
  intro source snapshot
  let inner : Sequence := .item [] (.field (.count .stashed) .nil 12) (.done [])
  let added : Sequence :=
    .item [] (.field (.count .stagedAdded) (.cons inner .nil) 9) (.done [])
  let untracked : Sequence := .item [] (.field (.count .untracked) .nil 3) (.done [])
  let tree : Sequence :=
    .item [] (.field .tracking (.cons untracked .nil) 0)
      (.item [] (.field .branch (.cons added .nil) 6)
        (.item [] (.field (.count .stashed) .nil 16) (.done [])))
  have parsed : parse source = .ok tree := rfl
  have stopped : tree.render ⟨snapshot, {}⟩ .plain =
      .error ⟨.count .stagedAdded, 4294967296, 9⟩ := rfl
  obtain ⟨-, -, first⟩ := render_stops_iff_overflows parsed ⟨snapshot, {}⟩ .plain
  obtain ⟨faulty, least, -⟩ := first _ stopped
  exact ⟨tree, parsed, stopped, faulty, least, rfl⟩

end GitPrompt.Format
