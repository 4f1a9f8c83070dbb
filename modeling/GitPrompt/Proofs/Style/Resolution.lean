import GitPrompt.Proofs.Folding
import GitPrompt.Style.Context

/-!
What a list of codes makes of a context, told by what it writes to each attribute: the last colour
of a ground stays, a code of the others switches its attribute on, and a reset drops all that was
there before the list.
-/
namespace GitPrompt.Style

def Code.colourOn (ground : Ground) (code : Code) : Option Colour :=
  match code.colour? with
  | some (place, colour) => if place = ground then some colour else none
  | none => none

def coloursOn (ground : Ground) (codes : List Code) : List Colour :=
  codes.filterMap (Code.colourOn ground)

def onGround (ground : Ground) (codes : List Code) : List Code :=
  codes.filter fun code => code.category = ground.category

def withoutResets (codes : List Code) : List Code := codes.filter fun code => code ≠ .reset

def switches : List Code := [.bold, .italic, .underline]

theorem category_of_colour? {code : Code} {ground : Ground} {colour : Colour}
    (found : code.colour? = some (ground, colour)) : code.category = ground.category := by
  cases code <;> cases found <;> rfl

theorem colourOn_of_category {ground : Ground} {code : Code}
    (other : code.category ≠ ground.category) : code.colourOn ground = none := by
  unfold Code.colourOn
  cases found : code.colour? with
  | none => rfl
  | some pair =>
    rcases pair with ⟨place, colour⟩
    have elsewhere : place ≠ ground := by
      intro same
      exact other (same ▸ category_of_colour? found)
    exact if_neg elsewhere

theorem coloursOn_onGround (ground : Ground) (codes : List Code) :
    coloursOn ground (onGround ground codes) = coloursOn ground codes := by
  rw [coloursOn, onGround, List.filterMap_filter]
  congr 1
  funext code
  by_cases among : code.category = ground.category
  · simp [among]
  · simp [among, colourOn_of_category among]

theorem coloursOn_withoutResets (ground : Ground) (codes : List Code) :
    coloursOn ground (withoutResets codes) = coloursOn ground codes := by
  rw [coloursOn, withoutResets, List.filterMap_filter]
  congr 1
  funext code
  by_cases reset : code = .reset
  · subst reset
    rfl
  · simp [reset]

theorem mem_withoutResets {switch : Code} (among : switch ∈ switches) (codes : List Code) :
    switch ∈ withoutResets codes ↔ switch ∈ codes := by
  have other : switch ≠ .reset := by
    rintro rfl
    exact absurd among (by decide)
  simp [withoutResets, other]

namespace Context

def colourOn (context : Context) : Ground → Option Colour
  | .fore => context.foreground
  | .back => context.background

def on (context : Context) : Code → Bool
  | .reset => context.reset
  | .bold => context.bold
  | .italic => context.italic
  | .underline => context.underline
  | _ => false

theorem eq_of_attributes {first second : Context}
    (colours : ∀ ground, first.colourOn ground = second.colourOn ground)
    (switched : ∀ switch ∈ .reset :: switches, first.on switch = second.on switch) :
    first = second := by
  have fore := colours .fore
  have back := colours .back
  simp only [switches, List.forall_mem_cons, List.not_mem_nil, false_implies, implies_true,
    and_true, on] at switched
  cases first
  cases second
  simp_all [colourOn]

theorem colourOn_add (context : Context) (code : Code) (ground : Ground) :
    (context.add code).colourOn ground = (code.colourOn ground).or (context.colourOn ground) := by
  cases code with
  | named place hue => cases place <;> cases ground <;> rfl
  | indexed number => cases ground <;> rfl
  | rgb place red green blue => cases place <;> cases ground <;> rfl
  | _ => cases ground <;> rfl

theorem on_add {switch : Code} (among : switch ∈ switches) (context : Context) (code : Code) :
    (context.add code).on switch = (decide (switch = code) || context.on switch) := by
  simp only [switches, List.mem_cons, List.not_mem_nil, or_false] at among
  rcases among with rfl | rfl | rfl
  all_goals
    cases code with
    | named place hue => cases place <;> rfl
    | indexed number => rfl
    | rgb place red green blue => cases place <;> rfl
    | _ => rfl

variable {context other : Context} {codes more : List Code}

theorem colourOn_apply (context : Context) (codes : List Code) (ground : Ground) :
    (context.apply codes).colourOn ground = (coloursOn ground codes).getLast?.or
      (if .reset ∈ codes then none else context.colourOn ground) := by
  have writes : ∀ (state : Context) (code : Code), (state.add code).colourOn ground =
      ((code.colourOn ground).map some).getD (state.colourOn ground) := by
    intro state code
    rw [colourOn_add]
    cases code.colourOn ground <;> rfl
  have start : (context.inherited codes).colourOn ground =
      if .reset ∈ codes then none else context.colourOn ground := by
    unfold inherited
    split
    · cases ground <;> rfl
    · rfl
  rw [apply, foldl_last_write (fun state => colourOn state ground) writes, start,
    ← List.map_filterMap, List.getLast?_map, coloursOn]
  cases (codes.filterMap (Code.colourOn ground)).getLast? <;> rfl

theorem on_foldl {switch : Code} (among : switch ∈ switches) (codes : List Code)
    (state : Context) :
    (codes.foldl add state).on switch = (decide (switch ∈ codes) || state.on switch) := by
  induction codes generalizing state with
  | nil => simp
  | cons code rest ih =>
    rw [List.foldl_cons, ih, on_add among, ← Bool.or_assoc, Bool.or_comm (decide (switch ∈ rest))]
    simp

theorem reset_apply (context : Context) (codes : List Code) :
    (context.apply codes).reset = (decide (.reset ∈ codes) || context.reset) := by
  have kept : ∀ (state : Context) (code : Code), (state.add code).reset = state.reset := by
    intro state code
    cases code with
    | named place hue => cases place <;> rfl
    | rgb place red green blue => cases place <;> rfl
    | _ => rfl
  have folded : ∀ state : Context, (codes.foldl add state).reset = state.reset := by
    intro state
    induction codes generalizing state with
    | nil => rfl
    | cons code rest ih => rw [List.foldl_cons, ih, kept]
  rw [apply, folded, inherited]
  by_cases reset : .reset ∈ codes <;> simp [reset]

theorem on_apply {switch : Code} (among : switch ∈ .reset :: switches) (context : Context)
    (codes : List Code) : (context.apply codes).on switch =
      (decide (switch ∈ codes) || decide (.reset ∉ codes) && context.on switch) := by
  rcases List.mem_cons.mp among with rfl | switched
  · have marked : (context.apply codes).on .reset = (context.apply codes).reset := rfl
    rw [marked, reset_apply]
    by_cases reset : .reset ∈ codes <;> simp [reset, on]
  · rw [apply, on_foldl switched, inherited]
    by_cases reset : .reset ∈ codes
    · have dropped : on { plain with reset := true } switch = false := by
        simp only [switches, List.mem_cons, List.not_mem_nil, or_false] at switched
        rcases switched with rfl | rfl | rfl <;> rfl
      simp [reset, dropped]
    · simp [reset]

theorem apply_congr (start : context = other ∨ .reset ∈ codes)
    (colours : ∀ ground, coloursOn ground codes = coloursOn ground more)
    (members : ∀ switch ∈ .reset :: switches, switch ∈ codes ↔ switch ∈ more) :
    context.apply codes = other.apply more := by
  have reset := members .reset List.mem_cons_self
  apply eq_of_attributes
  · intro ground
    rw [colourOn_apply, colourOn_apply, colours ground]
    rcases start with rfl | drops
    · simp only [reset]
    · rw [if_pos drops, if_pos (reset.mp drops)]
  · intro switch among
    rw [on_apply among, on_apply among]
    rcases start with rfl | drops
    · simp only [reset, members switch among]
    · simp [drops, reset.mp drops, members switch among]

theorem apply_apply_self (context : Context) (codes : List Code) :
    (context.apply codes).apply codes = context.apply codes := by
  -- The composition law does not help here, since the codes may hold a reset.
  apply eq_of_attributes
  · intro ground
    rw [colourOn_apply, colourOn_apply]
    cases (coloursOn ground codes).getLast? with
    | none => split <;> rfl
    | some colour => rfl
  · intro switch among
    rw [on_apply among, on_apply among]
    by_cases reset : .reset ∈ codes <;> simp [reset]

/-- How lists of codes are resolved against a context. -/
structure Resolves (context : Context) (codes : List Code) : Prop where
  /-- One list after the other, unless the later one resets. -/
  append : ∀ more, .reset ∉ more →
    context.apply (codes ++ more) = (context.apply codes).apply more
  /-- Behind a reset nothing of the context is left, wherever the reset stands and however often. -/
  dropped : .reset ∈ codes → ∀ (other : Context) (more : List Code), .reset ∈ more →
    withoutResets more = withoutResets codes → other.apply more = context.apply codes
  again : (context.apply codes).apply codes = context.apply codes
  /-- Only the order of the codes of one ground matters. -/
  reordered : ∀ more, more.Perm codes →
    (∀ ground, onGround ground more = onGround ground codes) →
      context.apply more = context.apply codes
  coloured : ∀ ground, (context.apply codes).colourOn ground =
    (coloursOn ground codes).getLast?.or
      (if .reset ∈ codes then none else context.colourOn ground)

theorem apply_resolves (context : Context) (codes : List Code) : Resolves context codes := by
  constructor
  case append =>
    intro more kept
    exact apply_append context kept
  case dropped =>
    intro reset other more again same
    apply apply_congr (.inr again)
    · intro ground
      rw [← coloursOn_withoutResets, same, coloursOn_withoutResets]
    · intro switch among
      rcases List.mem_cons.mp among with rfl | switched
      · simp only [reset, again]
      · rw [← mem_withoutResets switched, same, mem_withoutResets switched]
  case again => exact apply_apply_self context codes
  case reordered =>
    intro more perm same
    apply apply_congr (.inl rfl)
    · intro ground
      rw [← coloursOn_onGround, same, coloursOn_onGround]
    · intro switch _
      exact perm.mem_iff
  case coloured => exact colourOn_apply context codes

end Context
end GitPrompt.Style
