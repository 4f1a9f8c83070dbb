import GitPrompt.Proofs.Style.Escape
import GitPrompt.Proofs.Style.Resolution

/-!
A terminal that obeys the numbers of an escape one after the other. The escape of a context that
codes lead to leaves the terminal in the attributes of the context, whatever they were before.
-/
namespace GitPrompt.Style

structure Attributes where
  foreground : Option Colour := none
  background : Option Colour := none
  bold : Bool := false
  italic : Bool := false
  underline : Bool := false
  deriving DecidableEq, Repr

namespace Attributes

def plain : Attributes := {}

def colour (attributes : Attributes) : Ground → Colour → Attributes
  | .fore, colour => { attributes with foreground := some colour }
  | .back, colour => { attributes with background := some colour }

def basicHues : List Hue := [.black, .red, .green, .yellow, .blue, .magenta, .cyan, .white]

def named? (number : Nat) : Option (Ground × Hue) :=
  if 30 ≤ number ∧ number ≤ 37 then (basicHues[number - 30]?).map (Ground.fore, ·)
  else if 40 ≤ number ∧ number ≤ 47 then (basicHues[number - 40]?).map (Ground.back, ·)
  else if number = 90 then some (.fore, .grey)
  else if number = 100 then some (.back, .grey)
  else none

/-- What a number asks for that needs none after it. Other numbers change nothing. -/
def set (attributes : Attributes) (number : Nat) : Attributes :=
  match number with
  | 0 => plain
  | 1 => { attributes with bold := true }
  | 3 => { attributes with italic := true }
  | 4 => { attributes with underline := true }
  | number =>
    match named? number with
    | some (ground, hue) => attributes.colour ground (.named hue)
    | none => attributes

/-- The numbers of an extended colour stand behind those that announce it. -/
def obey (attributes : Attributes) : List Nat → Attributes
  | [] => attributes
  | 38 :: 5 :: number :: rest => obey (attributes.colour .fore (.indexed number)) rest
  | 38 :: 2 :: red :: green :: blue :: rest =>
    obey (attributes.colour .fore (.rgb red green blue)) rest
  | 48 :: 2 :: red :: green :: blue :: rest =>
    obey (attributes.colour .back (.rgb red green blue)) rest
  | number :: rest => obey (attributes.set number) rest

def read (attributes : Attributes) (text : Text) : Attributes :=
  attributes.obey ((text.splitOn ';').map Text.numeral)

end Attributes

def Context.attributes (context : Context) : Attributes where
  foreground := context.foreground
  background := context.background
  bold := context.bold
  italic := context.italic
  underline := context.underline

def Colour.Natural (ground : Ground) : Colour → Prop
  | .named _ => True
  | .indexed number => ground = .fore ∧ 0 ≤ number
  | .rgb red green blue => 0 ≤ red ∧ 0 ≤ green ∧ 0 ≤ blue

def Code.Natural : Code → Prop
  | .indexed number => 0 ≤ number
  | .rgb _ red green blue => 0 ≤ red ∧ 0 ≤ green ∧ 0 ≤ blue
  | _ => True

instance : DecidablePred Code.Natural
  | .indexed number => inferInstanceAs (Decidable (0 ≤ number))
  | .rgb _ red green blue => inferInstanceAs (Decidable (0 ≤ red ∧ 0 ≤ green ∧ 0 ≤ blue))
  | .reset | .bold | .italic | .underline | .named _ _ => inferInstanceAs (Decidable True)

namespace Context

/-- Lists of codes lead to the context from the plain one. -/
inductive Reachable : Context → Prop
  | plain : Reachable .plain
  | apply {context : Context} (reached : Reachable context) (codes : List Code)
      (natural : ∀ code ∈ codes, code.Natural) : Reachable (context.apply codes)

def Natural (context : Context) : Prop :=
  ∀ ground, ∀ colour ∈ context.colourOn ground, colour.Natural ground

end Context

theorem Code.Natural.colourOn {code : Code} (natural : code.Natural) {ground : Ground}
    {colour : Colour} (given : code.colourOn ground = some colour) : colour.Natural ground := by
  cases code with
  | named place hue => cases place <;> cases ground <;> cases given <;> trivial
  | indexed number => cases ground <;> cases given; exact ⟨rfl, natural⟩
  | rgb place red green blue => cases place <;> cases ground <;> cases given <;> exact natural
  | _ => cases given

namespace Context

variable {context other : Context}

theorem Natural.apply (natural : context.Natural) {codes : List Code}
    (each : ∀ code ∈ codes, code.Natural) : (context.apply codes).Natural := by
  intro ground colour given
  rw [colourOn_apply, Option.mem_def, Option.or_eq_some_iff] at given
  rcases given with last | ⟨-, inherited⟩
  · have among : colour ∈ coloursOn ground codes := List.mem_of_getLast? last
    rcases List.mem_filterMap.mp among with ⟨code, member, found⟩
    exact (each code member).colourOn found
  · split at inherited
    · cases inherited
    · exact natural ground colour inherited

theorem Reachable.natural (reached : context.Reachable) : context.Natural := by
  induction reached with
  | plain =>
    intro ground colour given
    cases ground <;> cases given
  | apply reached codes natural ih => exact ih.apply natural

end Context

theorem Colour.Natural.numbers {ground : Ground} {colour : Colour}
    (natural : colour.Natural ground) : ∀ number ∈ colour.numbers ground, 0 ≤ number := by
  cases colour with
  | named hue => cases ground <;> cases hue <;> simp [Colour.numbers, Hue.number, Hue.number.offset]
  | indexed number =>
    rcases natural with ⟨rfl, positive⟩
    simp [Colour.numbers, Ground.extended, positive]
  | rgb red green blue =>
    rcases natural with ⟨first, second, third⟩
    cases ground <;> simp [Colour.numbers, Ground.extended, first, second, third]

theorem Context.Natural.numbers {context : Context} (natural : context.Natural) :
    ∀ number ∈ context.numbers, 0 ≤ number := by
  have slot (ground : Ground) : ∀ number ∈ ((context.colourOn ground).map
      (Colour.numbers ground)).getD [], 0 ≤ number := by
    cases given : context.colourOn ground with
    | none => exact nofun
    | some colour => exact (natural ground colour given).numbers
  have switch (flag : Bool) (number : Nat) :
      ∀ found ∈ (if flag then [(number : Int)] else []), 0 ≤ found := by
    cases flag <;> simp
  unfold Context.numbers
  simp only [List.forall_mem_append, List.forall_mem_cons]
  exact ⟨⟨⟨⟨⟨Int.le_refl 0, slot .fore⟩, slot .back⟩, switch _ 1⟩, switch _ 3⟩, switch _ 4⟩

theorem numerals_parameters {numbers : List Int} (nonempty : numbers ≠ [])
    (natural : ∀ number ∈ numbers, 0 ≤ number) :
    ((parameters numbers).splitOn ';').map Text.numeral = numbers.map Int.toNat := by
  have apart : ∀ piece ∈ numbers.map Text.signed, ';' ∉ piece := by
    intro piece among member
    rcases List.mem_map.mp among with ⟨number, -, rfl⟩
    have other : ¬ (';'.isDigit = true ∨ ';' = '-') := by decide
    exact other (Text.mem_signed member)
  rw [parameters, Text.joined, List.splitOn_intercalate ';' apart (by simpa using nonempty),
    List.map_map]
  apply List.map_congr_left
  intro number member
  rcases Int.eq_ofNat_of_zero_le (natural number member) with ⟨n, rfl⟩
  exact Text.numeral_decimal n

namespace Attributes

theorem obey_colour {ground : Ground} {colour : Colour} (natural : colour.Natural ground)
    (attributes : Attributes) (rest : List Nat) :
    attributes.obey ((colour.numbers ground).map Int.toNat ++ rest) =
      (attributes.colour ground colour).obey rest := by
  cases colour with
  | named hue => cases ground <;> cases hue <;> rfl
  | indexed number =>
    rcases natural with ⟨rfl, positive⟩
    rcases Int.eq_ofNat_of_zero_le positive with ⟨index, rfl⟩
    rfl
  | rgb red green blue =>
    rcases natural with ⟨first, second, third⟩
    rcases Int.eq_ofNat_of_zero_le first with ⟨red, rfl⟩
    rcases Int.eq_ofNat_of_zero_le second with ⟨green, rfl⟩
    rcases Int.eq_ofNat_of_zero_le third with ⟨blue, rfl⟩
    cases ground <;> rfl

theorem obey_slot {ground : Ground} {slot : Option Colour}
    (natural : ∀ colour ∈ slot, colour.Natural ground) (attributes : Attributes)
    (rest : List Nat) :
    attributes.obey (((slot.map (Colour.numbers ground)).getD []).map Int.toNat ++ rest) =
      (slot.elim attributes (attributes.colour ground)).obey rest := by
  cases slot with
  | none => rfl
  | some colour => exact obey_colour (natural colour rfl) attributes rest

theorem obey_switches (attributes : Attributes) (bold italic underline : Bool) :
    attributes.obey (((if bold then [1] else []) ++ (if italic then [3] else []) ++
        (if underline then [4] else []) : List Int).map Int.toNat) =
      { attributes with
        bold := bold || attributes.bold
        italic := italic || attributes.italic
        underline := underline || attributes.underline } := by
  cases bold <;> cases italic <;> cases underline <;> rfl

end Attributes

namespace Context

variable {context other : Context}

theorem obey_numbers (natural : context.Natural) (before : Attributes) :
    before.obey (context.numbers.map Int.toNat) = context.attributes := by
  rcases context with ⟨foreground, background, bold, italic, underline, reset⟩
  have fore : ∀ colour ∈ foreground, colour.Natural .fore := natural .fore
  have back : ∀ colour ∈ background, colour.Natural .back := natural .back
  -- The escape starts with a zero, so it does not matter what there was before.
  have cleared (rest : List Nat) : before.obey (0 :: rest) = Attributes.plain.obey rest := rfl
  simp only [numbers, List.map_append, List.map_cons, List.cons_append, List.append_assoc,
    Int.toNat_zero]
  rw [cleared, Attributes.obey_slot fore, Attributes.obey_slot back, ← List.append_assoc,
    ← List.map_append, ← List.map_append, Attributes.obey_switches]
  cases foreground <;> cases background <;> simp [Attributes.plain, Attributes.colour, attributes]

theorem read_parameters (natural : context.Natural) (before : Attributes) :
    before.read (parameters context.numbers) = context.attributes := by
  have nonempty : context.numbers ≠ [] := List.cons_ne_nil 0 _
  rw [Attributes.read, numerals_parameters nonempty natural.numbers, obey_numbers natural]

theorem numbers_congr (same : context.attributes = other.attributes) :
    context.numbers = other.numbers := by
  simp only [attributes, Attributes.mk.injEq] at same
  simp only [numbers, same]

/-- The escape of a context puts a terminal into the attributes of the context, whatever they were
before. So contexts with the same escape have the same attributes, and only the reset mark may
differ. -/
theorem parameters_determine (reached : context.Reachable) (reached' : other.Reachable) :
    (∀ before : Attributes, before.read (parameters context.numbers) = context.attributes) ∧
      (parameters context.numbers = parameters other.numbers ↔
        context.attributes = other.attributes) := by
  have obeyed := read_parameters reached.natural
  have obeyed' := read_parameters reached'.natural
  refine ⟨obeyed, ?_, ?_⟩
  · intro same
    calc
      context.attributes = Attributes.plain.read (parameters context.numbers) :=
        (obeyed Attributes.plain).symm
      _ = Attributes.plain.read (parameters other.numbers) := by rw [same]
      _ = other.attributes := obeyed' Attributes.plain
  · intro same
    rw [numbers_congr same]

theorem parameters_determine_lookalike :
    let first := (Context.plain.apply [.reset, .italic, .indexed 48]).apply
      [.rgb .back 1 31 4, .bold]
    let second := Context.plain.apply [.bold, .italic, .rgb .back 1 31 4, .indexed 48]
    first ≠ second ∧ first.Reachable ∧ second.Reachable ∧
      parameters first.numbers = "0;38;5;48;48;2;1;31;4;1;3".toList ∧
      (∀ before : Attributes, before.read "0;38;5;48;48;2;1;31;4;1;3".toList =
        ⟨some (.indexed 48), some (.rgb 1 31 4), true, true, false⟩) ∧
      parameters first.numbers = parameters second.numbers := by
  intro first second
  have reached : first.Reachable := .apply (.apply .plain _ (by decide)) _ (by decide)
  have reached' : second.Reachable := .apply .plain _ (by decide)
  have spelled : parameters first.numbers = "0;38;5;48;48;2;1;31;4;1;3".toList := by decide
  have determined := parameters_determine reached reached'
  refine ⟨by decide, reached, reached', spelled, ?_, determined.2.mpr (by decide)⟩
  rw [← spelled]
  exact determined.1

end Context
end GitPrompt.Style
