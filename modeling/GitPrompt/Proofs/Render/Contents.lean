import GitPrompt.Format.Render
import GitPrompt.Proofs.Format.RoundTrip
import GitPrompt.Proofs.Style.Escape

/-!
The texts that a rendering may show: the literals and the runs of separators of its tree, the
names of its snapshot, and the marks, numbers and brackets that hold no control character.
-/
namespace GitPrompt

open Style (Display)

def Snapshot.Excludes (snapshot : Snapshot) (c : Char) : Prop :=
  c ∉ snapshot.branch ∧ ∀ name, snapshot.tracking = some name → c ∉ name

namespace Field

theorem eq_of_present {name text : Text} (shown : value.present name = some text) :
    name = text ∧ text ≠ [] := by
  unfold value.present at shown
  by_cases empty : name = []
  · rw [if_pos empty] at shown
    cases shown
  · rw [if_neg empty] at shown
    cases shown
    exact ⟨rfl, empty⟩

theorem value_cases {field : Field} {snapshot : Snapshot} {text : Text}
    (shown : field.value snapshot = .ok (some text)) :
    (text ≠ [] ∧ (snapshot.branch = text ∨ snapshot.tracking = some text)) ∨
      ∃ number, text = Text.signed number := by
  cases field with
  | branch =>
    rcases eq_of_present (Except.ok.inj shown) with ⟨same, nonempty⟩
    exact .inl ⟨nonempty, .inl same⟩
  | tracking =>
    rcases Option.bind_eq_some_iff.mp (Except.ok.inj shown) with ⟨name, named, present⟩
    rcases eq_of_present present with ⟨rfl, nonempty⟩
    exact .inl ⟨nonempty, .inr named⟩
  | count which =>
    simp only [value] at shown
    split at shown
    · cases shown
    · split at shown
      · cases shown
      · cases shown
        exact .inr ⟨_, rfl⟩

theorem value_ne_nil {field : Field} {snapshot : Snapshot} {text : Text}
    (shown : field.value snapshot = .ok (some text)) : text ≠ [] := by
  rcases value_cases shown with ⟨nonempty, -⟩ | ⟨number, rfl⟩
  · exact nonempty
  · exact Text.signed_ne_nil number

theorem not_mem_value {field : Field} {snapshot : Snapshot} {text : Text} {c : Char}
    (excluded : snapshot.Excludes c) (control : c ∈ Display.controls)
    (shown : field.value snapshot = .ok (some text)) : c ∉ text := by
  rcases value_cases shown with ⟨-, same | named⟩ | ⟨number, rfl⟩
  · exact same ▸ excluded.1
  · exact excluded.2 text named
  · intro member
    have other : ∀ d ∈ Display.controls, ¬ (d.isDigit = true ∨ d = '-') :=
      Text.forall_mem_of_all (by decide)
    exact other c control (Text.mem_signed member)

theorem not_mem_mark {c : Char} (control : c ∈ Display.controls) (field : Field) :
    c ∉ field.mark := by
  cases field with
  | branch => exact List.not_mem_nil
  | tracking => exact List.not_mem_nil
  | count which =>
    have apart : ∀ d ∈ Display.controls, d ∉ (Field.count which).mark := by
      cases which <;> exact Text.forall_mem_of_all (by decide)
    exact apart c control

end Field

namespace Format

theorem GroupKind.not_mem_brackets {c : Char} (control : c ∈ Display.controls)
    (kind : GroupKind) : c ∉ kind.left ∧ c ∉ kind.right := by
  have apart : ∀ d ∈ Display.controls, d ∉ kind.left ∧ d ∉ kind.right := by
    cases kind <;> exact Text.forall_mem_of_all (by decide)
  exact apart c control

mutual
def Element.literals : Element → List Text
  | .literal text => [text]
  | .field _ arguments _ => arguments.literals
  | .group _ body => body.literals
  | .style _ body => body.literals
  | .nested sequence => sequence.literals

def Sequence.literals : Sequence → List Text
  | .done _ => []
  | .item _ element rest => element.literals ++ rest.literals

def Arguments.literals : Arguments → List Text
  | .nil => []
  | .cons argument rest => argument.literals ++ rest.literals
end

mutual
/-- The runs of separators before the elements of a tree. Those after the last element of a
sequence are never shown. -/
def Element.runs : Element → List Text
  | .literal _ => []
  | .field _ arguments _ => arguments.runs
  | .group _ body => body.runs
  | .style _ body => body.runs
  | .nested sequence => sequence.runs

def Sequence.runs : Sequence → List Text
  | .done _ => []
  | .item separator element rest => separator :: element.runs ++ rest.runs

def Arguments.runs : Arguments → List Text
  | .nil => []
  | .cons argument rest => argument.runs ++ rest.runs
end

def Element.Excludes (element : Element) (c : Char) : Prop :=
  (∀ text ∈ element.literals, c ∉ text) ∧ ∀ run ∈ element.runs, c ∉ run

def Sequence.Excludes (sequence : Sequence) (c : Char) : Prop :=
  (∀ text ∈ sequence.literals, c ∉ text) ∧ ∀ run ∈ sequence.runs, c ∉ run

def Arguments.Excludes (arguments : Arguments) (c : Char) : Prop :=
  (∀ text ∈ arguments.literals, c ∉ text) ∧ ∀ run ∈ arguments.runs, c ∉ run

theorem Sequence.Excludes.of_item {separator : Text} {element : Element} {rest : Sequence}
    {c : Char} (excluded : (Sequence.item separator element rest).Excludes c) :
    c ∉ separator ∧ element.Excludes c ∧ rest.Excludes c := by
  rcases excluded with ⟨literals, runs⟩
  simp only [Sequence.literals, Sequence.runs, List.cons_append, List.mem_append, List.mem_cons,
    or_imp, forall_and, forall_eq] at literals runs
  exact ⟨runs.1, ⟨literals.1, runs.2.1⟩, literals.2, runs.2.2⟩

theorem Arguments.Excludes.of_cons {argument : Sequence} {rest : Arguments} {c : Char}
    (excluded : (Arguments.cons argument rest).Excludes c) :
    argument.Excludes c ∧ rest.Excludes c := by
  rcases excluded with ⟨literals, runs⟩
  simp only [Arguments.literals, Arguments.runs, List.mem_append, or_imp, forall_and]
    at literals runs
  exact ⟨⟨literals.1, runs.1⟩, literals.2, runs.2⟩

mutual
theorem Element.Derives.literals {start : Nat} {element : Element} {source : Text}
    (derived : Element.Derives separators start element source) :
    ∀ text ∈ element.literals, text ⊆ source := by
  match derived with
  | .literal plain =>
    intro text among
    rw [List.mem_singleton.mp among]
    simp
  | .escaped special =>
    intro text among
    rw [List.mem_singleton.mp among]
    simp
  | .field field =>
    intro text among
    cases among
  | .call field inner =>
    intro text among c member
    have later := inner.literals text among member
    simp [later]
  | .group kind inner =>
    intro text among c member
    have later := inner.literals text among member
    simp [later]
  | .style listed inner =>
    intro text among c member
    have later := inner.literals text among member
    simp [later]

theorem Sequence.Derives.literals {scope : Scope} {start : Nat} {sequence : Sequence}
    {source : Text} (derived : Sequence.Derives separators scope start sequence source) :
    ∀ text ∈ sequence.literals, text ⊆ source := by
  match derived with
  | .done run =>
    intro text among
    cases among
  | .item run first others =>
    intro text among c member
    rcases List.mem_append.mp among with early | late
    · have inside := first.literals text early member
      simp [inside]
    · have inside := others.literals text late member
      simp [inside]

theorem Arguments.Derives.literals {start : Nat} {arguments : Arguments} {source : Text}
    (derived : Arguments.Derives separators start arguments source) :
    ∀ text ∈ arguments.literals, text ⊆ source := by
  match derived with
  | .last only =>
    intro text among c member
    rcases List.mem_append.mp among with early | late
    · exact only.literals text early member
    · cases late
  | .cons first others =>
    intro text among c member
    rcases List.mem_append.mp among with early | late
    · have inside := first.literals text early member
      simp [inside]
    · have inside := others.literals text late member
      simp [inside]
end

mutual
theorem Element.WellFormed.runs {element : Element} (wellFormed : element.WellFormed) :
    ∀ run ∈ element.runs, run ⊆ separators := by
  match element, wellFormed with
  | .literal text, _ =>
    intro run among
    cases among
  | .field field arguments offset, inner => exact Arguments.WellFormed.runs inner
  | .group kind body, inner => exact Sequence.WellFormed.runs inner
  | .style codes body, ⟨_, _, inner⟩ => exact Sequence.WellFormed.runs inner

theorem Sequence.WellFormed.runs {sequence : Sequence} {scope : Scope}
    (wellFormed : sequence.WellFormed scope) : ∀ run ∈ sequence.runs, run ⊆ separators := by
  match sequence, wellFormed with
  | .done trailing, _ =>
    intro run among
    cases among
  | .item separator element rest, ⟨before, inner, later⟩ =>
    intro run among
    rcases List.mem_append.mp among with first | late
    · rcases List.mem_cons.mp first with rfl | early
      · exact fun c member => (before c member).mem
      · exact Element.WellFormed.runs inner run early
    · exact Sequence.WellFormed.runs later run late

theorem Arguments.WellFormed.runs {arguments : Arguments} (wellFormed : arguments.WellFormed) :
    ∀ run ∈ arguments.runs, run ⊆ separators := by
  match arguments, wellFormed with
  | .nil, _ =>
    intro run among
    cases among
  | .cons argument rest, ⟨inner, later⟩ =>
    intro run among
    rcases List.mem_append.mp among with early | late
    · exact Sequence.WellFormed.runs inner run early
    · exact Arguments.WellFormed.runs later run late
end

theorem Sequence.excludes_of_parse {source : Text} {tree : Sequence} {c : Char}
    (parsed : parse source = .ok tree) (control : c ∈ Display.controls)
    (literals : ∀ text ∈ tree.literals, c ∉ text) : tree.Excludes c := by
  have wellFormed := (parse_eq_ok_iff.mp parsed).wellFormed
  have apart : ∀ d ∈ Display.controls, d ∉ separators :=
    Text.forall_mem_of_all (by decide)
  refine ⟨literals, ?_⟩
  intro run among member
  exact apart c control (wellFormed.runs run among member)

end Format
end GitPrompt
