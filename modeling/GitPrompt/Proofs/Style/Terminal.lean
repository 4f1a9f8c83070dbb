import GitPrompt.Proofs.Style.Escape

/-!
A terminal that reads what a display sends it, and the texts that it shows without losing the
style it had before them.
-/
namespace GitPrompt.Style

/-- A character on the screen, and the parameters of the escape that was in force for it. -/
structure Cell where
  char : Char
  style : Text
  deriving DecidableEq, Repr

inductive Phase
  | ground
  | escape
  | control (read : Text)
  deriving DecidableEq, Repr

structure Terminal where
  style : Text
  cells : List Cell
  phase : Phase
  deriving DecidableEq, Repr

namespace Terminal

def start (style : Text) : Terminal := ⟨style, [], .ground⟩

/-- An escape that ends in an m puts its parameters in the place of the style. -/
def receive (terminal : Terminal) (c : Char) : Terminal :=
  match terminal.phase with
  | .ground =>
    if c = Display.escapeStart then { terminal with phase := .escape }
    else { terminal with cells := terminal.cells ++ [⟨c, terminal.style⟩] }
  | .escape => { terminal with phase := if c = '[' then .control [] else .ground }
  | .control read =>
    if c = 'm' then { terminal with style := read, phase := .ground }
    else { terminal with phase := .control (read ++ [c]) }

def run (terminal : Terminal) (text : Text) : Terminal := text.foldl receive terminal

theorem run_nil (terminal : Terminal) : terminal.run [] = terminal := rfl

theorem run_cons (terminal : Terminal) (c : Char) (text : Text) :
    terminal.run (c :: text) = (terminal.receive c).run text := rfl

theorem run_append (terminal : Terminal) (first second : Text) :
    terminal.run (first ++ second) = (terminal.run first).run second := List.foldl_append

theorem run_plain {text : Text} (plain : Display.escapeStart ∉ text) (style : Text)
    (cells : List Cell) :
    run ⟨style, cells, .ground⟩ text = ⟨style, cells ++ text.map (⟨·, style⟩), .ground⟩ := by
  induction text generalizing cells with
  | nil => simp [run_nil]
  | cons c rest ih =>
    have visible : c ≠ Display.escapeStart := by
      intro same
      exact plain (same ▸ List.mem_cons_self)
    have later : Display.escapeStart ∉ rest := fun member => plain (List.mem_cons_of_mem c member)
    rw [run_cons, receive]
    simp only [visible, ↓reduceIte]
    rw [ih later]
    simp

theorem run_control {text : Text} (unfinished : 'm' ∉ text) (style : Text) (cells : List Cell)
    (read : Text) :
    run ⟨style, cells, .control read⟩ text = ⟨style, cells, .control (read ++ text)⟩ := by
  induction text generalizing read with
  | nil => simp [run_nil]
  | cons c rest ih =>
    have inside : c ≠ 'm' := by
      intro same
      exact unfinished (same ▸ List.mem_cons_self)
    have later : 'm' ∉ rest := fun member => unfinished (List.mem_cons_of_mem c member)
    rw [run_cons, receive]
    simp only [inside, ↓reduceIte]
    rw [ih later]
    simp

theorem run_sequence (context : Context) (style : Text) (cells : List Cell) :
    run ⟨style, cells, .ground⟩ (Display.sequence context) =
      ⟨parameters context.numbers, cells, .ground⟩ := by
  have unfinished : 'm' ∉ parameters context.numbers := not_mem_parameters List.mem_cons_self
  have opened : run ⟨style, cells, .ground⟩ (Display.sequence context) =
      run ⟨style, cells, .control []⟩ (parameters context.numbers ++ ['m']) := rfl
  rw [opened, run_append, run_control unfinished]
  rfl

end Terminal

/-- In the style of the context the text fills the cells, and the style is left as it was. -/
def Paints (context : Context) (text : Text) (cells : List Cell) : Prop :=
  ∀ before, Terminal.run ⟨parameters context.numbers, before, .ground⟩ text =
    ⟨parameters context.numbers, before ++ cells, .ground⟩

namespace Paints

variable {context : Context}

theorem nothing : Paints context [] [] := by
  intro before
  rw [Terminal.run_nil, List.append_nil]

theorem plain {text : Text} (visible : Display.escapeStart ∉ text) :
    Paints context text (text.map (⟨·, parameters context.numbers⟩)) := by
  intro before
  exact Terminal.run_plain visible (parameters context.numbers) before

theorem append {first second : Text} {cells more : List Cell}
    (painted : Paints context first cells) (later : Paints context second more) :
    Paints context (first ++ second) (cells ++ more) := by
  intro before
  rw [Terminal.run_append, painted before, later (before ++ cells), List.append_assoc]

theorem enclose {inner : Context} {text : Text} {cells : List Cell}
    (painted : Paints inner text cells) :
    Paints context (Display.enclose ⟨true, false⟩ inner context text) cells := by
  intro before
  have sent : Display.enclose ⟨true, false⟩ inner context text =
      Display.sequence inner ++ text ++ Display.sequence context := rfl
  rw [sent, Terminal.run_append, Terminal.run_append, Terminal.run_sequence, painted before,
    Terminal.run_sequence]

end Paints
end GitPrompt.Style
