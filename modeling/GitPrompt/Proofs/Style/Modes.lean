import GitPrompt.Proofs.Style.Escape

/-!
The same text sent to displays of the three kinds: without colour, with colour, and with
colour inside the marks of a bash prompt.
-/
namespace GitPrompt.Style

namespace Display

/-- Delete every escape, from its bracket up to its m. The flag tells whether the text begins
inside one. -/
def withoutEscapes : Bool → Text → Text
  | _, [] => []
  | true, c :: rest => withoutEscapes (c ≠ 'm') rest
  | false, c :: rest =>
    if c = escapeStart ∧ rest.head? = some '[' then withoutEscapes true rest
    else c :: withoutEscapes false rest

def marks : Text := [hiddenStart, hiddenEnd]

def withoutMarks (text : Text) : Text := text.filter fun c => c ∉ marks

/-- Each pair of marks holds one escape and nothing else, and outside the pairs there is
neither a mark nor an escape. -/
inductive Marked : Text → Prop
  | nothing : Marked []
  | shown {c : Char} {text : Text} (visible : c ∉ controls) (rest : Marked text) :
      Marked (c :: text)
  | escape {inside text : Text} (plain : ∀ c ∈ 'm' :: controls, c ∉ inside) (rest : Marked text) :
      Marked (hiddenStart :: escapeStart :: '[' :: inside ++ 'm' :: hiddenEnd :: text)

inductive Versions : Text → Text → Text → Prop
  | nothing : Versions [] [] []
  | shown {c : Char} {bare coloured marked : Text} (visible : c ∉ controls)
      (rest : Versions bare coloured marked) :
      Versions (c :: bare) (c :: coloured) (c :: marked)
  | styled (context : Context) {bare coloured marked : Text}
      (rest : Versions bare coloured marked) :
      Versions bare (sequence context ++ coloured)
        (hiddenStart :: sequence context ++ hiddenEnd :: marked)

theorem withoutEscapes_inside {inside : Text} (unfinished : 'm' ∉ inside) (rest : Text) :
    withoutEscapes true (inside ++ 'm' :: rest) = withoutEscapes false rest := by
  induction inside with
  | nil => simp [withoutEscapes]
  | cons c inside ih =>
    have other : c ≠ 'm' := by
      intro same
      exact unfinished (same ▸ List.mem_cons_self)
    have later : 'm' ∉ inside := fun member => unfinished (List.mem_cons_of_mem c member)
    rw [List.cons_append, withoutEscapes]
    simp only [other, ne_eq, not_false_eq_true, decide_true]
    exact ih later

theorem withoutEscapes_sequence (context : Context) (rest : Text) :
    withoutEscapes false (sequence context ++ rest) = withoutEscapes false rest := by
  have unfinished : 'm' ∉ '[' :: parameters context.numbers := by
    intro member
    rcases List.mem_cons.mp member with bracket | inside
    · exact absurd bracket (by decide)
    · exact not_mem_parameters List.mem_cons_self inside
  have spelled : sequence context ++ rest =
      escapeStart :: ('[' :: parameters context.numbers ++ 'm' :: rest) := by
    simp [sequence]
  rw [spelled, withoutEscapes]
  simp only [List.cons_append, List.head?_cons, and_self, ↓reduceIte]
  exact withoutEscapes_inside unfinished rest

theorem not_mem_sequence {c : Char} (mark : c ∈ marks) (context : Context) :
    c ∉ sequence context := by
  intro member
  have apart : ∀ d ∈ marks, d ∈ 'm' :: controls ∧ d ∉ [escapeStart, '[', 'm'] :=
    Text.forall_mem_of_all (by decide)
  rcases apart c mark with ⟨control, other⟩
  have split : sequence context = [escapeStart, '['] ++ parameters context.numbers ++ ['m'] := rfl
  rw [split] at member
  rcases List.mem_append.mp member with early | last
  · rcases List.mem_append.mp early with first | inside
    · exact other (List.mem_append_left ['m'] first)
    · exact not_mem_parameters control inside
  · exact other (List.mem_append_right [escapeStart, '['] last)

theorem withoutMarks_append (first second : Text) :
    withoutMarks (first ++ second) = withoutMarks first ++ withoutMarks second :=
  List.filter_append first second

theorem withoutMarks_of_free {text : Text} (free : ∀ c ∈ marks, c ∉ text) :
    withoutMarks text = text := by
  apply List.filter_eq_self.mpr
  intro c member
  have kept : c ∉ marks := fun mark => free c mark member
  exact decide_eq_true kept

theorem mem_controls_of_mem_marks {c : Char} (mark : c ∈ marks) : c ∈ controls :=
  List.mem_cons_of_mem escapeStart mark

namespace Versions

variable {bare coloured marked : Text}

theorem withoutEscapes_eq (versions : Versions bare coloured marked) :
    withoutEscapes false coloured = bare := by
  induction versions with
  | nothing => rfl
  | @shown c bare coloured marked visible rest ih =>
    have other : c ≠ escapeStart := by
      intro same
      exact visible (same ▸ List.mem_cons_self)
    rw [withoutEscapes]
    simp only [other, false_and, ↓reduceIte, ih]
  | styled context rest ih => rw [withoutEscapes_sequence, ih]

theorem withoutMarks_eq (versions : Versions bare coloured marked) :
    withoutMarks marked = coloured := by
  induction versions with
  | nothing => rfl
  | @shown c bare coloured marked visible rest ih =>
    have kept : c ∉ marks := fun mark => visible (mem_controls_of_mem_marks mark)
    have alone : withoutMarks [c] = [c] := by
      simp [withoutMarks, kept]
    calc
      withoutMarks (c :: marked) = withoutMarks [c] ++ withoutMarks marked :=
        withoutMarks_append [c] marked
      _ = c :: coloured := by rw [alone, ih]; rfl
  | @styled context bare coloured marked rest ih =>
    have escape : withoutMarks (sequence context) = sequence context :=
      withoutMarks_of_free fun c mark => not_mem_sequence mark context
    calc
      withoutMarks (hiddenStart :: sequence context ++ hiddenEnd :: marked) =
          withoutMarks [hiddenStart] ++ withoutMarks (sequence context) ++
            (withoutMarks [hiddenEnd] ++ withoutMarks marked) := by
        simp only [← withoutMarks_append, List.cons_append, List.nil_append]
      _ = sequence context ++ coloured := by
        rw [escape, ih]
        rfl

theorem isMarked (versions : Versions bare coloured marked) : Marked marked := by
  induction versions with
  | nothing => exact .nothing
  | shown visible rest ih => exact .shown visible ih
  | @styled context bare coloured marked rest ih =>
    have plain : ∀ c ∈ 'm' :: controls, c ∉ parameters context.numbers :=
      fun c control => not_mem_parameters control
    have whole := Marked.escape plain ih
    simpa [sequence] using whole

theorem visible (versions : Versions bare coloured marked) : ∀ c ∈ bare, c ∉ controls := by
  induction versions with
  | nothing => simp
  | shown visible rest ih =>
    intro d member
    rcases List.mem_cons.mp member with rfl | later
    · exact visible
    · exact ih d later
  | styled context rest ih => exact ih

theorem plain {text : Text} (free : ∀ c ∈ controls, c ∉ text) : Versions text text text := by
  induction text with
  | nil => exact .nothing
  | cons c rest ih =>
    have visible : c ∉ controls := fun control => free c control List.mem_cons_self
    have later : ∀ d ∈ controls, d ∉ rest :=
      fun d control member => free d control (List.mem_cons_of_mem c member)
    exact .shown visible (ih later)

theorem append {bare' coloured' marked' : Text} (versions : Versions bare coloured marked)
    (later : Versions bare' coloured' marked') :
    Versions (bare ++ bare') (coloured ++ coloured') (marked ++ marked') := by
  induction versions with
  | nothing => exact later
  | shown visible rest ih => exact .shown visible ih
  | styled context rest ih =>
    have whole := Versions.styled context ih
    simpa using whole

theorem enclose (versions : Versions bare coloured marked) (bash : Bool)
    (inner outer : Context) :
    Versions (Display.enclose ⟨false, bash⟩ inner outer bare)
      (Display.enclose ⟨true, false⟩ inner outer coloured)
      (Display.enclose ⟨true, true⟩ inner outer marked) := by
  rw [enclose_colourless]
  have last : Versions [] (sequence outer) (hiddenStart :: sequence outer ++ [hiddenEnd]) := by
    have sent := Versions.styled outer .nothing
    simpa using sent
  have whole := Versions.styled inner (versions.append last)
  simpa [Display.enclose, escape] using whole

end Versions
end Display
end GitPrompt.Style
