/-!
What stays of the writes of a fold, and where a fold that fails has stopped.
-/
namespace GitPrompt

theorem foldl_last_write {α β γ : Type} {step : β → α → β} {write : α → Option γ} (field : β → γ)
    (writes : ∀ state item, field (step state item) = (write item).getD (field state))
    (items : List α) (state : β) :
    field (items.foldl step state) = (items.filterMap write).getLast?.getD (field state) := by
  induction items generalizing state with
  | nil => rfl
  | cons item rest ih =>
    rw [List.foldl_cons, ih, writes]
    cases written : write item with
    | none => rw [List.filterMap_cons_none written, Option.getD_none]
    | some value =>
      rw [List.filterMap_cons_some written, List.getLast?_cons]
      simp

theorem exists_of_foldlM_error {ε α β : Type} {step : β → α → Except ε β} {items : List α}
    {state : β} {error : ε} (failed : items.foldlM step state = .error error) :
    ∃ before item after reached, items = before ++ item :: after ∧
      before.foldlM step state = .ok reached ∧ step reached item = .error error := by
  induction items generalizing state with
  | nil => cases failed
  | cons item rest ih =>
    rw [List.foldlM_cons] at failed
    cases outcome : step state item with
    | error found =>
      rw [outcome] at failed
      cases failed
      exact ⟨[], item, rest, state, rfl, rfl, outcome⟩
    | ok next =>
      rw [outcome] at failed
      rcases ih failed with ⟨before, found, after, reached, split, read, stopped⟩
      refine ⟨item :: before, found, after, reached, by rw [split]; rfl, ?_, stopped⟩
      rw [List.foldlM_cons, outcome]
      exact read

end GitPrompt
