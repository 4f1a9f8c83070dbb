import GitPrompt.Text

/-!
Lines at every line boundary and lines at line feeds: a text without any other boundary has the
same lines either way.
-/
namespace GitPrompt.Text

def FeedsOnly (text : Text) : Prop := ∀ c ∈ text, isLineBreak c = true → c = '\n'

instance (text : Text) : Decidable (FeedsOnly text) :=
  List.decidableBAll (fun c => isLineBreak c = true → c = '\n') text

theorem FeedsOnly.of_append {first second : Text} (feeds : FeedsOnly (first ++ second)) :
    FeedsOnly first ∧ FeedsOnly second :=
  ⟨fun c member => feeds c (List.mem_append_left second member),
    fun c member => feeds c (List.mem_append_right first member)⟩

theorem FeedsOnly.not_break {line : Text} (feeds : FeedsOnly line) (single : '\n' ∉ line) :
    ∀ c ∈ line, isLineBreak c = false := by
  intro c member
  cases breaks : isLineBreak c with
  | false => rfl
  | true =>
    have feed := feeds c member breaks
    subst feed
    exact absurd member single

theorem lines_feed (rest : Text) : lines ('\n' :: rest) = [] :: lines rest := by
  have breaks : isLineBreak '\n' = true := by decide
  rw [lines.eq_3 _ _ (by simp), if_pos breaks]

theorem lines_cons {c : Char} (inside : isLineBreak c = false) (rest : Text) :
    lines (c :: rest) = extendFirst c (lines rest) := by
  have other : c ≠ '\r' := by
    rintro rfl
    exact absurd inside (by decide)
  rw [lines.eq_3 _ _ (by simp [other]), if_neg (by simp [inside])]

theorem lines_line {line : Text} (whole : ∀ c ∈ line, isLineBreak c = false) (rest : Text) :
    lines (line ++ '\n' :: rest) = line :: lines rest := by
  induction line with
  | nil => exact lines_feed rest
  | cons c line ih =>
    rw [List.cons_append, lines_cons (whole c List.mem_cons_self),
      ih fun d member => whole d (List.mem_cons_of_mem c member)]
    rfl

theorem lines_last {line : Text} (whole : ∀ c ∈ line, isLineBreak c = false)
    (nonempty : line ≠ []) : lines line = [line] := by
  induction line with
  | nil => exact absurd rfl nonempty
  | cons c line ih =>
    rw [lines_cons (whole c List.mem_cons_self)]
    by_cases last : line = []
    · rw [last]
      rfl
    · rw [ih (fun d member => whole d (List.mem_cons_of_mem c member)) last]
      rfl

theorem exists_lines {before : Text} (feeds : FeedsOnly before)
    (ended : before = [] ∨ before.getLast? = some '\n') :
    ∃ earlier, earlier.length = before.count '\n' ∧
      ∀ rest, lines (before ++ rest) = earlier ++ lines rest := by
  induction before with
  | nil => exact ⟨[], rfl, fun rest => rfl⟩
  | cons c tail ih =>
    have later : FeedsOnly tail := fun d member => feeds d (List.mem_cons_of_mem c member)
    have last : (c :: tail).getLast? = some '\n' := ended.resolve_left (List.cons_ne_nil c tail)
    by_cases feed : c = '\n'
    · subst feed
      have ended : tail = [] ∨ tail.getLast? = some '\n' := by
        cases tail with
        | nil => exact .inl rfl
        | cons d others => exact .inr last
      rcases ih later ended with ⟨earlier, number, split⟩
      refine ⟨[] :: earlier, by simp [number], ?_⟩
      intro rest
      rw [List.cons_append, lines_feed, split, List.cons_append]
    · -- the line that `c` begins is ended in the tail, so the tail has a first line to extend
      cases tail with
      | nil => exact absurd (Option.some.inj last) feed
      | cons d others =>
        have inside : isLineBreak c = false :=
          Bool.eq_false_iff.mpr fun breaks => feed (feeds c List.mem_cons_self breaks)
        have ended : (d :: others).getLast? = some '\n' := last
        rcases ih later (.inr ended) with ⟨earlier, number, split⟩
        have found : 0 < (d :: others).count '\n' :=
          List.count_pos_iff.mpr (List.mem_of_getLast? ended)
        obtain ⟨first, following, rfl⟩ : ∃ first following, earlier = first :: following :=
          List.exists_cons_of_length_pos (by omega)
        refine ⟨(c :: first) :: following, by rw [List.count_cons_of_ne feed, ← number]; rfl, ?_⟩
        intro rest
        rw [List.cons_append, lines_cons inside, split]
        rfl

end GitPrompt.Text
