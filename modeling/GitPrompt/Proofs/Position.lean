import GitPrompt.Position

/-!
The line around a place of a text, told by the line feeds next to it, and the position of the
place: its number counts the line feeds before the line, its column what stands between.
-/
namespace GitPrompt

namespace Position

/-- The text of a line is what stands between the line feeds around a place, or the ends of the
source. A line feed belongs to the line that it ends. -/
structure LineAt (source : Text) (place : Nat) (before line after : Text) : Prop where
  whole : source = before ++ line ++ after
  single : '\n' ∉ line
  begins : before = [] ∨ before.getLast? = some '\n'
  ends : after = [] ∨ after.head? = some '\n'
  lower : before.length ≤ place
  upper : place ≤ before.length + line.length

theorem takeWhile_single {line rest : Text} (single : '\n' ∉ line)
    (stops : rest = [] ∨ rest.head? = some '\n') :
    (line ++ rest).takeWhile (· ≠ '\n') = line := by
  have inside : ∀ c ∈ line, decide (c ≠ '\n') = true := by
    intro c member
    refine decide_eq_true ?_
    rintro rfl
    exact single member
  have stop : rest.takeWhile (· ≠ '\n') = [] := by
    rcases stops with rfl | head
    · rfl
    · rcases List.head?_eq_some_iff.mp head with ⟨tail, rfl⟩
      rfl
  rw [List.takeWhile_append_of_pos inside, stop, List.append_nil]

theorem lastLine_append {before line : Text} (single : '\n' ∉ line)
    (begins : before = [] ∨ before.getLast? = some '\n') : lastLine (before ++ line) = line := by
  have stops : before.reverse = [] ∨ before.reverse.head? = some '\n' := by
    simpa using begins
  have clean : '\n' ∉ line.reverse := by
    simpa using single
  rw [lastLine, List.reverse_append, takeWhile_single clean stops, List.reverse_reverse]

theorem exists_firstLine (text : Text) :
    ∃ line rest, text = line ++ rest ∧ '\n' ∉ line ∧ (rest = [] ∨ rest.head? = some '\n') := by
  induction text with
  | nil => exact ⟨[], [], rfl, List.not_mem_nil, .inl rfl⟩
  | cons c tail ih =>
    by_cases feed : c = '\n'
    · subst feed
      exact ⟨[], '\n' :: tail, rfl, List.not_mem_nil, .inr rfl⟩
    · rcases ih with ⟨line, rest, rfl, single, stops⟩
      refine ⟨c :: line, rest, rfl, ?_, stops⟩
      intro member
      rcases List.mem_cons.mp member with same | later
      · exact feed same.symm
      · exact single later

theorem exists_lastLine (text : Text) :
    ∃ before line, text = before ++ line ∧ '\n' ∉ line ∧
      (before = [] ∨ before.getLast? = some '\n') := by
  rcases exists_firstLine text.reverse with ⟨line, rest, reversed, single, stops⟩
  refine ⟨rest.reverse, line.reverse, ?_, by simpa using single, by simpa using stops⟩
  rw [← List.reverse_append, ← reversed, List.reverse_reverse]

theorem exists_lineAt {source : Text} {place : Nat} (inside : place ≤ source.length) :
    ∃ before line after, LineAt source place before line after := by
  rcases exists_lastLine (source.take place) with ⟨before, start, first, early, begins⟩
  rcases exists_firstLine (source.drop place) with ⟨tail, after, last, late, ends⟩
  have length : before.length + start.length = place := by
    rw [← List.length_append, ← first, List.length_take, Nat.min_eq_left inside]
  have whole : source = before ++ (start ++ tail) ++ after := by
    calc
      source = source.take place ++ source.drop place := (List.take_append_drop place source).symm
      _ = before ++ start ++ (tail ++ after) := by rw [first, last]
      _ = before ++ (start ++ tail) ++ after := by simp
  have single : '\n' ∉ start ++ tail := by
    intro member
    rcases List.mem_append.mp member with left | right
    · exact early left
    · exact late right
  refine ⟨before, start ++ tail, after, whole, single, begins, ends, by omega, ?_⟩
  rw [List.length_append]
  omega

namespace LineAt

variable {source before line after : Text} {place : Nat}

theorem take_eq (around : LineAt source place before line after) :
    source.take place = before ++ line.take (place - before.length) := by
  have upper := around.upper
  have rest : place - before.length - line.length = 0 := by omega
  rw [around.whole, List.append_assoc, List.take_append, List.take_append,
    List.take_of_length_le around.lower, rest, List.take_zero, List.append_nil]

theorem inside (around : LineAt source place before line after) : place ≤ source.length := by
  have upper := around.upper
  rw [around.whole, List.length_append, List.length_append]
  omega

theorem lastLine_eq (around : LineAt source place before line after) :
    lastLine (source.take place) = line.take (place - before.length) := by
  have single : '\n' ∉ line.take (place - before.length) :=
    fun member => around.single (List.mem_of_mem_take member)
  rw [around.take_eq, lastLine_append single around.begins]

theorem length_lastLine (around : LineAt source place before line after) :
    (lastLine (source.take place)).length = place - before.length := by
  have upper := around.upper
  rw [around.lastLine_eq, List.length_take, Nat.min_eq_left (by omega)]

theorem unique (around : LineAt source place before line after) {first other last : Text}
    (again : LineAt source place first other last) : first = before ∧ other = line := by
  have lengths : first.length = before.length := by
    have column := around.length_lastLine.symm.trans again.length_lastLine
    have lower := around.lower
    have lower' := again.lower
    omega
  have split : first ++ (other ++ last) = before ++ (line ++ after) := by
    rw [← List.append_assoc, ← List.append_assoc, ← around.whole, ← again.whole]
  rcases List.append_inj split lengths with ⟨same, rest⟩
  refine ⟨same, ?_⟩
  rw [← takeWhile_single again.single again.ends, rest, takeWhile_single around.single around.ends]

theorem ofOffset_eq (around : LineAt source place before line after) :
    ofOffset source place = ⟨place, before.count '\n' + 1, place - before.length + 1⟩ := by
  have clamped : clamp source place = place := by
    rw [clamp, Int.toNat_natCast, Nat.min_eq_left around.inside]
  have feeds : (source.take place).count '\n' = before.count '\n' := by
    have single : '\n' ∉ line.take (place - before.length) :=
      fun member => around.single (List.mem_of_mem_take member)
    rw [around.take_eq, List.count_append, List.count_eq_zero_of_not_mem single, Nat.add_zero]
  simp only [ofOffset, clamped, feeds, around.length_lastLine, List.length_take,
    Nat.min_eq_left around.inside]

end LineAt

theorem ofOffset_offset (source : Text) (offset : Int) :
    ofOffset source (ofOffset source offset).offset = ofOffset source offset := by
  have clamped : clamp source (clamp source offset) = clamp source offset := by
    rw [clamp, Int.toNat_natCast, Nat.min_eq_left (clamp_le source offset)]
  rw [offset_ofOffset, ofOffset, clamped]
  rfl

end Position
end GitPrompt
