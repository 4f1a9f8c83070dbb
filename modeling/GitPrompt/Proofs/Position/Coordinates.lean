import GitPrompt.Proofs.Position

/-!
Lines and columns as coordinates. Line feeds part a text into lines. The number of a line and a
column in it tell an offset, every offset of the text is told so, and by one pair only; in their
lexicographic order the pairs stand as the offsets do.
-/
namespace GitPrompt.Position

/-- The offset of the line that has so many lines above it. Each of them takes its characters and
one line feed. -/
def lineStart (lines : List Text) (number : Nat) : Nat :=
  (lines.take number).flatten.length + number

theorem lineStart_succ {lines : List Text} {number : Nat} {line : Text}
    (here : lines[number]? = some line) :
    lineStart lines (number + 1) = lineStart lines number + line.length + 1 := by
  have next : lines.take (number + 1) = lines.take number ++ [line] := by
    rw [List.take_add_one, here, Option.toList_some]
  rw [lineStart, lineStart, next]
  simp only [List.flatten_append, List.flatten_singleton, List.length_append]
  omega

theorem lineStart_mono (lines : List Text) {first second : Nat} (before : first ≤ second) :
    lineStart lines first ≤ lineStart lines second := by
  have split : lines.take second =
      lines.take first ++ (lines.drop first).take (second - first) := by
    rw [← List.take_add, Nat.add_sub_cancel' before]
  rw [lineStart, lineStart, split, List.flatten_append, List.length_append]
  omega

theorem exists_linesAbove {before : Text} (ended : before = [] ∨ before.getLast? = some '\n') :
    ∃ above : List Text, above.length = before.count '\n' ∧
      above.flatten.length + above.length = before.length ∧
      ∀ rest : Text, (before ++ rest).splitOn '\n' = above ++ rest.splitOn '\n' := by
  induction size : before.length using Nat.strongRecOn generalizing before with
  | ind size ih =>
    subst size
    rcases ended with rfl | last
    · exact ⟨[], rfl, rfl, fun rest => rfl⟩
    · rcases List.getLast?_eq_some_iff.mp last with ⟨text, rfl⟩
      rcases exists_lastLine text with ⟨first, line, rfl, single, begins⟩
      have shorter : first.length < (first ++ line ++ ['\n']).length := by
        simp only [List.length_append, List.length_singleton]
        omega
      rcases ih first.length shorter begins rfl with ⟨above, number, place, split⟩
      refine ⟨above ++ [line], ?_, ?_, ?_⟩
      · simp [number, List.count_eq_zero_of_not_mem single]
      · simp only [List.flatten_append, List.flatten_singleton, List.length_append,
          List.length_singleton]
        omega
      · intro rest
        calc
          (first ++ line ++ ['\n'] ++ rest).splitOn '\n'
              = (first ++ (line ++ '\n' :: rest)).splitOn '\n' := by simp
          _ = above ++ (line.splitOn '\n' ++ rest.splitOn '\n') := by
            rw [split, List.splitOn_append_cons_self]
          _ = above ++ [line] ++ rest.splitOn '\n' := by
            rw [List.splitOn_eq_singleton single, List.append_assoc]

theorem lineStart_length (source : Text) :
    lineStart (source.splitOn '\n') (source.splitOn '\n').length = source.length + 1 := by
  have ended : (source ++ ['\n']).getLast? = some '\n' := by simp
  rcases exists_linesAbove (.inr ended) with ⟨above, -, place, split⟩
  have lines : source.splitOn '\n' = above := by
    have whole := split []
    rw [List.append_nil, List.splitOn_append_cons_self] at whole
    exact List.append_cancel_right whole
  rw [lineStart, lines, List.take_length, place, List.length_append, List.length_singleton]

theorem LineAt.exists_lines {source before line after : Text} {place : Nat}
    (around : LineAt source place before line after) :
    ∃ above below : List Text, source.splitOn '\n' = above ++ line :: below ∧
      above.length = before.count '\n' ∧
      above.flatten.length + above.length = before.length := by
  rcases exists_linesAbove around.begins with ⟨above, number, start, split⟩
  have lines : source.splitOn '\n' = above ++ (line ++ after).splitOn '\n' := by
    rw [around.whole, List.append_assoc, split]
  rcases around.ends with rfl | follows
  · rw [List.append_nil, List.splitOn_eq_singleton around.single] at lines
    exact ⟨above, [], lines, number, start⟩
  · rcases List.head?_eq_some_iff.mp follows with ⟨rest, rfl⟩
    rw [List.splitOn_append_cons_self, List.splitOn_eq_singleton around.single] at lines
    exact ⟨above, rest.splitOn '\n', lines, number, start⟩

/-- The line is a line of the source, the column is inside it or at its end, and the two tell the
offset. -/
structure Coordinates (source : Text) (position : Position) : Prop where
  line_pos : 1 ≤ position.line
  line_le : position.line ≤ (source.splitOn '\n').length
  column_pos : 1 ≤ position.column
  column_le : ∃ line, (source.splitOn '\n')[position.line - 1]? = some line ∧
    position.column ≤ line.length + 1
  offset_eq : position.offset =
    lineStart (source.splitOn '\n') (position.line - 1) + (position.column - 1)

theorem coordinates_ofOffset (source : Text) (offset : Int) :
    Coordinates source (ofOffset source offset) := by
  rcases exists_lineAt (clamp_le source offset) with ⟨before, line, after, around⟩
  rcases around.exists_lines with ⟨above, below, lines, number, start⟩
  have lower := around.lower
  have upper := around.upper
  have position : ofOffset source offset = ⟨clamp source offset, above.length + 1,
      clamp source offset - before.length + 1⟩ := by
    rw [← ofOffset_offset, offset_ofOffset, around.ofOffset_eq, number]
  have first : lineStart (source.splitOn '\n') above.length = before.length := by
    rw [lineStart, lines, List.take_left, start]
  have column : clamp source offset - before.length ≤ line.length := by omega
  have told : clamp source offset = before.length + (clamp source offset - before.length) := by
    omega
  rw [position]
  exact
    { line_pos := Nat.le_add_left 1 above.length
      line_le := by simp [lines]
      column_pos := Nat.le_add_left 1 _
      column_le := ⟨line, by simp [lines], Nat.add_le_add_right column 1⟩
      offset_eq := by rwa [Nat.add_sub_cancel, Nat.add_sub_cancel, first] }

namespace Coordinates

variable {source : Text} {first second : Position}

theorem offset_lt (coordinates : Coordinates source first) :
    first.offset < lineStart (source.splitOn '\n') first.line := by
  rcases coordinates.column_le with ⟨line, here, inside⟩
  have next := lineStart_succ here
  have number := coordinates.line_pos
  have offset := coordinates.offset_eq
  rw [Nat.sub_add_cancel number] at next
  omega

theorem offset_le (coordinates : Coordinates source first) : first.offset ≤ source.length := by
  have below := lineStart_mono (source.splitOn '\n') coordinates.line_le
  have inside := coordinates.offset_lt
  rw [lineStart_length] at below
  omega

theorem offset_lt_of_line_lt (coordinates : Coordinates source first)
    (other : Coordinates source second) (above : first.line < second.line) :
    first.offset < second.offset := by
  have below := lineStart_mono (source.splitOn '\n') (Nat.le_sub_one_of_lt above)
  have inside := coordinates.offset_lt
  have offset := other.offset_eq
  omega

theorem lex_of_offset_lt (coordinates : Coordinates source first)
    (other : Coordinates source second) (before : first.offset < second.offset) :
    Prod.Lex (· < ·) (· < ·) (first.line, first.column) (second.line, second.column) := by
  rcases Nat.lt_trichotomy first.line second.line with above | same | below
  · exact .left _ _ above
  · have offset := coordinates.offset_eq
    have later := other.offset_eq
    rw [same] at offset ⊢
    have columns : first.column < second.column := by omega
    exact .right _ columns
  · have back := other.offset_lt_of_line_lt coordinates below
    omega

theorem eq_of_offset_eq (coordinates : Coordinates source first)
    (other : Coordinates source second) (same : first.offset = second.offset) :
    first = second := by
  have line : first.line = second.line := by
    rcases Nat.lt_trichotomy first.line second.line with above | equal | below
    · have before := coordinates.offset_lt_of_line_lt other above
      omega
    · exact equal
    · have before := other.offset_lt_of_line_lt coordinates below
      omega
  have column : first.column = second.column := by
    have offset := coordinates.offset_eq
    have later := other.offset_eq
    have inside := coordinates.column_pos
    have inside' := other.column_pos
    rw [line] at offset
    omega
  rcases first with ⟨offset, number, place⟩
  rcases second with ⟨offset', number', place'⟩
  simp only at same line column
  rw [same, line, column]

end Coordinates

/-- Offsets and their lines and columns are coordinates of the same places in the same order. -/
theorem ofOffset_exact (source : Text) :
    (∀ offset : Int, ((ofOffset source offset).offset : Int) = max 0 (min offset source.length) ∧
      Coordinates source (ofOffset source offset)) ∧
    (∀ position, Coordinates source position → ofOffset source position.offset = position) ∧
    (∀ first second : Nat, first < second → second ≤ source.length →
      Prod.Lex (· < ·) (· < ·)
        ((ofOffset source first).line, (ofOffset source first).column)
        ((ofOffset source second).line, (ofOffset source second).column)) ∧
    ∀ first second : Nat, first ≤ source.length → second ≤ source.length → first ≠ second →
      ((ofOffset source first).line, (ofOffset source first).column) ≠
        ((ofOffset source second).line, (ofOffset source second).column) := by
  refine ⟨?_, ?_, ?_, ?_⟩
  · intro offset
    refine ⟨?_, coordinates_ofOffset source offset⟩
    rw [offset_ofOffset, clamp]
    omega
  · intro position coordinates
    have offset := offset_ofOffset_natCast coordinates.offset_le
    exact (coordinates_ofOffset source position.offset).eq_of_offset_eq coordinates offset
  · intro first second before inside
    have earlier := offset_ofOffset_natCast (Nat.le_trans (Nat.le_of_lt before) inside)
    have later := offset_ofOffset_natCast inside
    apply (coordinates_ofOffset source first).lex_of_offset_lt (coordinates_ofOffset source second)
    rw [earlier, later]
    exact before
  · intro first second inside inside' other same
    rcases Prod.mk.inj same with ⟨line, column⟩
    have offset := (coordinates_ofOffset source first).offset_eq
    rw [line, column, ← (coordinates_ofOffset source second).offset_eq,
      offset_ofOffset_natCast inside, offset_ofOffset_natCast inside'] at offset
    exact other offset

theorem ofOffset_exact_feeds :
    ofOffset "a\n\nb".toList 1 = ⟨1, 1, 2⟩ ∧ ofOffset "a\n\nb".toList 2 = ⟨2, 2, 1⟩ ∧
      Coordinates "a\n\nb".toList ⟨2, 2, 1⟩ ∧
      Prod.Lex (· < ·) (· < ·) ((1 : Nat), (2 : Nat)) ((2 : Nat), (1 : Nat)) := by
  have feed : ofOffset "a\n\nb".toList 1 = ⟨1, 1, 2⟩ := by decide
  have empty : ofOffset "a\n\nb".toList 2 = ⟨2, 2, 1⟩ := by decide
  obtain ⟨coordinates, -, ordered, -⟩ := ofOffset_exact "a\n\nb".toList
  have second := (coordinates 2).2
  have later := ordered 1 2 (by decide) (by decide)
  rw [empty] at second
  exact ⟨feed, empty, second, later⟩

end GitPrompt.Position
