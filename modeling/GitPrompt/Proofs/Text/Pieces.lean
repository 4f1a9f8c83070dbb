import GitPrompt.Text

/-!
The pieces of a text between its line breaks. Apart from empty ones they are its lines: no line
stands behind the last break, and one break may be two characters.
-/
namespace GitPrompt.Text

def pieces (text : Text) : List Text := text.splitOnP isLineBreak

def firstPiece (text : Text) : Text := text.takeWhile fun c => !isLineBreak c

def laterPieces (text : Text) : List Text := (pieces text).tail

theorem pieces_break {c : Char} (breaks : isLineBreak c = true) (text : Text) :
    pieces (c :: text) = [] :: pieces text := by
  rw [pieces, List.splitOnP_cons_eq_if_modifyHead, if_pos breaks]
  rfl

theorem pieces_cons {c : Char} (inside : isLineBreak c = false) (text : Text) :
    pieces (c :: text) = (pieces text).modifyHead (c :: ·) := by
  rw [pieces, List.splitOnP_cons_eq_if_modifyHead, if_neg (by simp [inside])]
  rfl

theorem pieces_eq (text : Text) : pieces text = firstPiece text :: laterPieces text := by
  induction text with
  | nil => rfl
  | cons c text ih =>
    cases inside : isLineBreak c with
    | true => simp [firstPiece, laterPieces, pieces_break inside, inside]
    | false =>
      have first : firstPiece (c :: text) = c :: firstPiece text :=
        List.takeWhile_cons_of_pos (by simp [inside])
      rw [laterPieces, pieces_cons inside, ih, first]
      rfl

theorem laterPieces_cons {c : Char} (inside : isLineBreak c = false) (text : Text) :
    laterPieces (c :: text) = laterPieces text := by
  rw [laterPieces, pieces_cons inside, pieces_eq]
  rfl

theorem pieces_feed (first rest : Text) :
    pieces (first ++ '\n' :: rest) = pieces first ++ pieces rest :=
  List.splitOnP_append_cons first rest (by decide)

theorem pieces_joined {texts : List Text} (some : texts ≠ []) :
    pieces (joined ['\n'] texts) = texts.flatMap pieces := by
  induction texts with
  | nil => exact absurd rfl some
  | cons first rest ih =>
    cases rest with
    | nil => simp [joined]
    | cons second rest =>
      have split : joined ['\n'] (first :: second :: rest) =
          first ++ '\n' :: joined ['\n'] (second :: rest) := by
        simp [joined, List.intercalate]
      rw [split, pieces_feed, ih (List.cons_ne_nil second rest)]
      rfl

theorem pieces_ended (texts : List Text) :
    pieces (texts.flatMap fun text => text ++ ['\n']) = texts.flatMap pieces ++ [[]] := by
  induction texts with
  | nil => rfl
  | cons first rest ih =>
    rw [List.flatMap_cons, List.append_assoc]
    change pieces (first ++ '\n' :: rest.flatMap fun text => text ++ ['\n']) = _
    rw [pieces_feed, ih, List.flatMap_cons, List.append_assoc]

section
variable {line : Text}

theorem pieces_line (whole : ∀ c ∈ line, isLineBreak c = false) : pieces line = [line] :=
  List.splitOnP_eq_singleton whole

theorem firstPiece_append (whole : ∀ c ∈ line, isLineBreak c = false) (rest : Text) :
    firstPiece (line ++ rest) = line ++ firstPiece rest :=
  List.takeWhile_append_of_pos fun c member => by simp [whole c member]

theorem laterPieces_append (whole : ∀ c ∈ line, isLineBreak c = false) (rest : Text) :
    laterPieces (line ++ rest) = laterPieces rest := by
  induction line with
  | nil => rfl
  | cons c line ih =>
    simp only [List.mem_cons, forall_eq_or_imp] at whole
    rw [List.cons_append, laterPieces_cons whole.1, ih whole.2]

end

section
variable {holds : Text → Bool}

theorem filter_of_headD (silent : holds [] = false) {texts later : List Text} {first : Text}
    (head : texts.headD [] = first) (tail : texts.tail.filter holds = later.filter holds) :
    texts.filter holds = (first :: later).filter holds := by
  subst head
  cases texts with
  | nil =>
    rw [List.filter_cons_of_neg (by simp [silent])]
    exact tail
  | cons line rest =>
    change (line :: rest).filter holds = (line :: later).filter holds
    rw [List.filter_cons, List.filter_cons, ← tail]
    rfl

theorem lines_agree (silent : holds [] = false) (text : Text) :
    (lines text).headD [] = firstPiece text ∧
      (lines text).tail.filter holds = (laterPieces text).filter holds := by
  fun_induction lines text with
  | case1 => exact ⟨rfl, rfl⟩
  | case2 rest ih =>
    refine ⟨rfl, ?_⟩
    have pair : laterPieces ('\r' :: '\n' :: rest) = [] :: firstPiece rest :: laterPieces rest := by
      rw [laterPieces, pieces_break (by decide), pieces_break (by decide), pieces_eq]
      rfl
    rw [pair, List.filter_cons_of_neg (by simp [silent])]
    exact filter_of_headD silent ih.1 ih.2
  | case3 c rest single breaks ih =>
    refine ⟨by simp [firstPiece, breaks], ?_⟩
    rw [laterPieces, pieces_break breaks, pieces_eq]
    exact filter_of_headD silent ih.1 ih.2
  | case4 c rest single whole ih =>
    have inside : isLineBreak c = false := by simpa using whole
    rw [laterPieces_cons inside, ← ih.2]
    have first : firstPiece (c :: rest) = c :: firstPiece rest :=
      List.takeWhile_cons_of_pos (by simp [inside])
    rw [first, ← ih.1]
    cases lines rest with
    | nil => exact ⟨rfl, rfl⟩
    | cons line others => exact ⟨rfl, rfl⟩

theorem filter_lines (silent : holds [] = false) (text : Text) :
    (lines text).filter holds = (pieces text).filter holds := by
  rw [pieces_eq]
  exact filter_of_headD silent (lines_agree silent text).1 (lines_agree silent text).2

theorem filter_lines_joined (silent : holds [] = false) (texts : List Text) :
    (lines (joined ['\n'] texts)).filter holds =
      texts.flatMap fun text => (pieces text).filter holds := by
  rw [filter_lines silent]
  cases texts with
  | nil => simp [joined, pieces, silent]
  | cons first rest => rw [pieces_joined (List.cons_ne_nil first rest), List.filter_flatMap]

end

end GitPrompt.Text
