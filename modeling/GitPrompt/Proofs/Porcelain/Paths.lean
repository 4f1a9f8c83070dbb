import GitPrompt.Proofs.Porcelain.Records
import GitPrompt.Proofs.Text.Decimal
import Mathlib.Data.List.Forall2
import Mathlib.Data.List.TakeWhile

/-!
The paths in a status. What stands behind the state letters of an entry tells nothing by itself,
but a line break in it begins a line that is read for itself. So files are counted by their own
records exactly if no other record stands behind such a break.
-/
namespace GitPrompt.Porcelain

open Text (firstPiece isLineBreak joined laterPieces pieces)

/-- Records that are the same up to the state letters of an entry. -/
inductive Alike : Text → Text → Prop
  | same (record : Text) : Alike record record
  | tracked {kind : Char} (entry : kind ∈ ['1', '2']) (index worktree : Char) (path other : Text) :
      Alike (kind :: ' ' :: index :: worktree :: path) (kind :: ' ' :: index :: worktree :: other)
  | plain {kind : Char} (entry : kind ∈ ['u', '?', '!']) (path other : Text) :
      Alike (kind :: ' ' :: path) (kind :: ' ' :: other)

/-- What is read behind the first line break of a record. -/
def forged (record : Text) : List Record := telling ((laterPieces record).map Record.ofLine)

theorem Alike.ofLine_firstPiece {record other : Text} (alike : Alike record other) :
    Record.ofLine (firstPiece record) = Record.ofLine (firstPiece other) := by
  cases alike with
  | same => rfl
  | tracked entry index worktree path other =>
    have one : isLineBreak '1' = false := by decide
    have two : isLineBreak '2' = false := by decide
    have space : isLineBreak ' ' = false := by decide
    simp only [List.mem_cons, List.not_mem_nil, or_false] at entry
    -- a break in place of a state letter ends both first pieces there
    rcases entry with rfl | rfl <;>
      cases first : isLineBreak index <;> cases second : isLineBreak worktree <;>
      simp [firstPiece, Record.ofLine, one, two, space, first, second]
  | plain entry path other =>
    have space : isLineBreak ' ' = false := by decide
    have letters : isLineBreak 'u' = false ∧ isLineBreak '?' = false ∧ isLineBreak '!' = false := by
      decide
    simp only [List.mem_cons, List.not_mem_nil, or_false] at entry
    rcases entry with rfl | rfl | rfl <;> simp [firstPiece, Record.ofLine, space, letters]

theorem counted_congr {record other : Text} (letters : record.take 4 = other.take 4)
    (count : Count) : counted count record = counted count other := by
  have same {place : Nat} (inside : place < 4) : record[place]? = other[place]? := by
    rw [← List.getElem?_take_of_lt inside, letters, List.getElem?_take_of_lt inside]
  have start : record.take 2 = other.take 2 := by
    simpa [List.take_take] using congrArg (List.take 2) letters
  have index : record[2]? = other[2]? := same (by decide)
  have worktree : record[3]? = other[3]? := same (by decide)
  cases count <;> simp only [counted, isTracked, start, index, worktree]

theorem starts_firstPiece {first second : Char} (whole : isLineBreak first = false)
    (whole' : isLineBreak second = false) (line : Text) :
    ((firstPiece line).take 2 == [first, second]) = (line.take 2 == [first, second]) := by
  rw [Bool.eq_iff_iff, beq_iff_eq, beq_iff_eq, take_two_iff, take_two_iff]
  constructor
  · rintro ⟨rest, start⟩
    refine ⟨rest ++ line.dropWhile fun c => !isLineBreak c, ?_⟩
    conv_lhs => rw [← List.takeWhile_append_dropWhile (p := fun c => !isLineBreak c) (l := line)]
    rw [← firstPiece, start]
    rfl
  · rintro ⟨rest, rfl⟩
    exact ⟨firstPiece rest, by simp [firstPiece, whole, whole']⟩

theorem counted_firstPiece {record : Text}
    (letters : isTracked record = true → ∀ c ∈ record.take 4, isLineBreak c = false)
    (count : Count) : counted count (firstPiece record) = counted count record := by
  have starts {kind : Char} (whole : isLineBreak kind = false) :
      ((firstPiece record).take 2 == [kind, ' ']) = (record.take 2 == [kind, ' ']) :=
    starts_firstPiece whole (by decide) record
  have kinds : isTracked (firstPiece record) = isTracked record := by
    rw [isTracked, starts (by decide), starts (by decide), isTracked]
  cases tracked : isTracked record with
  | true =>
    apply counted_congr
    rw [firstPiece, List.take_takeWhile]
    exact List.takeWhile_eq_self_iff.mpr fun c member => by simp [letters tracked c member]
  | false =>
    rw [tracked] at kinds
    have unmerged := starts (by decide : isLineBreak 'u' = false)
    have untracked := starts (by decide : isLineBreak '?' = false)
    cases count <;> simp only [counted, kinds, tracked, unmerged, untracked, Bool.false_and]

theorem told_eq (record : Text) :
    telling ((pieces record).map Record.ofLine) =
      telling [Record.ofLine (firstPiece record)] ++ forged record := by
  rw [Text.pieces_eq, forged, telling, telling, telling, ← List.filter_append]
  rfl

theorem countP_told {records : List Text}
    (letters : ∀ record ∈ records, isTracked record = true →
      ∀ c ∈ record.take 4, isLineBreak c = false) (count : Count) :
    (records.flatMap fun record => telling ((pieces record).map Record.ofLine)).countP
        (·.addsTo count) =
      records.countP (counted count) + (records.flatMap forged).countP (·.addsTo count) := by
  induction records with
  | nil => rfl
  | cons record rest ih =>
    simp only [List.mem_cons, forall_eq_or_imp] at letters
    have own : (telling [Record.ofLine (firstPiece record)]).countP (·.addsTo count) =
        [record].countP (counted count) := by
      rw [countP_telling]
      simp [addsTo_ofLine, counted_firstPiece letters.1]
    rw [List.flatMap_cons, List.flatMap_cons, List.countP_append, List.countP_append, ih letters.2,
      told_eq, List.countP_append, own, List.countP_cons, List.countP_cons]
    simp only [List.countP_nil]
    omega

/-- Records whose paths differ give the same snapshot when the same is read behind the line breaks
in them. Where no state letter is a line break, each count of files is that of the records
themselves exactly if nothing that is read there adds to it, as when no path holds a line break. -/
theorem snapshot_of_alike {records others : List Text}
    (alike : List.Forall₂ (fun record other => Alike record other ∧ forged record = forged other)
      records others)
    (stashed : Int) :
    snapshot (joined ['\n'] records) stashed = snapshot (joined ['\n'] others) stashed ∧
      ((∀ record ∈ records, isTracked record = true →
          ∀ c ∈ record.take 4, isLineBreak c = false) →
        ∀ count, count.isTally = true →
          (snapshot (joined ['\n'] records) stashed).count count =
            records.countP (counted count) + (records.flatMap forged).countP (·.addsTo count) ∧
          ((snapshot (joined ['\n'] records) stashed).count count =
              records.countP (counted count) ↔
            ∀ record ∈ records, ∀ line ∈ forged record, line.addsTo count = false)) := by
  constructor
  · apply snapshot_eq_of_telling
    rw [telling_joined, telling_joined]
    induction alike with
    | nil => rfl
    | cons pair rest ih =>
      rw [List.flatMap_cons, List.flatMap_cons, told_eq, told_eq, pair.1.ofLine_firstPiece, pair.2,
        ih]
  · intro letters count tally
    have number := count_snapshot tally (joined ['\n'] records) stashed
    rw [telling_joined, countP_told letters] at number
    refine ⟨by rw [number]; exact Int.natCast_add _ _, ?_⟩
    rw [number]
    have none : (records.flatMap forged).countP (·.addsTo count) = 0 ↔
        ∀ record ∈ records, ∀ line ∈ forged record, line.addsTo count = false := by
      simp only [List.countP_eq_zero, List.mem_flatMap, Bool.not_eq_true]
      exact ⟨fun all record member line forged => all line ⟨record, member, forged⟩,
        fun all line ⟨record, member, forged⟩ => all record member line forged⟩
    rw [← none]
    omega

theorem snapshot_of_alike_broken :
    let records := ["1 MM a\u2028b".toList, "? c".toList]
    let others := ["1 MM a".toList, "? d\u2028".toList]
    List.Forall₂ (fun record other => Alike record other ∧ forged record = forged other)
        records others ∧
      (∀ record ∈ records, isTracked record = true → ∀ c ∈ record.take 4, isLineBreak c = false) ∧
      snapshot (joined ['\n'] records) 0 = snapshot (joined ['\n'] others) 0 ∧
      (snapshot (joined ['\n'] records) 0).count .untracked = 1 := by
  intro records others
  have changed : Alike "1 MM a\u2028b".toList "1 MM a".toList :=
    .tracked (by decide) 'M' 'M' [' ', 'a', '\u2028', 'b'] [' ', 'a']
  have untracked : Alike "? c".toList "? d\u2028".toList :=
    .plain (by decide) ['c'] ['d', '\u2028']
  have alike : List.Forall₂ (fun record other => Alike record other ∧ forged record = forged other)
      records others := .cons ⟨changed, by decide⟩ (.cons ⟨untracked, by decide⟩ .nil)
  have checked : ∀ record ∈ records,
      (record.take 4).all (fun c => decide (isLineBreak c = false)) = true := by decide
  have letters : ∀ record ∈ records, isTracked record = true →
      ∀ c ∈ record.take 4, isLineBreak c = false :=
    fun record member _ => Text.forall_mem_of_all (checked record member)
  have both := snapshot_of_alike alike 0
  exact ⟨alike, letters, both.1, (both.2 letters .untracked rfl).2.mpr (by decide)⟩

/-- A path with a line separator adds an entry that is no record. -/
theorem not_snapshot_of_alike_separator :
    let record := "? a\u2028? b".toList
    let other := "? ab".toList
    Alike record other ∧ '\n' ∉ record ∧ '\r' ∉ record ∧ '\n' ∉ other ∧ '\r' ∉ other ∧
      snapshot (joined ['\n'] [record]) 0 ≠ snapshot (joined ['\n'] [other]) 0 ∧
      (snapshot (joined ['\n'] [record]) 0).count .untracked = 2 ∧
      [record].countP (counted .untracked) = 1 := by
  intro record other
  refine ⟨.plain (by decide) ['a', '\u2028', '?', ' ', 'b'] ['a', 'b'], ?_⟩
  decide

end GitPrompt.Porcelain
