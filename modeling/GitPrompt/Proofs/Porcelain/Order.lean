import GitPrompt.Proofs.Porcelain.Headers
import GitPrompt.Proofs.Porcelain.Records
import GitPrompt.Proofs.Text.Decimal

/-!
The order of the lines of a status. Files are counted, so it tells nothing where the line of a file
stands, and of the headers only the order of those with the same key matters.
-/
namespace GitPrompt.Porcelain

open Text (isLineBreak joined)

def isHeader (line : Text) : Bool := line.take 2 == ['#', ' ']

def headersOf (lines : List Text) : List Text := (lines.filter isHeader).map (List.drop 2)

def keyed (key line : Text) : Bool := isHeader line && headerKey (line.drop 2) == key

theorem header?_ofLine (line : Text) :
    (Record.ofLine line).header? = if isHeader line then some (line.drop 2) else none := by
  simp only [isHeader, beq_iff_eq]
  unfold Record.ofLine
  split
  case h_1 => rfl
  case h_6 noHeader _ _ _ _ =>
    rw [if_neg fun start => (take_two_iff.mp start).elim noHeader]
    rfl
  all_goals rfl

theorem filterMap_header? (lines : List Text) :
    (lines.map Record.ofLine).filterMap Record.header? = headersOf lines := by
  rw [List.filterMap_map, headersOf, ← List.filterMap_eq_map, List.filterMap_filter]
  exact congrArg (List.filterMap · lines) (funext header?_ofLine)

theorem filterMap_headersOf (key : Text) (lines : List Text) :
    (headersOf lines).filterMap (valueUnder key) =
      (lines.filter (keyed key)).map fun line => headerValue (line.drop 2) := by
  rw [headersOf, List.filterMap_map, List.filterMap_filter, ← List.filterMap_eq_map,
    List.filterMap_filter]
  congr 1
  funext line
  cases header : isHeader line <;> simp [keyed, header, valueUnder]

section
variable {lines others : List Text}

theorem telling_whole (whole : ∀ line ∈ lines, ∀ c ∈ line, isLineBreak c = false) :
    telling (records (joined ['\n'] lines)) = telling (lines.map Record.ofLine) := by
  rw [telling_joined]
  induction lines with
  | nil => rfl
  | cons line rest ih =>
    simp only [List.mem_cons, forall_eq_or_imp] at whole
    rw [List.flatMap_cons, ih whole.2, Text.pieces_line whole.1, telling, telling, telling,
      ← List.filter_append]
    rfl

theorem branch_whole (whole : ∀ line ∈ lines, ∀ c ∈ line, isLineBreak c = false) :
    branch (records (joined ['\n'] lines)) = Branch.ofLast (headersOf lines) := by
  rw [← branch_telling, telling_whole whole, branch_telling, branch, foldl_read,
    filterMap_header?]

theorem countP_whole (whole : ∀ line ∈ lines, ∀ c ∈ line, isLineBreak c = false) (count : Count) :
    (records (joined ['\n'] lines)).countP (·.addsTo count) = lines.countP (counted count) := by
  rw [← countP_telling, telling_whole whole, countP_telling, List.countP_map]
  refine List.countP_congr fun line _ => ?_
  rw [← addsTo_ofLine]
  rfl

end

theorem Branch.ofLast_congr {headers others : List Text}
    (same : ∀ key, headers.filterMap (valueUnder key) = others.filterMap (valueUnder key)) :
    Branch.ofLast headers = Branch.ofLast others := by
  simp only [Branch.ofLast, lastUnder, lastDivergence, same]

theorem snapshot_congr {status other : Text}
    (same : branch (records status) = branch (records other))
    (counts : ∀ count, (records status).countP (·.addsTo count) =
      (records other).countP (·.addsTo count)) (stashed : Int) :
    snapshot status stashed = snapshot other stashed := by
  simp only [snapshot, same, counts]

/-- What the snapshot of a status says, told from its lines. -/
structure Tells (lines : List Text) (stashed : Int) (told : Snapshot) : Prop where
  tallies : ∀ count, count.isTally = true → told.count count = lines.countP (counted count)
  branch : told.branch = (Branch.ofLast (headersOf lines)).displayName
  tracking : told.tracking = (Branch.ofLast (headersOf lines)).tracking
  ahead : told.ahead = (Branch.ofLast (headersOf lines)).ahead
  behind : told.behind = (Branch.ofLast (headersOf lines)).behind
  natural : 0 ≤ stashed → ∀ count, 0 ≤ told.count count

theorem tells_whole {lines : List Text}
    (whole : ∀ line ∈ lines, ∀ c ∈ line, isLineBreak c = false) (stashed : Int) :
    Tells lines stashed (snapshot (joined ['\n'] lines) stashed) := by
  have read := branch_whole whole
  have tallies (count : Count) (tally : count.isTally = true) :
      (snapshot (joined ['\n'] lines) stashed).count count = lines.countP (counted count) := by
    rw [count_snapshot tally, countP_telling, countP_whole whole]
  constructor
  case tallies => exact tallies
  case branch => rw [← read]; rfl
  case tracking => rw [← read]; rfl
  case ahead => rw [← read]; rfl
  case behind => rw [← read]; rfl
  case natural =>
    intro natural count
    cases count
    case stashed => exact natural
    all_goals exact Int.natCast_nonneg _

/-- A status gives the same snapshot in every order that keeps the order of the headers with one
key. Its counts of files are numbers of lines, and so they add up; the rest of it is decided by the
last header with each key, for the divergence the last one with numbers that can be read. -/
theorem snapshot_of_order {lines others : List Text}
    (whole : ∀ line ∈ lines, ∀ c ∈ line, isLineBreak c = false) (perm : lines.Perm others)
    (order : ∀ key, lines.filter (keyed key) = others.filter (keyed key)) (stashed : Int) :
    snapshot (joined ['\n'] lines) stashed = snapshot (joined ['\n'] others) stashed ∧
      branch (records (joined ['\n'] lines)) = Branch.ofLast (headersOf lines) ∧
      Tells lines stashed (snapshot (joined ['\n'] lines) stashed) ∧
      ∀ more : List Text, (∀ line ∈ more, ∀ c ∈ line, isLineBreak c = false) →
        ∀ count, count.isTally = true →
          (snapshot (joined ['\n'] (lines ++ more)) stashed).count count =
            (snapshot (joined ['\n'] lines) stashed).count count +
              (snapshot (joined ['\n'] more) stashed).count count := by
  have whole' : ∀ line ∈ others, ∀ c ∈ line, isLineBreak c = false :=
    fun line member => whole line (perm.mem_iff.mpr member)
  refine ⟨?_, branch_whole whole, tells_whole whole stashed, ?_⟩
  · apply snapshot_congr
    · rw [branch_whole whole, branch_whole whole']
      apply Branch.ofLast_congr
      intro key
      rw [filterMap_headersOf, filterMap_headersOf, order]
    · intro count
      rw [countP_whole whole, countP_whole whole', perm.countP_eq]
  · intro more whole'' count tally
    have both : ∀ line ∈ lines ++ more, ∀ c ∈ line, isLineBreak c = false := by
      intro line member
      rcases List.mem_append.mp member with early | late
      · exact whole line early
      · exact whole'' line late
    have sum := (tells_whole both stashed).tallies count tally
    have first := (tells_whole whole stashed).tallies count tally
    have second := (tells_whole whole'' stashed).tallies count tally
    rw [sum, first, second, List.countP_append]
    exact Int.natCast_add _ _

theorem snapshot_of_order_mixed :
    let lines := ["# branch.head a", "? x", "# branch.ab +1 -0", "# branch.ab ?", "1 MM y"].map
      String.toList
    let others := ["1 MM y", "# branch.ab +1 -0", "? x", "# branch.ab ?", "# branch.head a"].map
      String.toList
    (∀ line ∈ lines, ∀ c ∈ line, isLineBreak c = false) ∧ lines.Perm others ∧
      (∀ key, lines.filter (keyed key) = others.filter (keyed key)) ∧
      snapshot (joined ['\n'] lines) 0 = snapshot (joined ['\n'] others) 0 ∧
      Tells lines 0 (snapshot (joined ['\n'] lines) 0) := by
  intro lines others
  have checked : ∀ line ∈ lines,
      line.all (fun c => decide (isLineBreak c = false)) = true := by decide
  have whole : ∀ line ∈ lines, ∀ c ∈ line, isLineBreak c = false :=
    fun line member => Text.forall_mem_of_all (checked line member)
  have perm : lines.Perm others := by decide
  have order (key : Text) : lines.filter (keyed key) = others.filter (keyed key) := by
    have keys : ∀ line ∈ lines, isHeader line = true → headerKey (line.drop 2) =
        "branch.head".toList ∨ headerKey (line.drop 2) = "branch.ab".toList := by decide
    by_cases head : key = "branch.head".toList
    · subst head
      decide
    by_cases divergence : key = "branch.ab".toList
    · subst divergence
      decide
    have none : ∀ line ∈ lines, ¬ keyed key line = true := by
      intro line member under
      simp only [keyed, Bool.and_eq_true, beq_iff_eq] at under
      rcases keys line member under.1 with same | same
      · exact head (under.2.symm.trans same)
      · exact divergence (under.2.symm.trans same)
    rw [List.filter_eq_nil_iff.mpr none, List.filter_eq_nil_iff.mpr fun line member =>
      none line (perm.mem_iff.mpr member)]
  have told := snapshot_of_order whole perm order 0
  exact ⟨whole, perm, order, told.1, told.2.2.1⟩

end GitPrompt.Porcelain
