import GitPrompt.Porcelain
import GitPrompt.Proofs.Folding
import GitPrompt.Proofs.Text.Decimal

/-!
The headers of a status. Each one writes one thing about the branch, so of the headers with one key
the last one stays.
-/
namespace GitPrompt.Porcelain

def valueUnder (key header : Text) : Option Text :=
  if headerKey header = key then some (headerValue header) else none

def known (word value : Text) : Option Text := if value = word then none else some value

theorem Branch.read_eq (branch : Branch) (header : Text) :
    branch.read header =
      { id := ((valueUnder "branch.oid".toList header).map (known "(initial)".toList)).getD
          branch.id
        head := ((valueUnder "branch.head".toList header).map (known "(detached)".toList)).getD
          branch.head
        tracking := ((valueUnder "branch.upstream".toList header).map (known [])).getD
          branch.tracking
        ahead := (((valueUnder "branch.ab".toList header).bind divergence?).getD
          (branch.ahead, branch.behind)).1
        behind := (((valueUnder "branch.ab".toList header).bind divergence?).getD
          (branch.ahead, branch.behind)).2 } := by
  have distinct : ["branch.oid".toList, "branch.head".toList, "branch.upstream".toList,
      "branch.ab".toList].Nodup := by decide
  unfold Branch.read valueUnder
  dsimp only
  -- that the keys differ is all that matters about them, so their characters are left out
  generalize "branch.oid".toList = oid, "branch.head".toList = head,
    "branch.upstream".toList = upstream, "branch.ab".toList = ab at distinct ⊢
  simp only [List.nodup_cons, List.mem_cons, List.not_mem_nil, or_false, not_or] at distinct
  generalize headerKey header = key, headerValue header = value, "(initial)".toList = initial,
    "(detached)".toList = detached
  by_cases isId : key = oid
  · subst isId
    simp [known, distinct]
  by_cases isHead : key = head
  · subst isHead
    simp [known, distinct, isId]
  by_cases isUpstream : key = upstream
  · subst isUpstream
    simp [known, distinct, isId, isHead]
  by_cases isDivergence : key = ab
  · subst isDivergence
    simp only [if_neg isId, if_neg isHead, if_neg isUpstream, if_true, Option.bind_some]
    cases divergence? value <;> rfl
  · simp [isId, isHead, isUpstream, isDivergence]

def lastUnder (key : Text) (headers : List Text) : Option Text :=
  (headers.filterMap (valueUnder key)).getLast?

/-- The numbers of the last header whose numbers can be read. -/
def lastDivergence (headers : List Text) : Option (Nat × Nat) :=
  ((headers.filterMap (valueUnder "branch.ab".toList)).filterMap divergence?).getLast?

def Branch.ofLast (headers : List Text) : Branch where
  id := (lastUnder "branch.oid".toList headers).bind (known "(initial)".toList)
  head := (lastUnder "branch.head".toList headers).bind (known "(detached)".toList)
  tracking := (lastUnder "branch.upstream".toList headers).bind (known [])
  ahead := ((lastDivergence headers).getD (0, 0)).1
  behind := ((lastDivergence headers).getD (0, 0)).2

theorem foldl_known (field : Branch → Option Text) {key word : Text} (start : field {} = none)
    (writes : ∀ branch header, field (Branch.read branch header) =
      ((valueUnder key header).map (known word)).getD (field branch)) (headers : List Text) :
    field (headers.foldl Branch.read {}) = (lastUnder key headers).bind (known word) := by
  rw [foldl_last_write field writes, start, lastUnder, ← List.map_filterMap, List.getLast?_map]
  cases (headers.filterMap (valueUnder key)).getLast? <;> rfl

theorem foldl_divergence (headers : List Text) :
    ((headers.foldl Branch.read {}).ahead, (headers.foldl Branch.read {}).behind) =
      (lastDivergence headers).getD (0, 0) := by
  have writes (branch : Branch) (header : Text) :
      ((branch.read header).ahead, (branch.read header).behind) =
        ((valueUnder "branch.ab".toList header).bind divergence?).getD
          (branch.ahead, branch.behind) := by
    rw [Branch.read_eq]
  rw [lastDivergence, List.filterMap_filterMap]
  exact foldl_last_write (fun branch : Branch => (branch.ahead, branch.behind)) writes headers {}

theorem foldl_read (headers : List Text) :
    headers.foldl Branch.read {} = Branch.ofLast headers := by
  have id := foldl_known Branch.id rfl (fun branch header => by rw [Branch.read_eq]) headers
  have head := foldl_known Branch.head rfl (fun branch header => by rw [Branch.read_eq]) headers
  have tracking :=
    foldl_known Branch.tracking rfl (fun branch header => by rw [Branch.read_eq]) headers
  have divergence := foldl_divergence headers
  rw [Branch.ofLast, ← id, ← head, ← tracking, ← divergence]

theorem divergenceDigits?_eq_some_iff {value ahead behind : Text} :
    divergenceDigits? value = some (ahead, behind) ↔
      value = '+' :: ahead ++ ' ' :: '-' :: behind ∧ ahead ≠ [] ∧ behind ≠ [] ∧
        (∀ c ∈ ahead, Text.isDigit c = true) ∧ ∀ c ∈ behind, Text.isDigit c = true := by
  constructor
  · intro read
    unfold divergenceDigits? at read
    split at read
    case h_1 rest =>
      dsimp only at read
      split at read
      case h_1 second tail =>
        split at read
        case isTrue holds =>
          rcases holds with ⟨some, some', digits⟩
          cases read
          refine ⟨?_, some, some', ?_, List.all_eq_true.mp digits⟩
          · rw [List.cons_append, ← tail, List.takeWhile_append_dropWhile]
          · exact fun c member => List.all_eq_true.mp List.all_takeWhile c member
        case isFalse => cases read
      case h_2 => cases read
    case h_2 => cases read
  · rintro ⟨rfl, some, some', digits, digits'⟩
    have space : Text.isDigit ' ' = false := by decide
    have front : (ahead ++ ' ' :: '-' :: behind).takeWhile Text.isDigit = ahead := by
      rw [List.takeWhile_append_of_pos digits, List.takeWhile_cons_of_neg (by simp [space]),
        List.append_nil]
    have back : (ahead ++ ' ' :: '-' :: behind).dropWhile Text.isDigit = ' ' :: '-' :: behind := by
      rw [List.dropWhile_append_of_pos digits, List.dropWhile_cons_of_neg (by simp [space])]
    have read : ahead ≠ [] ∧ behind ≠ [] ∧ behind.all Text.isDigit = true :=
      ⟨some, some', List.all_eq_true.mpr digits'⟩
    simp only [divergenceDigits?, List.cons_append, front, back, if_pos read]

theorem divergence?_eq_some_iff {value : Text} {ahead behind : Nat} :
    divergence? value = some (ahead, behind) ↔
      ∃ first second : Text, value = '+' :: first ++ ' ' :: '-' :: second ∧
        first ≠ [] ∧ second ≠ [] ∧ (∀ c ∈ first, Text.isDigit c = true) ∧
        (∀ c ∈ second, Text.isDigit c = true) ∧
        Text.numeral first = ahead ∧ Text.numeral second = behind := by
  rw [divergence?, Option.map_eq_some_iff]
  constructor
  · rintro ⟨⟨first, second⟩, read, same⟩
    cases same
    rcases divergenceDigits?_eq_some_iff.mp read with ⟨written, some, some', digits, digits'⟩
    exact ⟨first, second, written, some, some', digits, digits', rfl, rfl⟩
  · rintro ⟨first, second, written, some, some', digits, digits', rfl, rfl⟩
    exact ⟨(first, second),
      divergenceDigits?_eq_some_iff.mpr ⟨written, some, some', digits, digits'⟩, rfl⟩

/-- A header with a number that has more digits than the limit. Of two it is the first. -/
inductive TooLong (limit : Option Nat) (header : Text) : Text → Prop
  | ahead {value ahead behind : Text} (told : valueUnder "branch.ab".toList header = some value)
      (written : divergenceDigits? value = some (ahead, behind))
      (long : Text.Overlong limit ahead) : TooLong limit header ahead
  | behind {value ahead behind : Text} (told : valueUnder "branch.ab".toList header = some value)
      (written : divergenceDigits? value = some (ahead, behind))
      (short : ¬ Text.Overlong limit ahead) (long : Text.Overlong limit behind) :
      TooLong limit header behind

theorem TooLong.overlong {limit : Option Nat} {header digits : Text}
    (tooLong : TooLong limit header digits) : Text.Overlong limit digits := by
  cases tooLong with
  | ahead told written long => exact long
  | behind told written short long => exact long

theorem find?_overlong {limit : Option Nat} {ahead behind digits : Text} :
    [ahead, behind].find? (fun digits => (Text.number? limit digits).isNone) = some digits ↔
      Text.Overlong limit ahead ∧ digits = ahead ∨
        ¬ Text.Overlong limit ahead ∧ Text.Overlong limit behind ∧ digits = behind := by
  simp only [← Text.number?_eq_none, List.find?_cons, List.find?_nil]
  cases Text.number? limit ahead <;> cases Text.number? limit behind <;> simp [eq_comm]

theorem overlong?_eq_some_iff {limit : Option Nat} {header digits : Text} :
    overlong? limit header = some digits ↔ TooLong limit header digits := by
  have spelled : overlong? limit header =
      (valueUnder "branch.ab".toList header).bind fun value =>
        (divergenceDigits? value).bind fun pair =>
          [pair.1, pair.2].find? fun digits => (Text.number? limit digits).isNone := by
    unfold overlong? valueUnder
    split <;> rfl
  rw [spelled, Option.bind_eq_some_iff]
  constructor
  · rintro ⟨value, told, found⟩
    rcases Option.bind_eq_some_iff.mp found with ⟨⟨ahead, behind⟩, written, first⟩
    rcases find?_overlong.mp first with ⟨long, rfl⟩ | ⟨short, long, rfl⟩
    · exact .ahead told written long
    · exact .behind told written short long
  · intro tooLong
    cases tooLong with
    | ahead told written long =>
      refine ⟨_, told, Option.bind_eq_some_iff.mpr ⟨_, written, ?_⟩⟩
      exact find?_overlong.mpr (.inl ⟨long, rfl⟩)
    | behind told written short long =>
      refine ⟨_, told, Option.bind_eq_some_iff.mpr ⟨_, written, ?_⟩⟩
      exact find?_overlong.mpr (.inr ⟨short, long, rfl⟩)

/-- The first number of a status that has more digits than the limit. -/
def StatusTooLong (limit : Option Nat) (status digits : Text) : Prop :=
  ∃ before header after, (records status).filterMap Record.header? = before ++ header :: after ∧
    (∀ early ∈ before, ∀ other, ¬ TooLong limit early other) ∧ TooLong limit header digits

theorem StatusTooLong.overlong {limit : Option Nat} {status digits : Text}
    (tooLong : StatusTooLong limit status digits) : Text.Overlong limit digits := by
  rcases tooLong with ⟨before, header, after, -, -, found⟩
  exact found.overlong

theorem snapshotWithin_eq_error {limit : Option Nat} {status digits : Text} {stashed : Int} :
    snapshotWithin limit status stashed = .error digits ↔ StatusTooLong limit status digits := by
  have spelled : snapshotWithin limit status stashed = .error digits ↔
      ((records status).filterMap Record.header?).findSome? (overlong? limit) = some digits := by
    unfold snapshotWithin
    cases ((records status).filterMap Record.header?).findSome? (overlong? limit) <;> simp
  rw [spelled, List.findSome?_eq_some_iff]
  constructor
  · rintro ⟨before, header, after, split, found, others⟩
    refine ⟨before, header, after, split, ?_, overlong?_eq_some_iff.mp found⟩
    intro early member other tooLong
    cases (others early member).symm.trans (overlong?_eq_some_iff.mpr tooLong)
  · rintro ⟨before, header, after, split, others, found⟩
    refine ⟨before, header, after, split, overlong?_eq_some_iff.mpr found, ?_⟩
    intro early member
    rw [Option.eq_none_iff_forall_ne_some]
    exact fun other same => others early member other (overlong?_eq_some_iff.mp same)

theorem snapshotWithin_of_clear {limit : Option Nat} {status : Text}
    (clear : ∀ digits, ¬ StatusTooLong limit status digits) (stashed : Int) :
    snapshotWithin limit status stashed = .ok (snapshot status stashed) := by
  cases read : snapshotWithin limit status stashed with
  | error digits => exact absurd (snapshotWithin_eq_error.mp read) (clear digits)
  | ok found =>
    unfold snapshotWithin at read
    split at read
    · cases read
    · rw [Except.ok.inj read]

end GitPrompt.Porcelain
