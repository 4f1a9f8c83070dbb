import GitPrompt.Proofs.Porcelain.Headers
import GitPrompt.Proofs.Text.Decimal
import GitPrompt.Proofs.Text.Trim

/-!
The headers that are written for a branch and what is read in them. Names lose the blanks at their
ends, so a branch is read back exactly if its names have none there.
-/
namespace GitPrompt.Porcelain

open Text (Trimmed decimal isBlank trim)

def headerLine (key value : Text) : Text := key ++ ' ' :: value

def divergence (ahead behind : Nat) : Text :=
  '+' :: decimal ahead ++ ' ' :: '-' :: decimal behind

/-- The headers that are written for a branch. Only a branch that follows another one can be ahead
of it or behind it. -/
def headers (id head tracking : Option Text) (ahead behind : Nat) : List Text :=
  let commit := headerLine "branch.oid".toList (id.getD "(initial)".toList)
  let current := headerLine "branch.head".toList (head.getD "(detached)".toList)
  match tracking with
  | none => [commit, current]
  | some name => [commit, current, headerLine "branch.upstream".toList name,
      headerLine "branch.ab".toList (divergence ahead behind)]

def IsCommit (name : Text) : Prop := 40 ≤ name.length ∧ ∀ c ∈ name, c.isHexDigit = true

structure IsBranch (name : Text) : Prop where
  nonempty : name ≠ []
  visible : ∀ c ∈ name, 0x20 < c.toNat ∧ c.toNat ≠ 0x7f
  attached : name ≠ "(detached)".toList

section
variable {key : Text}

theorem headerKey_headerLine (plain : ' ' ∉ key) (value : Text) :
    headerKey (headerLine key value) = key := by
  rw [headerKey, headerLine, List.takeWhile_append_of_pos, List.takeWhile_cons_of_neg (by simp),
    List.append_nil]
  exact fun c member => decide_eq_true fun same => plain (same ▸ member)

theorem headerValue_headerLine (plain : ' ' ∉ key) (value : Text) :
    headerValue (headerLine key value) = trim value := by
  rw [headerValue, headerLine, List.dropWhile_append_of_pos,
    List.dropWhile_cons_of_neg (by simp), List.drop_one, List.tail_cons]
  exact fun c member => decide_eq_true fun same => plain (same ▸ member)

end

theorem trimmed_divergence (ahead behind : Nat) : Trimmed (divergence ahead behind) := by
  have plus : isBlank '+' = false := by decide
  refine ⟨by simp [divergence, plus], fun c last => ?_⟩
  rcases List.eq_nil_or_concat (decimal behind) with empty | ⟨front, final, split⟩
  · exact absurd empty (Text.decimal_ne_nil behind)
  · have whole : divergence ahead behind =
        ('+' :: decimal ahead ++ ' ' :: '-' :: front) ++ [final] := by
      simp [divergence, split]
    rw [whole, List.getLast?_concat] at last
    cases last
    have digit : c.isDigit = true := Text.isDigit_of_mem_decimal (n := behind) (by simp [split])
    exact Text.isBlank_of_isDigit digit

theorem divergence?_divergence (ahead behind : Nat) :
    divergence? (divergence ahead behind) = some (ahead, behind) := by
  have digits (n : Nat) : ∀ c ∈ decimal n, Text.isDigit c = true := by
    intro c member
    rw [Text.isDigit, Text.digitValue?_of_isDigit (Text.isDigit_of_mem_decimal member)]
    rfl
  exact divergence?_eq_some_iff.mpr ⟨decimal ahead, decimal behind, rfl, Text.decimal_ne_nil ahead,
    Text.decimal_ne_nil behind, digits ahead, digits behind, Text.numeral_decimal ahead,
    Text.numeral_decimal behind⟩

section
variable (branch : Branch) (value : Text)

theorem read_id : branch.read (headerLine "branch.oid".toList value) =
    { branch with id := known "(initial)".toList (trim value) } := by
  rw [Branch.read, headerKey_headerLine (by decide), headerValue_headerLine (by decide)]
  rfl

theorem read_head : branch.read (headerLine "branch.head".toList value) =
    { branch with head := known "(detached)".toList (trim value) } := by
  rw [Branch.read, headerKey_headerLine (by decide), headerValue_headerLine (by decide)]
  rfl

theorem read_tracking : branch.read (headerLine "branch.upstream".toList value) =
    { branch with tracking := known [] (trim value) } := by
  rw [Branch.read, headerKey_headerLine (by decide), headerValue_headerLine (by decide)]
  rfl

theorem read_divergence (ahead behind : Nat) :
    branch.read (headerLine "branch.ab".toList (divergence ahead behind)) =
      { branch with ahead, behind } := by
  rw [Branch.read, headerKey_headerLine (by decide), headerValue_headerLine (by decide),
    Text.trim_eq_self_iff.mpr (trimmed_divergence ahead behind), divergence?_divergence]
  rfl

end

theorem foldl_headers (id head tracking : Option Text) (ahead behind : Nat) :
    (headers id head tracking ahead behind).foldl Branch.read {} =
      { id := known "(initial)".toList (trim (id.getD "(initial)".toList))
        head := known "(detached)".toList (trim (head.getD "(detached)".toList))
        tracking := tracking.bind fun name => known [] (trim name)
        ahead := if tracking.isSome then ahead else 0
        behind := if tracking.isSome then behind else 0 } := by
  cases tracking with
  | none =>
    rw [headers, List.foldl_cons, List.foldl_cons, List.foldl_nil, read_id, read_head]
    rfl
  | some name =>
    rw [headers, List.foldl_cons, List.foldl_cons, List.foldl_cons, List.foldl_cons, List.foldl_nil,
      read_id, read_head, read_tracking, read_divergence]
    rfl

theorem known_trim_eq_iff {word name : Text} (other : name ≠ word) :
    known word (trim name) = some name ↔ Trimmed name := by
  rw [← Text.trim_eq_self_iff, known]
  constructor
  · intro same
    split at same
    · cases same
    · exact Option.some.inj same
  · intro same
    rw [same, if_neg other]

theorem known_commit {id : Option Text} (commit : ∀ name ∈ id, IsCommit name) :
    known "(initial)".toList (trim (id.getD "(initial)".toList)) = id := by
  cases id with
  | none => decide
  | some name =>
    have digits := (commit name rfl).2
    have other : name ≠ "(initial)".toList := by
      rintro rfl
      exact absurd (digits '(' (by decide)) (by decide)
    exact (known_trim_eq_iff other).mpr
      (Text.trimmed_of_not_blank fun c member => Text.isBlank_of_isHexDigit (digits c member))

theorem known_head (head : Option Text) :
    known "(detached)".toList (trim (head.getD "(detached)".toList)) =
      head.bind fun name => known "(detached)".toList (trim name) := by
  cases head with
  | none => decide
  | some name => rfl

theorem bind_known_eq_iff {word : Text} {names : Option Text}
    (other : ∀ name ∈ names, name ≠ word) :
    (names.bind fun name => known word (trim name)) = names ↔ ∀ name ∈ names, Trimmed name := by
  cases names with
  | none => simp
  | some name => simpa using known_trim_eq_iff (other name rfl)

theorem forall_mem_some {holds : Text → Prop} {name : Text} (here : holds name) :
    ∀ other ∈ some name, holds other := by
  intro other member
  obtain rfl := Option.some.inj member
  exact here

def commitName (id : Option Text) : Text := (id.map (List.take 8)).getD "HEAD".toList

theorem not_mem_commitName {id : Option Text} (commit : ∀ name ∈ id, IsCommit name) :
    '(' ∉ commitName id := by
  cases id with
  | none => decide
  | some name =>
    intro member
    have digit := (commit name rfl).2 '(' (List.mem_of_mem_take member)
    exact absurd digit (by decide)

theorem displayName_eq_iff {id head : Option Text} (commit : ∀ name ∈ id, IsCommit name)
    (attached : ∀ name ∈ head, name ≠ "(detached)".toList) (branch : Branch) :
    { branch with
        id := id
        head := head.bind fun name => known "(detached)".toList (trim name) }.displayName =
          head.getD (commitName id) ↔ ∀ name ∈ head, Trimmed name := by
  have unnamed : { branch with id := id, head := none }.displayName = commitName id := by
    cases id <;> rfl
  cases head with
  | none => exact iff_of_true unnamed fun name member => nomatch member
  | some name =>
    simp only [Option.bind_some, Option.getD_some, Option.mem_some_iff, forall_eq',
      ← Text.trim_eq_self_iff]
    by_cases detached : trim name = "(detached)".toList
    · -- no commit is shown by a name with a bracket in it
      have bracket : '(' ∈ name := Text.mem_of_mem_trim (by rw [detached]; decide)
      rw [known, if_pos detached, unnamed]
      refine iff_of_false (fun shown => ?_) fun same => attached name rfl (same.symm.trans detached)
      exact not_mem_commitName commit (shown ▸ bracket)
    · rw [known, if_neg detached]
      rfl

theorem read_headers_iff {id head tracking : Option Text} (commit : ∀ name ∈ id, IsCommit name)
    (current : ∀ name ∈ head, IsBranch name) (followed : ∀ name ∈ tracking, IsBranch name)
    (ahead behind : Nat) :
    let read := (headers id head tracking ahead behind).foldl Branch.read {}
    let branch : Branch := ⟨id, head, tracking, if tracking.isSome then ahead else 0,
      if tracking.isSome then behind else 0⟩
    read =
        { branch with
          head := head.bind fun name => known "(detached)".toList (trim name)
          tracking := tracking.bind fun name => known [] (trim name) } ∧
      (read = branch ↔ (∀ name ∈ head, Trimmed name) ∧ ∀ name ∈ tracking, Trimmed name) ∧
      (read.displayName = head.getD (commitName id) ↔ ∀ name ∈ head, Trimmed name) := by
  intro read branch
  have whole : read = { branch with
      head := head.bind fun name => known "(detached)".toList (trim name)
      tracking := tracking.bind fun name => known [] (trim name) } := by
    have folded : read = _ := foldl_headers id head tracking ahead behind
    rw [folded, known_commit commit, known_head]
  have attached := fun name member => (current name member).attached
  have nonempty := fun name member => (followed name member).nonempty
  refine ⟨whole, ?_, ?_⟩
  · rw [whole, ← bind_known_eq_iff attached, ← bind_known_eq_iff nonempty]
    constructor
    · intro same
      exact ⟨congrArg Branch.head same, congrArg Branch.tracking same⟩
    · rintro ⟨sameHead, sameTracking⟩
      rw [sameHead, sameTracking]
  · rw [whole]
    exact displayName_eq_iff commit attached branch

theorem read_headers_iff_wide :
    let id := some "1234567890abcdef1234567890abcdef12345678".toList
    let head := some "a\u3000b".toList
    let tracking := some "origin/a\u00a0".toList
    (∀ name ∈ id, IsCommit name) ∧ (∀ name ∈ head, IsBranch name) ∧
      (∀ name ∈ tracking, IsBranch name) ∧
      ((headers id head tracking 3 40).foldl Branch.read {}).displayName = "a\u3000b".toList ∧
      ((headers id head tracking 3 40).foldl Branch.read {}).tracking = "origin/a".toList := by
  intro id head tracking
  have commit : ∀ name ∈ id, IsCommit name :=
    forall_mem_some ⟨by decide, Text.forall_mem_of_all (by decide)⟩
  have current : ∀ name ∈ head, IsBranch name :=
    forall_mem_some ⟨by decide, Text.forall_mem_of_all (by decide), by decide⟩
  have followed : ∀ name ∈ tracking, IsBranch name :=
    forall_mem_some ⟨by decide, Text.forall_mem_of_all (by decide), by decide⟩
  have read := read_headers_iff commit current followed 3 40
  refine ⟨commit, current, followed, read.2.2.mpr (forall_mem_some (by decide)), ?_⟩
  rw [read.1]
  decide

/-- A branch may be named by the word for having none behind a blank, and is then not read. -/
theorem not_read_headers_blank :
    let id := some "1234567890abcdef1234567890abcdef12345678".toList
    let name := "\u00a0(detached)".toList
    (∀ name ∈ id, IsCommit name) ∧ IsBranch name ∧
      ((headers id (some name) none 0 0).foldl Branch.read {}).head = none ∧
      ((headers id (some name) none 0 0).foldl Branch.read {}).displayName =
        "12345678".toList := by
  intro id name
  have commit : ∀ name ∈ id, IsCommit name :=
    forall_mem_some ⟨by decide, Text.forall_mem_of_all (by decide)⟩
  have visible : IsBranch name := ⟨by decide, Text.forall_mem_of_all (by decide), by decide⟩
  exact ⟨commit, visible, by decide, by decide⟩

end GitPrompt.Porcelain
