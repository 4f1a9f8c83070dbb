import GitPrompt.Snapshot

/-!
The fields that a format may name, one letter each.
-/
namespace GitPrompt

inductive Field
  | branch
  | tracking
  | count (which : Count)
  deriving DecidableEq, Repr

def maxCount : Int := 4294967295

namespace Field

def all : List Field :=
  [.branch, .tracking, .count .ahead, .count .behind, .count .unmerged, .count .stagedAdded,
   .count .untracked, .count .stagedModified, .count .unstagedModified, .count .stagedDeleted,
   .count .unstagedDeleted, .count .stagedRenamed, .count .stashed]

def letter : Field → Char
  | .branch => 'b'
  | .tracking => 'B'
  | .count .ahead => '+'
  | .count .behind => '-'
  | .count .unmerged => 'u'
  | .count .stagedAdded => 'A'
  | .count .untracked => 'a'
  | .count .stagedModified => 'M'
  | .count .unstagedModified => 'm'
  | .count .stagedDeleted => 'D'
  | .count .unstagedDeleted => 'd'
  | .count .stagedRenamed => 'R'
  | .count .stashed => 'h'

def ofLetter? (letter : Char) : Option Field := all.find? (·.letter == letter)

theorem letter_of_ofLetter? {letter : Char} {field : Field}
    (found : ofLetter? letter = some field) : field.letter = letter := by
  simpa using List.find?_some found

theorem ofLetter?_letter (field : Field) : ofLetter? field.letter = some field := by
  cases field with
  | branch => rfl
  | tracking => rfl
  | count which => cases which <;> rfl

def title : Field → String
  | .branch => "branch"
  | .tracking => "upstream"
  | .count which => which.title

def key : Field → String
  | .count which => which.key
  | field => field.title

def kind : Field → String
  | .count _ => "count"
  | _ => "text"

theorem nodup_keys : (all.map key).Nodup := by decide

/-- What is written before the value when no argument of the field renders. -/
def mark : Field → Text
  | .count which => [which.mark]
  | _ => []

def needsTracking : Field → Bool
  | .count which => which.needsTracking
  | _ => false

/-- An empty text counts as absent, and so does a count of zero. A count that cannot be
shown is the error. -/
def value (snapshot : Snapshot) : Field → Except Int (Option Text)
  | .branch => .ok (present snapshot.branch)
  | .tracking => .ok (snapshot.tracking.bind present)
  | .count which =>
    let number := snapshot.relevant which
    if number = 0 then .ok none
    else if number < 0 ∨ maxCount < number then .error number
    else .ok (some (Text.signed number))
where
  present (text : Text) : Option Text := if text = [] then none else some text

theorem exists_value_of_text {field : Field} (text : field.kind = "text") (snapshot : Snapshot) :
    ∃ shown, field.value snapshot = .ok shown := by
  cases field with
  | branch => exact ⟨_, rfl⟩
  | tracking => exact ⟨_, rfl⟩
  | count which => simp [kind] at text

theorem value_outsideRepository (field : Field) :
    field.value Snapshot.outsideRepository = .ok none := by
  cases field with
  | branch => rfl
  | tracking => rfl
  | count which => cases which <;> rfl

end Field
end GitPrompt
