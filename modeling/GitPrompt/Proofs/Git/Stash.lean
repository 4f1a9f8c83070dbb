import GitPrompt.Proofs.Git.Course
import GitPrompt.Proofs.Text.Decimal
import GitPrompt.Proofs.Text.Pieces
import GitPrompt.Proofs.Text.Trim

/-!
The number of stash entries. Each entry is listed on a line of its own, but a message may hold line
breaks, and what stands behind one of them is counted too unless it is blank.
-/
namespace GitPrompt

namespace Porcelain

open Text (decimal firstPiece isBlank isLineBreak laterPieces pieces trim)

def stashName (number : Nat) : Text := "stash@\x7b".toList ++ decimal number ++ "\x7d: ".toList

/-- The list of a stash, an entry to a line, numbered from `first` on. -/
def stashList (first : Nat) (messages : List Text) : Text :=
  (messages.zipIdx first).flatMap fun entry => stashName entry.2 ++ entry.1 ++ ['\n']

/-- What stands behind line breaks in the messages, but for the blanks. -/
def spilled (messages : List Text) : List Text :=
  (messages.flatMap laterPieces).filter fun line => trim line ≠ []

theorem stashName_whole (number : Nat) : ∀ c ∈ stashName number, isLineBreak c = false := by
  have start : ∀ c ∈ "stash@\x7b".toList, isLineBreak c = false :=
    Text.forall_mem_of_all (by decide)
  have stop : ∀ c ∈ "\x7d: ".toList, isLineBreak c = false := Text.forall_mem_of_all (by decide)
  intro c member
  rcases List.mem_append.mp member with early | late
  · rcases List.mem_append.mp early with first | digit
    · exact start c first
    · have visible := Text.isBlank_of_isDigit (Text.isDigit_of_mem_decimal digit)
      rw [Bool.eq_false_iff] at visible ⊢
      exact fun breaks => visible (Text.isBlank_of_isLineBreak breaks)
  · exact stop c late

theorem trim_stashName_ne_nil (number : Nat) (rest : Text) :
    trim (stashName number ++ rest) ≠ [] := by
  have first : 's' ∈ stashName number ++ rest :=
    List.mem_append_left _ (List.mem_append_left _ (List.mem_append_left _ (by decide)))
  intro blank
  exact absurd (Text.trim_eq_nil_iff.mp blank 's' first) (by decide)

theorem filter_entry (number : Nat) (message : Text) :
    (pieces (stashName number ++ message)).filter (fun line => trim line ≠ []) =
      (stashName number ++ firstPiece message) :: spilled [message] := by
  have whole := stashName_whole number
  have named := trim_stashName_ne_nil number (firstPiece message)
  rw [Text.pieces_eq, Text.firstPiece_append whole, Text.laterPieces_append whole,
    List.filter_cons_of_pos (by simpa using named), spilled, List.flatMap_singleton]

theorem spilled_cons (message : Text) (rest : List Text) :
    spilled (message :: rest) = spilled [message] ++ spilled rest := by
  rw [spilled, List.flatMap_cons, List.filter_append, spilled, spilled, List.flatMap_singleton]

theorem length_entries (first : Nat) (messages : List Text) :
    ((messages.zipIdx first).flatMap fun entry =>
        (pieces (stashName entry.2 ++ entry.1)).filter fun line => trim line ≠ []).length =
      messages.length + (spilled messages).length := by
  induction messages generalizing first with
  | nil => rfl
  | cons message rest ih =>
    rw [List.zipIdx_cons, List.flatMap_cons, List.length_append, ih, filter_entry,
      spilled_cons message rest]
    simp only [List.length_append, List.length_cons]
    omega

theorem stashCount_stashList (first : Nat) (messages : List Text) :
    stashCount (stashList first messages) = messages.length + (spilled messages).length := by
  have silent : decide (trim [] ≠ []) = false := by decide
  have entries : stashList first messages = ((messages.zipIdx first).map fun entry =>
      stashName entry.2 ++ entry.1).flatMap fun entry => entry ++ ['\n'] := by
    rw [List.flatMap_map]
    rfl
  rw [stashCount, List.countP_eq_length_filter, Text.filter_lines silent, entries,
    Text.pieces_ended, List.filter_append, List.filter_flatMap, List.flatMap_map,
    List.filter_cons_of_neg (by simp [silent]), List.filter_nil, List.append_nil]
  exact length_entries first messages

theorem spilled_eq_nil_iff {messages : List Text} :
    spilled messages = [] ↔
      ∀ message ∈ messages, ∀ line ∈ laterPieces message, ∀ c ∈ line, isBlank c = true := by
  simp only [spilled, List.filter_eq_nil_iff, List.mem_flatMap, decide_eq_true_eq,
    Decidable.not_not, Text.trim_eq_nil_iff]
  exact ⟨fun all message member line later => all line ⟨message, member, later⟩,
    fun all line ⟨message, member, later⟩ => all message member line later⟩

end Porcelain

namespace Git

variable {site : Site} {status list err err' : Text}

theorem readStashCount_outcome (listed : site.behaviour .stashList = .completed list err 0)
    (path : Option Given) :
    (readStashCount site path).outcome.1 = .ok (Porcelain.stashCount list) := by
  have comes : Session.Comes (readStashCount site path) (.ok (Porcelain.stashCount list))
      [Command.stashList.call path] [] := (output_passes listed path).bind (Session.comes_pure _)
  exact comes.outcome.1

theorem readStatus_outcome (inside : site.Passes .insideWorkTree)
    (told : site.behaviour .status = .completed status err 0)
    (listed : site.behaviour .stashList = .completed list err' 0) (path : Option Given) :
    (readStatus site path).outcome.1 =
      .ok (Porcelain.snapshot status (Porcelain.stashCount list)) := by
  have every := Site.Course.passes_of_finished inside told listed
  rcases readStatus_comes site path with ⟨commands, result, course, comes⟩
  rw [comes.outcome.1]
  cases course with
  | stopped order passed stops => exact absurd (every _) stops.not_passes
  | finished inside' told' listed' =>
    cases told.symm.trans told'
    cases listed.symm.trans listed'
    rfl

/-- The stash is counted by its entries exactly if behind the line breaks in their messages there
are only blanks, and what the status says makes no difference. -/
theorem readStashCount_eq (messages : List Text)
    (listed : site.behaviour .stashList = .completed (Porcelain.stashList 0 messages) err 0)
    (path : Option Given) :
    ∃ count, (readStashCount site path).outcome.1 = .ok count ∧
      count = messages.length + (Porcelain.spilled messages).length ∧
      (count = messages.length ↔ ∀ message ∈ messages, ∀ line ∈ Text.laterPieces message,
        ∀ c ∈ line, Text.isBlank c = true) ∧
      ∀ status err', site.Passes .insideWorkTree →
        site.behaviour .status = .completed status err' 0 →
          ∃ snapshot, (readStatus site path).outcome.1 = .ok snapshot ∧
            snapshot.stashed = count := by
  have number := Porcelain.stashCount_stashList 0 messages
  refine ⟨_, readStashCount_outcome listed path, number, ?_, ?_⟩
  · rw [number, ← Porcelain.spilled_eq_nil_iff, ← List.length_eq_zero_iff]
    omega
  · intro status err' inside told
    exact ⟨_, readStatus_outcome inside told listed path, rfl⟩

def Site.withStash (messages : List Text) : Site where
  directory := "/work".toList
  behaviour
    | .insideWorkTree => .completed "true\n".toList [] 0
    | .status => .completed "# branch.head main\n".toList [] 0
    | .stashList => .completed (Porcelain.stashList 0 messages) [] 0

theorem readStashCount_eq_blank :
    let messages := ["On main: a\u2028".toList, []]
    let site := Site.withStash messages
    site.behaviour .stashList = .completed (Porcelain.stashList 0 messages) [] 0 ∧
      (readStashCount site none).outcome.1 = .ok messages.length ∧
      ∃ snapshot, (readStatus site none).outcome.1 = .ok snapshot ∧ snapshot.stashed = 2 := by
  intro messages site
  have listed : site.behaviour .stashList = .completed (Porcelain.stashList 0 messages) [] 0 := rfl
  rcases readStashCount_eq messages listed none with ⟨count, returned, -, exactly, status⟩
  have checked : ∀ message ∈ messages, ∀ line ∈ Text.laterPieces message,
      line.all (fun c => decide (Text.isBlank c = true)) = true := by decide
  have blank : ∀ message ∈ messages, ∀ line ∈ Text.laterPieces message,
      ∀ c ∈ line, Text.isBlank c = true := fun message member line later =>
    Text.forall_mem_of_all (checked message member line later)
  obtain rfl : count = messages.length := exactly.mpr blank
  have inside : site.Passes .insideWorkTree := ⟨rfl, fun _ => by decide⟩
  exact ⟨listed, returned, status _ _ inside rfl⟩

/-- A message with a line separator counts twice. -/
theorem not_readStashCount_separator :
    let messages := ["On main: a\u2028b".toList]
    let site := Site.withStash messages
    (∀ message ∈ messages, '\n' ∉ message ∧ '\r' ∉ message) ∧
      site.behaviour .stashList = .completed (Porcelain.stashList 0 messages) [] 0 ∧
      (readStashCount site none).outcome.1 = .ok 2 := by
  intro messages site
  have two : Porcelain.stashCount (Porcelain.stashList 0 messages) = 2 := by decide
  exact ⟨by decide, rfl, two ▸ readStashCount_outcome rfl none⟩

end Git
end GitPrompt
