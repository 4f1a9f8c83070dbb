import GitPrompt.Git.Repository
import GitPrompt.Proofs.Git.Session

/-!
How asking git about a working tree goes, told from git's answers alone. The commands are called in
their order, and the first one that does not pass is the last one called.
-/
namespace GitPrompt.Git

namespace Answer

/-- Git did run, and found no working tree. -/
def Outside : Answer → Prop
  | .completed out _ code => code ≠ 0 ∨ Text.trim out ≠ "true".toList
  | _ => False

def Passes (command : Command) : Answer → Prop
  | .completed out _ code =>
    code = 0 ∧ (command = .insideWorkTree → Text.trim out = "true".toList)
  | _ => False

/-- How an answer that does not pass ends the session, for a working tree that is looked for at a
place. -/
inductive Stops (place : Text) : Command → Answer → Halt → Prop
  | notStarted (command : Command) (reason : Text) :
      Stops place command (.notStarted reason) (.git (.notStarted reason))
  | interrupted (command : Command) : Stops place command .interrupted .interrupted
  | outside {answer : Answer} (outside : answer.Outside) :
      Stops place .insideWorkTree answer (.git (.notARepository place))
  | failed {command : Command} (later : command ≠ .insideWorkTree) (out err : Text) {code : Int}
      (failure : code ≠ 0) :
      Stops place command (.completed out err code) (.git (.failed command (Text.trim err)))

variable {place : Text} {command : Command} {answer : Answer} {halt : Halt}

theorem passes_or_stops (place : Text) (command : Command) (answer : Answer) :
    answer.Passes command ∨ ∃ halt, answer.Stops place command halt := by
  cases answer with
  | notStarted reason => exact .inr ⟨_, .notStarted command reason⟩
  | interrupted => exact .inr ⟨_, .interrupted command⟩
  | completed out err code =>
    by_cases first : command = .insideWorkTree
    · subst first
      by_cases outside : code ≠ 0 ∨ Text.trim out ≠ "true".toList
      · exact .inr ⟨_, .outside outside⟩
      · simp only [ne_eq, not_or, Decidable.not_not] at outside
        exact .inl ⟨outside.1, fun _ => outside.2⟩
    · by_cases failure : code = 0
      · exact .inl ⟨failure, fun same => absurd same first⟩
      · exact .inr ⟨_, .failed first out err failure⟩

theorem Passes.completed (passes : answer.Passes command) :
    ∃ out err, answer = .completed out err 0 ∧
      (command = .insideWorkTree → Text.trim out = "true".toList) := by
  cases answer with
  | completed out err code =>
    rcases passes with ⟨rfl, inside⟩
    exact ⟨out, err, rfl, inside⟩
  | notStarted reason => cases passes
  | interrupted => cases passes

theorem Outside.not_passes (outside : answer.Outside) : ¬ answer.Passes .insideWorkTree := by
  cases answer with
  | completed out err code =>
    rintro ⟨success, inside⟩
    rcases outside with failure | other
    · exact failure success
    · exact other (inside rfl)
  | notStarted reason => exact fun passes => passes
  | interrupted => exact fun passes => passes

theorem Stops.not_passes (stops : answer.Stops place command halt) : ¬ answer.Passes command := by
  cases stops with
  | notStarted => exact fun passes => passes
  | interrupted => exact fun passes => passes
  | outside outside => exact outside.not_passes
  | failed later out err failure => exact fun passes => failure passes.1

theorem Stops.unique {other : Halt} (stops : answer.Stops place command halt)
    (again : answer.Stops place command other) : other = halt := by
  cases stops with
  | notStarted =>
    cases again with
    | notStarted => rfl
    | outside outside => cases outside
  | interrupted =>
    cases again with
    | interrupted => rfl
    | outside outside => cases outside
  | outside outside =>
    cases again with
    | notStarted => cases outside
    | interrupted => cases outside
    | outside => rfl
    | failed later => exact absurd rfl later
  | failed later out err failure =>
    cases again with
    | outside => exact absurd rfl later
    | failed => rfl

end Answer

namespace Site

variable {site : Site} {path : Option Given} {command : Command} {halt : Halt}

def Outside (site : Site) : Prop := (site.behaviour .insideWorkTree).Outside

def Passes (site : Site) (command : Command) : Prop := (site.behaviour command).Passes command

def Stops (site : Site) (path : Option Given) (command : Command) (halt : Halt) : Prop :=
  (site.behaviour command).Stops (named site path) command halt

theorem passes_or_stops (site : Site) (path : Option Given) (command : Command) :
    site.Passes command ∨ ∃ halt, site.Stops path command halt :=
  (site.behaviour command).passes_or_stops (named site path) command

/-- Nothing stops the session, and git tells a status and a list of stashed changes. -/
def Tells (site : Site) (status list : Text) : Prop :=
  site.Passes .insideWorkTree ∧ (∃ err, site.behaviour .status = .completed status err 0) ∧
    ∃ err, site.behaviour .stashList = .completed list err 0

/-- The commands that are called, and what the session comes to. -/
inductive Course (site : Site) (path : Option Given) :
    List Command → Except Halt Snapshot → Prop
  | stopped {before after : List Command} {command : Command} {halt : Halt}
      (order : Command.all = before ++ command :: after)
      (passed : ∀ earlier ∈ before, site.Passes earlier)
      (stops : site.Stops path command halt) :
      Course site path (before ++ [command]) (.error halt)
  | finished {status list err err' : Text} (inside : site.Passes .insideWorkTree)
      (told : site.behaviour .status = .completed status err 0)
      (listed : site.behaviour .stashList = .completed list err' 0) :
      Course site path Command.all (.ok (Porcelain.snapshot status (Porcelain.stashCount list)))

theorem Tells.course {status list : Text} (tells : site.Tells status list) (path : Option Given) :
    site.Course path Command.all
      (.ok (Porcelain.snapshot status (Porcelain.stashCount list))) := by
  rcases tells with ⟨inside, ⟨err, told⟩, ⟨err', listed⟩⟩
  exact .finished inside told listed

namespace Course

variable {commands : List Command} {result : Except Halt Snapshot}

theorem isPrefix (course : site.Course path commands result) : commands <+: Command.all := by
  cases course with
  | @stopped before after command halt order => exact ⟨after, by rw [order]; simp⟩
  | finished => exact List.prefix_refl _

theorem passes_of_finished {status list err err' : Text} (inside : site.Passes .insideWorkTree)
    (told : site.behaviour .status = .completed status err 0)
    (listed : site.behaviour .stashList = .completed list err' 0) (command : Command) :
    site.Passes command := by
  cases command with
  | insideWorkTree => exact inside
  | status =>
    unfold Passes
    rw [told]
    exact ⟨rfl, nofun⟩
  | stashList =>
    unfold Passes
    rw [listed]
    exact ⟨rfl, nofun⟩

theorem stopped_of_mem (course : site.Course path commands result) (called : command ∈ commands)
    (stops : site.Stops path command halt) : result = .error halt := by
  cases course with
  | stopped order passed last =>
    rcases List.mem_append.mp called with early | same
    · exact absurd (passed command early) stops.not_passes
    · cases List.mem_singleton.mp same
      rw [stops.unique last]
  | finished inside told listed =>
    exact absurd (passes_of_finished inside told listed command) stops.not_passes

theorem mem_iff (course : site.Course path commands result) {before after : List Command}
    (order : Command.all = before ++ command :: after) :
    command ∈ commands ↔ ∀ earlier ∈ before, site.Passes earlier := by
  cases course with
  | @stopped called rest last halt split passed stops =>
    have whole : Command.all = (called ++ [last]) ++ rest := by
      rw [split, List.append_assoc]
      rfl
    -- no command stands in the order twice, so none is called that stands after the last call
    have unique : ((called ++ [last]) ++ rest).Nodup := whole ▸ (by decide)
    have late (ended : last ∈ before) (member : command ∈ rest) :
        command ∈ called ++ [last] ↔ ∀ earlier ∈ before, site.Passes earlier := by
      refine ⟨fun early => ?_, fun all => absurd (all last ended) stops.not_passes⟩
      exact absurd rfl ((List.nodup_append.mp unique).2.2 command early command member)
    rcases List.append_eq_append_iff.mp (whole.symm.trans order) with
      ⟨between, rfl, tail⟩ | ⟨between, front, tail⟩
    · exact late (by simp) (by simp [tail])
    · cases between with
      | nil =>
        rw [List.append_nil] at front
        rw [List.nil_append] at tail
        exact late (by simp [← front]) (by simp [← tail])
      | cons first others =>
        cases tail
        have prior : called = before ++ (command :: others).dropLast := by
          rw [← List.dropLast_append_cons, ← front, List.dropLast_concat]
        refine ⟨fun _ earlier member => passed earlier ?_, fun _ => by simp [front]⟩
        rw [prior]
        exact List.mem_append_left _ member
  | finished inside told listed =>
    have every := passes_of_finished inside told listed
    have member : command ∈ Command.all := by
      rw [order]
      exact List.mem_append_right before List.mem_cons_self
    exact ⟨fun _ earlier _ => every earlier, fun _ => member⟩

theorem of_outside (course : site.Course path commands result) (outside : site.Outside) :
    commands = [.insideWorkTree] ∧ result = .error (.git (.notARepository (named site path))) := by
  have order : Command.all = [] ++ .insideWorkTree :: [.status, .stashList] := rfl
  have stops : site.Stops path .insideWorkTree (.git (.notARepository (named site path))) :=
    .outside outside
  have called := (course.mem_iff order).mpr nofun
  refine ⟨?_, course.stopped_of_mem called stops⟩
  cases course with
  | @stopped before after command halt order passed last =>
    cases before with
    | nil =>
      cases order
      rfl
    | cons first others =>
      have same : Command.insideWorkTree = first := (List.cons.inj order).1
      subst same
      exact absurd (passed .insideWorkTree List.mem_cons_self) outside.not_passes
  | finished inside => exact absurd inside outside.not_passes

theorem outside_of_notARepository {place : Text}
    (course : site.Course path commands (.error (.git (.notARepository place)))) :
    site.Outside := by
  cases course with
  | @stopped before after command halt order passed stops =>
    unfold Stops at stops
    generalize answered : site.behaviour command = answer at stops
    cases stops with
    | outside outside =>
      rw [← answered] at outside
      exact outside

theorem exists_interrupted (course : site.Course path commands (.error .interrupted)) :
    ∃ command ∈ commands, site.behaviour command = .interrupted := by
  cases course with
  | @stopped before after command halt order passed stops =>
    refine ⟨command, List.mem_append_right before (List.mem_singleton.mpr rfl), ?_⟩
    unfold Stops at stops
    generalize site.behaviour command = answer at stops
    cases stops with
    | interrupted => rfl

theorem interrupted_or_git (course : site.Course path commands (.error halt)) :
    halt = .interrupted ∨ ∃ error, halt = .git error := by
  cases course with
  | @stopped before after command halt order passed stops =>
    unfold Stops at stops
    generalize site.behaviour command = answer at stops
    cases stops with
    | interrupted => exact .inl rfl
    | notStarted | outside | failed => exact .inr ⟨_, rfl⟩

end Course

end Site

open Session

variable {site : Site} {path : Option Given} {command : Command} {halt : Halt}

def Answer.result : Answer → Except Halt Completed
  | .completed out err code => .ok ⟨out, err, code⟩
  | .notStarted reason => .error (.git (.notStarted reason))
  | .interrupted => .error .interrupted

theorem call_comes {answer : Answer} (answered : site.behaviour command = answer)
    (path : Option Given) :
    Comes (call site path command) answer.result [command.call path] [] := by
  apply Comes.after_log _ .debug (by decide)
  apply Comes.after_call
  rw [answered]
  cases answer with
  | completed out err code => exact comes_pure _
  | notStarted reason => exact comes_halt _
  | interrupted => exact comes_halt _

theorem ensureRepository_passes (passes : site.Passes .insideWorkTree) (path : Option Given) :
    Comes (ensureRepository site path) (.ok ()) [Command.insideWorkTree.call path] [] := by
  rcases passes.completed with ⟨out, err, answered, inside⟩
  apply (call_comes answered path).bind
  rw [if_neg (by simp [inside rfl])]
  exact comes_pure ()

theorem ensureRepository_stops (stops : site.Stops path .insideWorkTree halt) :
    Comes (ensureRepository site path) (.error halt) [Command.insideWorkTree.call path] [] := by
  unfold Site.Stops at stops
  generalize answered : site.behaviour .insideWorkTree = answer at stops
  cases stops with
  | notStarted => exact (call_comes answered path).stop _
  | interrupted => exact (call_comes answered path).stop _
  | outside outside =>
    cases answer with
    | completed out err code =>
      have wrong : code ≠ 0 ∨ Text.trim out ≠ "true".toList := outside
      apply (call_comes answered path).bind
      rw [if_pos wrong]
      exact (comes_halt _).after_log .debug (by decide) _
    | notStarted reason => cases outside
    | interrupted => cases outside
  | failed later => exact absurd rfl later

theorem output_passes {out err : Text} (answered : site.behaviour command = .completed out err 0)
    (path : Option Given) : Comes (output site path command) (.ok out) [command.call path] [] := by
  apply (call_comes answered path).bind
  rw [if_neg (by simp)]
  exact comes_pure out

theorem output_stops (later : command ≠ .insideWorkTree) (stops : site.Stops path command halt) :
    Comes (output site path command) (.error halt) [command.call path] [] := by
  unfold Site.Stops at stops
  generalize answered : site.behaviour command = answer at stops
  cases stops with
  | notStarted => exact (call_comes answered path).stop _
  | interrupted => exact (call_comes answered path).stop _
  | outside => exact absurd rfl later
  | failed later out err failure =>
    apply (call_comes answered path).bind
    rw [if_pos failure]
    exact (comes_halt _).after_log .debug (by decide) _

theorem ask_comes {status list : Text} (tells : site.Tells status list) (path : Option Given) :
    Comes (ask site path) (.ok (status, Porcelain.stashCount list))
      (Command.all.map fun command => command.call path) [] := by
  rcases tells with ⟨inside, ⟨err, told⟩, ⟨err', listed⟩⟩
  have third : Comes (readStashCount site path) (.ok (Porcelain.stashCount list))
      [Command.stashList.call path] [] := (output_passes listed path).bind (comes_pure _)
  apply (ensureRepository_passes inside path).bind
  apply (output_passes told path).bind
  exact third.map fun stashed => (status, stashed)

theorem ask_stops_or_tells (site : Site) (path : Option Given) :
    (∃ commands halt, site.Course path commands (.error halt) ∧
        Comes (ask site path) (.error halt) (commands.map fun command => command.call path) []) ∨
      ∃ status list, site.Tells status list := by
  rcases site.passes_or_stops path .insideWorkTree with inside | ⟨halt, stops⟩
  · have first := ensureRepository_passes inside path
    rcases site.passes_or_stops path .status with passed | ⟨halt, stops⟩
    · rcases passed.completed with ⟨status, err, told, -⟩
      have second := output_passes told path
      rcases site.passes_or_stops path .stashList with last | ⟨halt, stops⟩
      · rcases last.completed with ⟨list, err', listed, -⟩
        exact .inr ⟨status, list, inside, ⟨err, told⟩, err', listed⟩
      · have third := output_stops (by decide) stops
        have order : Command.all = [.insideWorkTree, .status] ++ .stashList :: [] := rfl
        refine .inl ⟨_, _, .stopped order ?_ stops, first.bind (second.bind ?_)⟩
        · simp only [List.mem_cons, List.not_mem_nil, or_false, forall_eq_or_imp, forall_eq]
          exact ⟨inside, passed⟩
        · exact (third.stop _).stop _
    · have second := output_stops (by decide) stops
      have order : Command.all = [.insideWorkTree] ++ .status :: [.stashList] := rfl
      refine .inl ⟨_, _, .stopped order ?_ stops, first.bind (second.stop _)⟩
      simp only [List.mem_cons, List.not_mem_nil, or_false, forall_eq]
      exact inside
  · have order : Command.all = [] ++ .insideWorkTree :: [.status, .stashList] := rfl
    exact .inl ⟨_, _, .stopped order nofun stops, (ensureRepository_stops stops).stop _⟩

theorem noted_comes (snapshot : Snapshot) : Comes (noted snapshot) (.ok snapshot) [] [] :=
  (comes_pure snapshot).after_log .debug (by decide) _

theorem readStatus_tells {status list : Text} (tells : site.Tells status list)
    (path : Option Given) :
    Comes (readStatus site path) (.ok (Porcelain.snapshot status (Porcelain.stashCount list)))
      (Command.all.map fun command => command.call path) [] :=
  (ask_comes tells path).quietly (noted_comes _)

theorem readStatus_comes (site : Site) (path : Option Given) :
    ∃ commands result, site.Course path commands result ∧
      Comes (readStatus site path) result (commands.map fun command => command.call path) [] := by
  rcases ask_stops_or_tells site path with ⟨commands, halt, course, asked⟩ | ⟨status, list, tells⟩
  · exact ⟨commands, _, course, asked.stop _⟩
  · exact ⟨_, _, tells.course path, readStatus_tells tells path⟩

end GitPrompt.Git
