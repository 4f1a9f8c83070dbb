import GitPrompt.Git.Session

/-!
What a session comes to, whatever was done before it: its result, the calls that it makes, and the
entries about the prompt that it writes to the log.
-/
namespace GitPrompt.Git

namespace Session

variable {α β : Type}

theorem run_bind (session : Session α) (next : α → Session β) (trace : Trace) :
    (session >>= next).run.run trace =
      match session.run.run trace with
      | (.ok value, after) => (next value).run.run after
      | (.error halt, after) => (.error halt, after) := by
  rcases outcome : session.run.run trace with ⟨halt | value, after⟩ <;>
    rw [ExceptT.run_bind, StateT.run_bind, outcome] <;> rfl

theorem run_tryCatch (session : Session α) (handler : Halt → Session α) (trace : Trace) :
    (tryCatch session handler).run.run trace =
      match session.run.run trace with
      | (.ok value, after) => (.ok value, after)
      | (.error halt, after) => (handler halt).run.run after := by
  rcases outcome : session.run.run trace with ⟨halt | value, after⟩ <;>
    rw [ExceptT.run_tryCatch, StateT.run_bind, outcome] <;> rfl

/-- Entries about the prompt say which format it is made from. -/
def Comes (session : Session α) (result : Except Halt α) (calls : List Call)
    (notes : List Log.Entry) : Prop :=
  ∀ trace : Trace, ∃ entries, entries.filter (fun entry => entry.channel = .prompt) = notes ∧
    session.run.run trace = (result, ⟨trace.calls ++ calls, trace.entries ++ entries⟩)

theorem comes_pure (value : α) : Comes (pure value) (.ok value) [] [] := by
  intro trace
  refine ⟨[], rfl, ?_⟩
  rw [List.append_nil, List.append_nil]
  rfl

theorem comes_halt (reason : Halt) : Comes (halt reason : Session α) (.error reason) [] [] := by
  intro trace
  refine ⟨[], rfl, ?_⟩
  rw [run_halt, List.append_nil, List.append_nil]

theorem comes_log (severity : Log.Severity) {channel : Log.Channel} (other : channel ≠ .prompt)
    (message : Text) : Comes (log severity channel message) (.ok ()) [] [] := by
  intro trace
  refine ⟨[⟨severity, channel, message⟩], ?_, ?_⟩
  · exact List.filter_cons_of_neg (by simpa using other)
  · rw [run_log, List.append_nil]

theorem comes_note (severity : Log.Severity) (message : Text) :
    Comes (log severity .prompt message) (.ok ()) [] [⟨severity, .prompt, message⟩] := by
  intro trace
  refine ⟨[⟨severity, .prompt, message⟩], rfl, ?_⟩
  rw [run_log, List.append_nil]

theorem comes_record (call : Call) : Comes (record call) (.ok ()) [call] [] := by
  intro trace
  refine ⟨[], rfl, ?_⟩
  rw [run_record, List.append_nil]

variable {session : Session α} {next : α → Session β} {early late : List Call}
  {first last : List Log.Entry}

theorem Comes.ends {whole : Session β} {value : Except Halt α} {result : Except Halt β}
    (before : Comes session value early first)
    (ends : ∀ trace after, session.run.run trace = (value, after) →
      whole.run.run trace = (result, after)) :
    Comes whole result early first := by
  intro trace
  rcases before trace with ⟨entries, noted, ran⟩
  exact ⟨entries, noted, ends trace _ ran⟩

theorem Comes.follows {whole next : Session β} {value : Except Halt α} {result : Except Halt β}
    (before : Comes session value early first) (after : Comes next result late last)
    (follows : ∀ trace middle, session.run.run trace = (value, middle) →
      whole.run.run trace = next.run.run middle) :
    Comes whole result (early ++ late) (first ++ last) := by
  intro trace
  rcases before trace with ⟨entries, noted, ran⟩
  rcases after ⟨trace.calls ++ early, trace.entries ++ entries⟩ with ⟨more, noted', ran'⟩
  refine ⟨entries ++ more, by rw [List.filter_append, noted, noted'], ?_⟩
  rw [follows trace _ ran, ran', List.append_assoc, List.append_assoc]

theorem Comes.bind {value : α} {result : Except Halt β}
    (before : Comes session (.ok value) early first)
    (after : Comes (next value) result late last) :
    Comes (session >>= next) result (early ++ late) (first ++ last) :=
  before.follows after fun trace middle ran => by rw [run_bind, ran]

theorem Comes.stop {reason : Halt} (before : Comes session (.error reason) early first)
    (next : α → Session β) : Comes (session >>= next) (.error reason) early first :=
  before.ends fun trace after ran => by rw [run_bind, ran]

theorem Comes.after_log {result : Except Halt β} {next : Session β}
    (after : Comes next result late last) (severity : Log.Severity) {channel : Log.Channel}
    (other : channel ≠ .prompt) (message : Text) :
    Comes (log severity channel message >>= fun _ => next) result late last :=
  (comes_log severity other message).bind after

theorem Comes.after_call {result : Except Halt β} {next : Session β}
    (after : Comes next result late last) (call : Call) :
    Comes (record call >>= fun _ => next) result (call :: late) last :=
  (comes_record call).bind after

theorem Comes.quietly {value : α} {result : Except Halt β}
    (before : Comes session (.ok value) early first) (after : Comes (next value) result [] []) :
    Comes (session >>= next) result early first := by
  have whole := before.bind after
  rwa [List.append_nil, List.append_nil] at whole

theorem Comes.map {value : α} (before : Comes session (.ok value) early first) (change : α → β) :
    Comes (session >>= fun value => pure (change value)) (.ok (change value)) early first :=
  before.quietly (comes_pure (change value))

theorem Comes.keep {value : α} (before : Comes session (.ok value) early first)
    (handler : Halt → Session α) : Comes (tryCatch session handler) (.ok value) early first :=
  before.ends fun trace after ran => by rw [run_tryCatch, ran]

theorem Comes.handle {reason : Halt} {handler : Halt → Session α} {result : Except Halt α}
    (before : Comes session (.error reason) early first)
    (after : Comes (handler reason) result late last) :
    Comes (tryCatch session handler) result (early ++ late) (first ++ last) :=
  before.follows after fun trace middle ran => by rw [run_tryCatch, ran]

theorem Comes.rethrow {reason : Halt} {handler : Halt → Session α}
    (before : Comes session (.error reason) early first) (again : handler reason = halt reason) :
    Comes (tryCatch session handler) (.error reason) early first := by
  have whole := before.handle (again ▸ comes_halt reason)
  rwa [List.append_nil, List.append_nil] at whole

theorem Comes.outcome {result : Except Halt α} (comes : Comes session result early first) :
    session.outcome.1 = result ∧ session.outcome.2.calls = early ∧
      session.outcome.2.entries.filter (fun entry => entry.channel = .prompt) = first := by
  rcases comes {} with ⟨entries, noted, ran⟩
  rw [Session.outcome, ran]
  exact ⟨rfl, rfl, noted⟩

end Session
end GitPrompt.Git
