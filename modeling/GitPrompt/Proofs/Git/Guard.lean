import GitPrompt.Git.Repository
import GitPrompt.Proofs.Git.Session

/-!
Guarded sessions beside the sessions that they guard. A guarded session goes as the other one does,
or it crashes after the same calls.
-/
namespace GitPrompt.Git.Guarded

open Session (Comes)

variable {α β : Type}

theorem run_lift (session : Session α) (trace : Trace) :
    (liftM session : Guarded α).run.run.run trace =
      match session.run.run trace with
      | (.ok value, after) => (.ok (.ok value), after)
      | (.error halt, after) => (.error halt, after) := by
  have lifted : (liftM session : Guarded α).run = session >>= fun value => pure (.ok value) := rfl
  rw [lifted, Session.run_bind]
  rcases session.run.run trace with ⟨halt | value, after⟩ <;> rfl

theorem run_bind (guarded : Guarded α) (next : α → Guarded β) (trace : Trace) :
    (guarded >>= next).run.run.run trace =
      match guarded.run.run.run trace with
      | (.ok (.ok value), after) => (next value).run.run.run after
      | (.ok (.error crash), after) => (.ok (.error crash), after)
      | (.error halt, after) => (.error halt, after) := by
  rw [ExceptT.run_bind, Session.run_bind]
  rcases guarded.run.run.run trace with ⟨halt | crash | value, after⟩ <;> rfl

theorem run_tryCatch (guarded : Guarded α) (handler : Halt → Guarded α) (trace : Trace) :
    (tryCatchThe Halt guarded handler).run.run.run trace =
      match guarded.run.run.run trace with
      | (.ok result, after) => (.ok result, after)
      | (.error halt, after) => (handler halt).run.run.run after := by
  have inner : (tryCatchThe Halt guarded handler).run =
      tryCatch guarded.run fun halt => (handler halt).run := rfl
  rw [inner, Session.run_tryCatch]
  rcases guarded.run.run.run trace with ⟨halt | result, after⟩ <;> rfl

/-- A guarded session that goes as another session does, whatever was done before it. -/
def Follows (guarded : Guarded α) (session : Session α) : Prop :=
  ∀ trace, guarded.run.run.run trace =
    ((session.run.run trace).1.map .ok, (session.run.run trace).2)

/-- A guarded session that crashes after the calls of another session. -/
def CrashesAs (guarded : Guarded α) (session : Session α) (crash : Crash) : Prop :=
  ∀ trace, ∃ entries, guarded.run.run.run trace =
    (.ok (.error crash), ⟨(session.run.run trace).2.calls, entries⟩)

variable {guarded : Guarded α} {session : Session α} {crash : Crash} {calls : List Call}
  {notes : List Log.Entry}

theorem follows_lift (session : Session α) : Follows (liftM session) session := by
  intro trace
  rw [run_lift]
  rcases session.run.run trace with ⟨halt | value, after⟩ <;> rfl

theorem crashesAs_throw {result : Except Halt α} (silent : Comes session result [] notes)
    (crash : Crash) : CrashesAs (throw crash) session crash := by
  intro trace
  rcases silent trace with ⟨entries, -, ran⟩
  refine ⟨trace.entries, ?_⟩
  rw [ran, List.append_nil]
  rfl

theorem Follows.map (first : Follows guarded session) (change : α → β) :
    Follows (guarded >>= fun value => pure (change value))
      (session >>= fun value => pure (change value)) := by
  intro trace
  rw [run_bind, Session.run_bind, first trace]
  rcases session.run.run trace with ⟨halt | value, after⟩ <;> rfl

section
variable {next : α → Guarded β} {plain : α → Session β} {value : α}

theorem Follows.bind (first : Follows guarded session)
    (comes : Comes session (.ok value) calls notes) (rest : Follows (next value) (plain value)) :
    Follows (guarded >>= next) (session >>= plain) := by
  intro trace
  rcases comes trace with ⟨entries, -, ran⟩
  rw [run_bind, Session.run_bind, first trace, ran]
  exact rest _

theorem Follows.stop {halt : Halt} (first : Follows guarded session)
    (comes : Comes session (.error halt) calls notes) :
    Follows (guarded >>= next) (session >>= plain) := by
  intro trace
  rcases comes trace with ⟨entries, -, ran⟩
  rw [run_bind, Session.run_bind, first trace, ran]
  rfl

theorem Follows.crashes (first : Follows guarded session)
    (comes : Comes session (.ok value) calls notes)
    (rest : CrashesAs (next value) (plain value) crash) :
    CrashesAs (guarded >>= next) (session >>= plain) crash := by
  intro trace
  rcases comes trace with ⟨entries, -, ran⟩
  rw [run_bind, Session.run_bind, first trace, ran]
  exact rest _

theorem CrashesAs.bind (first : CrashesAs guarded session crash)
    (silent : ∀ value, ∃ result notes, Comes (plain value) result [] notes) :
    CrashesAs (guarded >>= next) (session >>= plain) crash := by
  intro trace
  rcases first trace with ⟨entries, crashed⟩
  refine ⟨entries, ?_⟩
  rw [run_bind, crashed, Session.run_bind]
  rcases session.run.run trace with ⟨halt | value, after⟩
  · rfl
  · rcases silent value with ⟨result, notes, comes⟩
    rcases comes after with ⟨more, -, ran⟩
    dsimp only
    rw [ran, List.append_nil]

end

theorem Follows.tryCatch (first : Follows guarded session) (handler : Halt → Session α) :
    Follows (tryCatchThe Halt guarded fun halt => liftM (handler halt))
      (tryCatch session handler) := by
  intro trace
  rw [run_tryCatch, Session.run_tryCatch, first trace]
  rcases session.run.run trace with ⟨halt | value, after⟩
  · exact follows_lift (handler halt) after
  · rfl

theorem CrashesAs.tryCatch {value : α} (first : CrashesAs guarded session crash)
    (comes : Comes session (.ok value) calls notes) (guard : Halt → Guarded α)
    (handler : Halt → Session α) :
    CrashesAs (tryCatchThe Halt guarded guard) (tryCatch session handler) crash := by
  intro trace
  rcases first trace with ⟨entries, crashed⟩
  rcases comes trace with ⟨before, -, ran⟩
  refine ⟨entries, ?_⟩
  rw [run_tryCatch, crashed, Session.run_tryCatch, ran]

end GitPrompt.Git.Guarded
