import BlogOperator.Reconcile.Pass

/-!
# Runs of composed passes

A run of a composed pass is a run of its first part followed by a run of its second part from where
the first one ended (`Pass.run_bind`). This holds in every environment. `Run.after` puts the
happenings of the first part before those of the second.

An `Exchange` is a call together with the reply to it. `Run.exchanges` and `Run.notices` are what
the cluster and its users see of a run: the log lines are left out.
-/

set_option autoImplicit false

namespace BlogOperator

/-! ### What is seen of a run -/

/-- A call together with the reply to it. -/
structure Exchange where
  request : Call
  reply : request.Reply

/-- The exchange that a happening is, if it is one. -/
def Happening.exchange? : Happening → Option Exchange
  | .called request reply => some ⟨request, reply⟩
  | .announced _ => none
  | .logged _ => none

/-- The notice that a happening is, if it is one. -/
def Happening.notice? : Happening → Option Notice
  | .called _ _ => none
  | .announced notice => some notice
  | .logged _ => none

@[simp] theorem Happening.exchange?_called (request : Call) (reply : request.Reply) :
    (Happening.called request reply).exchange? = some ⟨request, reply⟩ := rfl

@[simp] theorem Happening.exchange?_announced (notice : Notice) :
    (Happening.announced notice).exchange? = none := rfl

@[simp] theorem Happening.exchange?_logged (line : LogLine) :
    (Happening.logged line).exchange? = none := rfl

@[simp] theorem Happening.notice?_called (request : Call) (reply : request.Reply) :
    (Happening.called request reply).notice? = none := rfl

@[simp] theorem Happening.notice?_announced (notice : Notice) :
    (Happening.announced notice).notice? = some notice := rfl

@[simp] theorem Happening.notice?_logged (line : LogLine) :
    (Happening.logged line).notice? = none := rfl

namespace Run

variable {σ α : Type}

/-- The calls of a run with their replies, in order. -/
def exchanges (run : Run σ α) : List Exchange :=
  run.happenings.filterMap Happening.exchange?

/-- The notices of a run, in order. -/
def notices (run : Run σ α) : List Notice :=
  run.happenings.filterMap Happening.notice?

/-- A run with other happenings before it. -/
def after (past : List Happening) (run : Run σ α) : Run σ α :=
  { run with happenings := past ++ run.happenings }

@[simp] theorem result_after (past : List Happening) (run : Run σ α) :
    (run.after past).result = run.result := rfl

@[simp] theorem happenings_after (past : List Happening) (run : Run σ α) :
    (run.after past).happenings = past ++ run.happenings := rfl

@[simp] theorem state_after (past : List Happening) (run : Run σ α) :
    (run.after past).state = run.state := rfl

@[simp] theorem after_after (first second : List Happening) (run : Run σ α) :
    (run.after second).after first = run.after (first ++ second) := by
  simp [after]

@[simp] theorem exchanges_after (past : List Happening) (run : Run σ α) :
    (run.after past).exchanges = past.filterMap Happening.exchange? ++ run.exchanges := by
  simp [exchanges]

@[simp] theorem notices_after (past : List Happening) (run : Run σ α) :
    (run.after past).notices = past.filterMap Happening.notice? ++ run.notices := by
  simp [notices]

end Run

/-! ### Runs of composed passes -/

namespace Pass

variable {σ α β : Type} (environment : Environment σ)

@[simp] theorem run_done (value : α) (state : σ) :
    (done value).run environment state = ⟨value, [], state⟩ := rfl

theorem run_call (request : Call) (next : request.Reply → Pass α) (state : σ) :
    (call request next).run environment state =
      ((next (environment.answer request state).1).run environment
        (environment.answer request state).2).after
        [.called request (environment.answer request state).1] := rfl

theorem run_announce (notice : Notice) (next : Pass α) (state : σ) :
    (announce notice next).run environment state =
      (next.run environment (environment.publish notice state).2).after
        (.announced notice :: (environment.publish notice state).1.map .logged) := rfl

theorem run_log (line : LogLine) (next : Pass α) (state : σ) :
    (log line next).run environment state =
      (next.run environment state).after [.logged line] := rfl

/-- A composed pass runs its first part, and its second part from where the first one ended. -/
theorem run_bind (pass : Pass α) (next : α → Pass β) (state : σ) :
    (pass >>= next).run environment state =
      ((next (pass.run environment state).result).run environment
        (pass.run environment state).state).after (pass.run environment state).happenings := by
  induction pass generalizing state with
  | done value => rfl
  | call request following ih => simp [run_call, ih]
  | announce notice following ih => simp [run_announce, ih]
  | log line following ih => simp [run_log, ih]

end Pass

end BlogOperator
