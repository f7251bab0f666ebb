import BlogOperator.Cluster.Call
import BlogOperator.Reconcile.Log
import BlogOperator.Reconcile.Notice

/-!
# Passes

A `Pass` is what the controller does in one go: it makes calls and goes on by what comes of them,
tells users what it has done, and writes the log. A pass says nothing about the cluster it is run
against. An `Environment` answers its calls, and `Pass.run` gives the result of a run together with
everything that happened, in order.
-/

set_option autoImplicit false

namespace BlogOperator

/-- A course of calls, notices and log lines that ends with a value. -/
inductive Pass (α : Type) where
  | done (value : α)
  | call (request : Call) (next : request.Reply → Pass α)
  | announce (notice : Notice) (next : Pass α)
  | log (line : LogLine) (next : Pass α)

namespace Pass

variable {α β : Type}

/-- A pass that goes on with another one. -/
def bind : Pass α → (α → Pass β) → Pass β
  | done value, next => next value
  | call request following, next => call request fun reply ↦ (following reply).bind next
  | announce notice following, next => announce notice (following.bind next)
  | log line following, next => log line (following.bind next)

instance : Monad Pass where
  pure := done
  bind := bind

@[simp] theorem pure_eq (value : α) : (pure value : Pass α) = done value := rfl

@[simp] theorem bind_done (value : α) (next : α → Pass β) : done value >>= next = next value := rfl

@[simp] theorem bind_call (request : Call) (following : request.Reply → Pass α)
    (next : α → Pass β) :
    call request following >>= next = call request fun reply ↦ following reply >>= next := rfl

@[simp] theorem bind_announce (notice : Notice) (following : Pass α) (next : α → Pass β) :
    announce notice following >>= next = announce notice (following >>= next) := rfl

@[simp] theorem bind_log (line : LogLine) (following : Pass α) (next : α → Pass β) :
    log line following >>= next = log line (following >>= next) := rfl

/-- One call. -/
def ask (request : Call) : Pass request.Reply :=
  call request done

/-- One notice. -/
def tell (notice : Notice) : Pass Unit :=
  announce notice (done ())

/-- One line of the log. -/
def write (line : LogLine) : Pass Unit :=
  log line (done ())

end Pass

/-! ### Runs -/

/-- Something that happens while a pass is run. -/
inductive Happening where
  | called (request : Call) (reply : request.Reply)
  | announced (notice : Notice)
  | logged (line : LogLine)

/-- What passes are run against: a state that answers calls, and that publishes notices, which may
leave lines in the log but has no other bearing on the pass. -/
structure Environment (σ : Type) where
  answer : (request : Call) → σ → request.Reply × σ
  publish : Notice → σ → List LogLine × σ

/-- What comes of a run. -/
structure Run (σ α : Type) where
  result : α
  /-- Everything that happened, in order. -/
  happenings : List Happening
  state : σ

/-- Runs a pass to its end. -/
def Pass.run {σ α : Type} (environment : Environment σ) : Pass α → σ → Run σ α
  | done value, state => ⟨value, [], state⟩
  | call request next, state =>
    let (reply, state) := environment.answer request state
    let rest := (next reply).run environment state
    { rest with happenings := .called request reply :: rest.happenings }
  | announce notice next, state =>
    let (lines, state) := environment.publish notice state
    let rest := next.run environment state
    { rest with happenings := .announced notice :: lines.map .logged ++ rest.happenings }
  | log line next, state =>
    let rest := next.run environment state
    { rest with happenings := .logged line :: rest.happenings }

end BlogOperator
