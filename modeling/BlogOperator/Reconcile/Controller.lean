import BlogOperator.Config.Basic
import BlogOperator.Reconcile.Backoff
import BlogOperator.Reconcile.Round

/-!
# The controller

The controller is handed blogs one after another. For each it runs the round of the blog's key
(`Controller.attempt`); the blog handed over serves only to know the key. After a success the
failures of the key are forgotten and the blog is due again after the resync interval; after a
failure it is due after a wait that grows with the failures in a row (`Controller.failed`).
`Controller.turn` does the one and, where it is needed, the other.
-/

set_option autoImplicit false

namespace BlogOperator

open BlogOperator.Time

/-- The configuration and what is remembered between rounds. -/
structure Controller where
  config : Config
  backoff : Backoff

namespace Controller

/-- A controller that remembers nothing. -/
def ofConfig (config : Config) : Controller where
  config
  backoff := { initial := config.backoffInitial, max := config.backoffMax }

/-- The key of a blog that is handed over: a blog without a name of its own goes by the front of
the name it is to get. -/
def keyOf (ghost : Ghost) : Key :=
  ⟨ghost.team, ghost.metadata.displayName⟩

/-- After a success: when the blog is due again. -/
def succeeded (controller : Controller) (key : Key) : Duration × Controller :=
  (controller.config.resyncInterval,
    { controller with backoff := controller.backoff.reset key })

/-- What the log says about a failed round. -/
def failureLine (key : Key) (failure : Failure) (delay : Duration) : LogLine where
  level := .error
  message := "Reconciliation error"
  fields := [
    ("ghost", .text key.text), ("error", .text failure.message),
    ("conflict", .bool failure.isConflict), ("retry_in", .text delay.text)]

/-- After a failure: when the blog is due again, and what the log says. -/
def failed (controller : Controller) (ghost : Ghost) (failure : Failure) :
    Duration × LogLine × Controller :=
  let key := keyOf ghost
  let (delay, backoff) := controller.backoff.nextDelay key
  (delay, failureLine key failure delay, { controller with backoff })

/-- What comes of running the round of a blog. -/
structure Attempt (σ : Type) where
  /-- After how long the blog is due again, or why the round failed. -/
  result : Except Failure Duration
  happenings : List Happening
  controller : Controller
  state : σ

/-- Runs the round of a blog that is handed over. A failed round leaves the controller as it is. -/
def attempt {σ : Type} (environment : Environment σ) (now : Instant) (ghost : Ghost)
    (controller : Controller) (state : σ) : Attempt σ :=
  let key := keyOf ghost
  let run := (reconcile key now).run environment state
  match run.result with
  | .ok () =>
    let (interval, controller) := controller.succeeded key
    ⟨.ok interval, run.happenings, controller, run.state⟩
  | .error failure => ⟨.error failure, run.happenings, controller, run.state⟩

/-- What comes of handing a blog over. -/
structure Turn (σ : Type) where
  /-- Why the round failed, if it did. -/
  failure : Option Failure
  /-- After how long the blog is due again. -/
  requeueAfter : Duration
  happenings : List Happening
  controller : Controller
  state : σ

/-- Hands a blog over: runs its round, and after a failure decides how long to wait. -/
def turn {σ : Type} (environment : Environment σ) (now : Instant) (ghost : Ghost)
    (controller : Controller) (state : σ) : Turn σ :=
  let attempt := controller.attempt environment now ghost state
  match attempt.result with
  | .ok interval =>
    ⟨none, interval, attempt.happenings, attempt.controller, attempt.state⟩
  | .error failure =>
    let (delay, line, controller) := attempt.controller.failed ghost failure
    ⟨some failure, delay, attempt.happenings ++ [.logged line], controller, attempt.state⟩

end Controller

end BlogOperator
