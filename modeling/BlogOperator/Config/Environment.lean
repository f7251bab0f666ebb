import BlogOperator.Config.Basic

/-!
# The configuration in the environment

Each part of the configuration has an environment variable. `Config.load` reads those that are set
and takes the defaults for the others; an empty namespace means all of them.
-/

set_option autoImplicit false

namespace BlogOperator.Config

open BlogOperator.Time

/-- The variable of the controller's name. -/
def controllerNameVariable : String := "GHOST_CONTROLLER_NAME"

/-- The variable of the resync interval. -/
def resyncVariable : String := "GHOST_RESYNC_SECS"

/-- The variable of the first wait. -/
def backoffInitialVariable : String := "GHOST_BACKOFF_INITIAL_SECS"

/-- The variable of the longest wait. -/
def backoffMaxVariable : String := "GHOST_BACKOFF_MAX_SECS"

/-- The variable of the namespace to watch. -/
def watchNamespaceVariable : String := "GHOST_WATCH_NAMESPACE"

/-- The duration that a variable holds, or the default if it is not set. -/
def secondsFrom (lookup : String → Option String) (name : String) (standard : Duration) :
    Except ConfigFault Duration :=
  match lookup name with
  | none => .ok standard
  | some value => (readSeconds value).mapError (.number name value)

/-- The configuration of an environment. Numbers are read before anything is checked. -/
def load (lookup : String → Option String) : Except ConfigFault Config := do
  let standard : Config := {}
  let resync ← secondsFrom lookup resyncVariable standard.resyncInterval
  let initial ← secondsFrom lookup backoffInitialVariable standard.backoffInitial
  let max ← secondsFrom lookup backoffMaxVariable standard.backoffMax
  let config : Config := {
    controllerName := (lookup controllerNameVariable).getD standard.controllerName
    resyncInterval := resync
    backoffInitial := initial
    backoffMax := max
    watchNamespace := (lookup watchNamespaceVariable).filter fun value ↦ value ≠ "" }
  config.checked

end BlogOperator.Config
