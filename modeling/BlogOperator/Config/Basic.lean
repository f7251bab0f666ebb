import BlogOperator.Config.Seconds
import BlogOperator.Text.Quoted

/-!
# The configuration

A `Config` says under what name the controller reports, how often a blog in order is looked at
again, how long the controller waits after failures, and whether it watches one namespace only.
`Config.check` refuses a configuration under which the controller could not work. `Config.build`
makes one from a list of settings, the later of two settings of one thing being the one that
counts.
-/

set_option autoImplicit false

namespace BlogOperator

open BlogOperator.Time

/-- How the controller is set up. -/
structure Config where
  /-- The name under which the controller reports events. -/
  controllerName : String := "ghost-controller"
  /-- After how long a blog in order is looked at again. -/
  resyncInterval : Duration := .ofSeconds 300
  /-- The wait after the first failure. -/
  backoffInitial : Duration := .ofSeconds 5
  /-- The longest wait after a failure. -/
  backoffMax : Duration := .ofSeconds 300
  /-- The one namespace to watch; all of them if there is none. -/
  watchNamespace : Option String := none
  deriving DecidableEq, Repr, Inhabited

/-- Why a configuration is refused. -/
inductive ConfigFault where
  /-- A variable that should hold a count of seconds does not. -/
  | number (name value : String) (fault : Number.CountFault)
  | emptyName
  | zeroResync
  | zeroInitial
  /-- The first wait is longer than the longest. -/
  | inverted (initial max : Duration)
  deriving DecidableEq, Repr

/-- The sentence that reports why a configuration is refused. -/
def ConfigFault.message : ConfigFault → String
  | .number name value fault => s!"{name}={Text.quoted value}: {fault.message}"
  | .emptyName => "controller_name must not be empty"
  | .zeroResync => "resync_interval must be > 0"
  | .zeroInitial => "backoff_initial must be > 0"
  | .inverted initial max =>
    s!"backoff_initial ({initial.text}) must not exceed backoff_max ({max.text})"

namespace Config

/-- Refuses a configuration for the first thing wrong with it. -/
def check (config : Config) : Except ConfigFault Unit := do
  if config.controllerName = "" then throw .emptyName
  if config.resyncInterval.nanoseconds = 0 then throw .zeroResync
  if config.backoffInitial.nanoseconds = 0 then throw .zeroInitial
  if config.backoffMax < config.backoffInitial then
    throw (.inverted config.backoffInitial config.backoffMax)

/-- What a configuration is refused for, in the order in which it is looked at. -/
theorem check_eq (config : Config) : config.check =
    if config.controllerName = "" then .error .emptyName
    else if config.resyncInterval.nanoseconds = 0 then .error .zeroResync
    else if config.backoffInitial.nanoseconds = 0 then .error .zeroInitial
    else if config.backoffMax < config.backoffInitial then
      .error (.inverted config.backoffInitial config.backoffMax)
    else .ok () := by
  unfold check
  split
  · rfl
  split
  · rfl
  split
  · rfl
  split
  · rfl
  · rfl

/-- A configuration that has been checked. -/
def checked (config : Config) : Except ConfigFault Config := do
  config.check
  return config

theorem checked_eq (config : Config) : config.checked = config.check.map fun _ ↦ config := by
  unfold checked
  cases config.check with
  | error fault => rfl
  | ok _ => rfl

/-- One thing to be set. -/
inductive Setting where
  | controllerName (value : String)
  | resyncInterval (value : Duration)
  | backoff (initial max : Duration)
  | watchNamespace (value : String)
  deriving DecidableEq, Repr

/-- A configuration with one thing set. -/
def set (config : Config) : Setting → Config
  | .controllerName value => { config with controllerName := value }
  | .resyncInterval value => { config with resyncInterval := value }
  | .backoff initial max => { config with backoffInitial := initial, backoffMax := max }
  | .watchNamespace value => { config with watchNamespace := some value }

/-- The configuration that settings make of the default one. -/
def build (settings : List Setting) : Except ConfigFault Config :=
  (settings.foldl set {}).checked

end Config

end BlogOperator
