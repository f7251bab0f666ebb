import BlogOperator.Config.Environment
import BlogOperator.Failure
import BlogOperator.Ghost.Definition
import BlogOperator.Launch.Client
import BlogOperator.Launch.Directive
import BlogOperator.Launch.Inside
import BlogOperator.Reconcile.Log
import BlogOperator.Yaml.Printer

/-!
# Starting the controller

What happens between the start of the program and its first look at the cluster is settled by the
arguments, the environment and the file that names the cluster. `course` says what happens on the
way and how it ends: the definition of blogs is printed, the program gives up, or it goes on to
watch the cluster. `startup` says what of it is written to the log.
-/

set_option autoImplicit false

namespace BlogOperator.Launch

open BlogOperator.Text

/-- The argument that asks for the definition of blogs. -/
def definitionArgument : String := "--generate-crds"

/-- The variable that holds the path of the file that names the cluster. -/
def kubeconfigVariable : String := "KUBECONFIG"

/-- Why the program gives up. -/
inductive StartFault where
  | configuration (fault : ConfigFault)
  /-- The program is not inside a cluster, and there is none by the file that names it. -/
  | connection (inside : InsideFault) (fault : ConnectionFault)
  | client (fault : ClientFault)
  deriving DecidableEq, Repr

/-- The sentence for a cluster that cannot be found, neither from inside it nor by a file. -/
def inferenceText (inside : InsideFault) (fault : ConnectionFault) : String :=
  s!"failed to infer config: in-cluster: ({inside.message}), kubeconfig: ({fault.message})"

/-- The sentence that reports why the program gives up, and the sentences on what is behind it. -/
def StartFault.messages : StartFault → String × List String
  | .configuration fault => ((Failure.invalidConfiguration fault.message).message, [])
  | .connection inside fault =>
    ("Failed to infer configuration: " ++ inferenceText inside fault,
      inferenceText inside fault :: fault.message :: fault.causes)
  | .client fault => (fault.message, fault.causes)

/-- A sentence of several lines, the further ones indented. -/
def indented (first further text : String) : String :=
  first ++ ("\n" ++ further).intercalate (text.splitOn "\n")

/-- Numbered sentences on what is behind a fault; a single one has no number. -/
def causeLines : List String → List String
  | [cause] => [indented "    " "    " cause]
  | causes => causes.zipIdx.map fun (cause, index) ↦
    indented s!"    {index}: " "       " cause

/-- What the program reports when it gives up. -/
def StartFault.report (fault : StartFault) : String :=
  let (summary, causes) := fault.messages
  let behind :=
    if causes.isEmpty then ""
    else "\n\nCaused by:\n" ++ "\n".intercalate (causeLines causes)
  "Error: " ++ summary ++ behind ++ "\n"

/-- How a start ends. -/
inductive Ending where
  /-- The definition of blogs is printed, and that is all. -/
  | definition
  | failed (fault : StartFault)
  /-- The cluster at this address is watched. -/
  | watching (server : String)
  deriving DecidableEq, Repr

/-- What comes of a start. -/
structure Startup where
  /-- What is said about unreadable log directives. -/
  complaints : List String
  /-- What is written to the log. -/
  lines : List LogLine
  ending : Ending

/-- What the log says first. -/
def startingLine : LogLine where
  level := .info
  message := "Starting Ghost Kubernetes Operator"

/-- What the log says about a configuration. -/
def configLine (config : Config) : LogLine where
  level := .info
  message := "Loaded configuration"
  fields := [
    ("controller", .text config.controllerName),
    ("namespace", .text (quoted (config.watchNamespace.getD "*"))),
    ("resync", .text config.resyncInterval.text)]

/-- What the log says when the cluster has been found. -/
def connectedLine : LogLine where
  level := .info
  message := "Connected to Kubernetes cluster"

/-- What the log says when the watch of the cluster fails. -/
def lostWatchLine : LogLine where
  level := .warn
  message := "Ghost controller stream error"
  fields := [("error", .text "event queue error")]

/-- What the log says last. -/
def stoppedLine : LogLine where
  level := .info
  message := "Ghost controller stopped"

/-- What the log says from the watch of a server that refuses every connection to the end. A watch
that fails again and again is reported once. -/
def unreachableWatch : List LogLine :=
  [lostWatchLine, stoppedLine]

/-- What the program prints when it is asked for the definition of blogs. -/
def definitionText : String :=
  "---\n" ++ Ghost.definition.yaml ++ "\n"

/-- Finds the cluster, by the file that names it or else from inside it. -/
def findCluster (surroundings : Surroundings)
    (file : Except KubeconfigFault (String × String)) : Except StartFault Connection :=
  let named := file.mapError ConnectionFault.file >>= fun (directory, text) ↦
    connectionOf surroundings directory text
  let found : Except StartFault Connection := match named with
    | .ok connection => .ok connection
    | .error fault => (inside surroundings).mapError fun outside ↦ .connection outside fault
  found.map (·.overridden surroundings)

/-- What happens at the start, whatever of it is written to the log. The file that names the
cluster is given by its directory and as its text, or as the reason why it cannot be read. -/
def course (arguments : List String) (surroundings : Surroundings)
    (file : Except KubeconfigFault (String × String)) : List LogLine × Ending :=
  if arguments.contains definitionArgument then ([], .definition)
  else
    match Config.load surroundings.environment with
    | .error fault => ([startingLine], .failed (.configuration fault))
    | .ok config =>
      let lines := [startingLine, configLine config]
      match findCluster surroundings file with
      | .error fault => (lines, .failed fault)
      | .ok connection =>
        match connection.check surroundings with
        | .error fault => (lines, .failed (.client fault))
        | .ok () => (lines ++ [connectedLine], .watching connection.server)

/-- Starts the program. A watch that is begun goes on to its end, all connections being refused. -/
def startup (arguments : List String) (surroundings : Surroundings)
    (file : Except KubeconfigFault (String × String)) : Startup :=
  let text := (surroundings.environment directivesVariable).getD ""
  let (lines, ending) := course arguments surroundings file
  let watch := match ending with
    | .watching _ => unreachableWatch
    | _ => []
  { complaints := complaints text
    lines := (lines ++ watch).filter (shows (directives text))
    ending }

end BlogOperator.Launch
