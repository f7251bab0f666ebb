import BlogOperator.Launch.Startup
import Std.Time.DateTime.Timestamp

/-!
# The program

Reads the environment and the file that names the cluster, starts the controller, and writes what
it has to say. The program has no line to the server of its own: the watch ends as it does where
the server refuses every connection.
-/

set_option autoImplicit false

namespace BlogOperator.Launch

open BlogOperator.Time

/-- The variables that the program looks at, as they are set. -/
def readEnvironment : IO (String → Option String) := do
  let names := [directivesVariable, Config.controllerNameVariable, Config.resyncVariable,
    Config.backoffInitialVariable, Config.backoffMaxVariable, Config.watchNamespaceVariable,
    insideVariables.1, insideVariables.2, actingUserVariable, actingGroupsVariable,
    serverVariable, searchVariable, rootFileVariable, rootDirectoriesVariable] ++ proxyVariables
  let known ← names.filterMapM fun name ↦ do
    return (← IO.getEnv name).map fun value ↦ (name, value)
  return fun name ↦ known.lookup name

/-- Why the system refuses a file. -/
def systemFault : IO.Error → SystemFault
  | .permissionDenied _ _ _ => .forbidden
  | .inappropriateType _ number _ => if number = 20 then .notDirectory else .isDirectory
  | _ => .missing

/-- The directory that a path leads to. -/
def directoryOf (path : String) : String :=
  "/".intercalate (path.splitOn "/").dropLast

/-- The file that names the cluster: its directory and its text. -/
def readKubeconfig : IO (Except KubeconfigFault (String × String)) := do
  let path := (← IO.getEnv kubeconfigVariable).getD ""
  try
    let text ← IO.FS.readFile path
    return .ok (directoryOf path, text)
  catch error => return .error (.unreadable path (systemFault error).message)

/-- The directories with certificates that a variable names, and the names of what they hold. -/
def readDirectories (environment : String → Option String) :
    IO (List (String × Except SystemFault (List String))) :=
  ((environment rootDirectoriesVariable).toList.flatMap (·.splitOn ":")).mapM
    fun (path : String) ↦ do
      try
        let entries ← (← IO.FS.realPath path).readDir
        return (path, .ok (entries.toList.map (·.fileName)))
      catch error => return (path, .error (systemFault error))

/-- The files with certificates that a variable names or that are in directories. -/
def rootPaths (environment : String → Option String)
    (directories : List (String × Except SystemFault (List String))) : List String :=
  (environment rootFileVariable).toList ++ directories.flatMap fun (path, names) ↦
    ((names.toOption.getD []).filter isRootName).map fun name ↦ path ++ "/" ++ name

/-- The files that a program finds inside a cluster, those that the file about the cluster names,
and `others`. -/
def readFiles (file : Except KubeconfigFault (String × String)) (others : List String) :
    IO (List (String × Except SystemFault (List UInt8))) := do
  let named :=
    match file >>= fun (directory, text) ↦ Kubeconfig.ofText directory text with
    | .error _ => []
    | .ok kubeconfig => kubeconfig.paths
  ([namespacePath, authorityPath, tokenPath] ++ named ++ others).mapM fun (path : String) ↦ do
    try
      let bytes ← IO.FS.readBinFile path
      return (path, .ok bytes.data.toList)
    catch error => return (path, .error (systemFault error))

/-- The time of day, to the second. -/
def readClock : IO Instant := do
  let now ← Std.Time.Timestamp.now
  return (Instant.mk? now.toSecondsSinceUnixEpoch.val 0).getD .epoch

/-- What the program finds when it starts. -/
def readSurroundings (file : Except KubeconfigFault (String × String)) : IO Surroundings := do
  let environment ← readEnvironment
  let directories ← readDirectories environment
  let files ← readFiles file (rootPaths environment directories)
  return {
    environment
    files := fun path ↦ (files.lookup path).getD (.error .missing)
    directories := fun path ↦ (directories.lookup path).getD (.error .missing)
    now := ← readClock }

end BlogOperator.Launch

open BlogOperator.Launch in
/-- Starts the controller with the arguments of the command line. -/
def main (arguments : List String) : IO UInt32 := do
  let file ← readKubeconfig
  let startup := startup arguments (← readSurroundings file) file
  startup.complaints.forM IO.eprintln
  startup.lines.forM fun line ↦ IO.println (line.text logTarget)
  match startup.ending with
  | .definition =>
    IO.print definitionText
    return 0
  | .failed fault =>
    IO.eprint fault.report
    return 1
  | .watching _ => return 0
