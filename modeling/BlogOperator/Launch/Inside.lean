import BlogOperator.Http.ServerName
import BlogOperator.Launch.Connection
import BlogOperator.Number.Count

/-!
# Inside the cluster

A program that runs inside a cluster finds the server in its environment, and what proves that it
may speak to it in files. `inside` finds the connection, which is looked for only if there is none
by the file that names the cluster.
-/

set_option autoImplicit false

namespace BlogOperator.Launch

open BlogOperator.Http BlogOperator.Number BlogOperator.Text

/-- The variables that hold the name of the server and its port. -/
def insideVariables : String × String := ("KUBERNETES_SERVICE_HOST", "KUBERNETES_SERVICE_PORT")

/-- The directory of the files that a program finds inside the cluster. -/
def insideDirectory : String := "/var/run/secrets/kubernetes.io/serviceaccount/"

/-- The file that names the namespace of the program. -/
def namespacePath : String := insideDirectory ++ "namespace"

/-- The file with the certificates of those who vouch for the server. -/
def authorityPath : String := insideDirectory ++ "ca.crt"

/-- The file with the token of the program. -/
def tokenPath : String := insideDirectory ++ "token"

/-- Why the program does not find itself inside a cluster. -/
inductive InsideFault where
  /-- A variable is not set. -/
  | unset
  | invalidPort (fault : CountFault)
  | invalidServer (fault : UriFault)
  /-- The file that names the namespace cannot be read. -/
  | unreadableNamespace (reason : String)
  /-- The file with the certificates cannot be read. -/
  | unreadableAuthority (reason : String)
  | invalidCertificates (fault : ArmorFault)
  deriving DecidableEq, Repr

/-- The sentence that reports why the program is not inside a cluster. -/
def InsideFault.message : InsideFault → String
  | unset => "failed to read an incluster environment variable: environment variable not found"
  | invalidPort fault => s!"failed to parse cluster port: {fault.message}"
  | invalidServer fault => s!"failed to parse cluster url: {fault.message}"
  | unreadableNamespace reason => s!"failed to read the default namespace: {reason}"
  | unreadableAuthority reason => s!"failed to read a certificate bundle: {reason}"
  | invalidCertificates fault => s!"failed to parse PEM-encoded certificates: {fault.message}"

/-- The port that needs not be named. -/
def standardPort : Nat := 443

/-- The location of the server with this name and port. -/
def serverAt (host : String) (port : Nat) : String :=
  let host := if isLongAddress host then s!"[{host}]" else host
  let port := if port = standardPort then "" else s!":{port}"
  "https://" ++ host ++ port

/-- The connection of a program inside a cluster. -/
def inside (surroundings : Surroundings) : Except InsideFault Connection := do
  let some host := surroundings.environment insideVariables.1 | throw .unset
  let some port := surroundings.environment insideVariables.2 | throw .unset
  let port ← (readCount UInt16.size port.toList).mapError .invalidPort
  let server := serverAt host port
  let _ ← (Uri.ofText server).mapError .invalidServer
  let _ ← (surroundings.read namespacePath).mapError .unreadableNamespace
  let armored ← (surroundings.read authorityPath).mapError .unreadableAuthority
  let blocks ← (armorBlocks armored).mapError .invalidCertificates
  return {
    server
    certificates := some (certificatesIn blocks)
    serverName := none
    proxy := none
    user := { tokenFile := some tokenPath } }

end BlogOperator.Launch
