import BlogOperator.Http.Uri
import BlogOperator.Launch.Kubeconfig
import BlogOperator.Launch.Surroundings
import BlogOperator.Text.Armor

/-!
# The cluster to connect to

`Kubeconfig.connection` finds what the context in force says about the cluster and its user: the
location of the server, the certificates of those who vouch for it, and the proxy on the way to it.
-/

set_option autoImplicit false

namespace BlogOperator.Launch

open BlogOperator.Http BlogOperator.Text

/-! ### Data in the file or beside it -/

/-- Why data is not to be had. -/
inductive DataFault where
  | invalid (fault : Base64Fault)
  | unreadable (path reason : String)
  /-- Neither the data nor a file with it is named. -/
  | missing
  deriving DecidableEq, Repr

namespace DataFault

/-- The sentence that reports why data is not to be had. -/
def message : DataFault → String
  | invalid fault => s!"failed to decode base64 data: {fault.message}"
  | unreadable path reason => s!"failed to read file '{quoted path}': {reason}"
  | missing => "no base64 data or file"

/-- The sentences that report what is behind a fault. -/
def causes : DataFault → List String
  | invalid fault => [fault.message]
  | unreadable _ reason => [reason]
  | missing => []

end DataFault

/-- Bytes that end in a line end, unless there are none. -/
def endLine (bytes : List UInt8) : List UInt8 :=
  if bytes.getLast?.all (· = 0x0a) then bytes else bytes ++ [0x0a]

/-- Data in base 64, or else that of a file. -/
def Surroundings.data (surroundings : Surroundings) (data path : Option String) :
    Except DataFault (List UInt8) :=
  match data, path with
  | some data, _ => ((decodeBase64 (bytesOf data)).map endLine).mapError .invalid
  | none, some path =>
    ((surroundings.read path).map endLine).mapError (.unreadable path)
  | none, none => .error .missing

/-! ### Connections -/

/-- What is known of the cluster to connect to. -/
structure Connection where
  server : String
  /-- The certificates of those who vouch for the server. -/
  certificates : Option (List (List UInt8))
  /-- The name of the server in its certificate. -/
  serverName : Option String
  proxy : Option Uri
  user : UserEntry
  deriving Repr

/-- Why there is no cluster to connect to. -/
inductive ConnectionFault where
  | file (fault : KubeconfigFault)
  | noContext
  | unknownContext (name : String)
  | unknownCluster (name : String)
  | noServer
  | invalidServer (fault : UriFault)
  /-- The certificates of those who vouch for the server are not to be had. -/
  | authority (fault : DataFault)
  | invalidCertificates (fault : ArmorFault)
  | invalidProxy (fault : UriFault)
  deriving DecidableEq, Repr

namespace ConnectionFault

/-- The sentence that reports why there is no cluster. -/
def message : ConnectionFault → String
  | file fault => fault.message
  | noContext => "failed to determine current context"
  | unknownContext name => s!"failed to load current context: {name}"
  | unknownCluster name => s!"failed to load the cluster of context: {name}"
  | noServer => "cluster url is missing on selected cluster"
  | invalidServer fault => s!"failed to parse cluster url: {fault.message}"
  | authority _ => "failed to load certificate authority"
  | invalidCertificates fault => s!"failed to parse PEM-encoded certificates: {fault.message}"
  | invalidProxy fault => s!"failed to parse proxy url: {fault.message}"

/-- The sentences that report what is behind a fault. -/
def causes : ConnectionFault → List String
  | file fault => fault.causes
  | invalidServer fault => [fault.message]
  | authority fault => fault.message :: fault.causes
  | invalidCertificates fault => fault.message :: fault.cause?.toList
  | invalidProxy fault => [fault.message]
  | _ => []

end ConnectionFault

/-- The variables that name a proxy, the first of them that is not empty being the one that
counts. -/
def proxyVariables : List String := ["HTTPS_PROXY", "https_proxy"]

/-- The certificates among armored blocks. -/
def certificatesIn (blocks : List ArmorBlock) : List (List UInt8) :=
  (blocks.filter (·.label = "CERTIFICATE")).map (·.contents)

namespace ClusterEntry

/-- The armored certificates of those who vouch for the server, if any are named. -/
def armoredAuthority (cluster : ClusterEntry) (surroundings : Surroundings) :
    Except ConnectionFault (Option (List UInt8)) :=
  if cluster.authority.isNone && cluster.authorityData.isNone then .ok none
  else
    ((surroundings.data cluster.authorityData cluster.authority).map some).mapError .authority

/-- The certificates of those who vouch for the server, if any are named. -/
def certificates (cluster : ClusterEntry) (surroundings : Surroundings) :
    Except ConnectionFault (Option (List (List UInt8))) := do
  match ← cluster.armoredAuthority surroundings with
  | none => return none
  | some armored =>
    let blocks ← (armorBlocks armored).mapError .invalidCertificates
    return some (certificatesIn blocks)

/-- The proxy on the way to the server. -/
def proxyUri (cluster : ClusterEntry) (surroundings : Surroundings) :
    Except ConnectionFault (Option Uri) :=
  let named := cluster.proxy :: proxyVariables.map surroundings.environment
  match named.findSome? (·.filter (· ≠ "")) with
  | none => .ok none
  | some proxy => ((Uri.ofText proxy).map some).mapError .invalidProxy

end ClusterEntry

namespace Kubeconfig

/-- What the context in force says about the cluster and its user. A user that is not named, or of
whom nothing is said, has nothing to prove who they are by. -/
def connection (kubeconfig : Kubeconfig) (surroundings : Surroundings) :
    Except ConnectionFault Connection := do
  let some name := kubeconfig.currentContext | throw .noContext
  let some context := (kubeconfig.contexts.lookup name).join | throw (.unknownContext name)
  let some cluster := (kubeconfig.clusters.lookup context.cluster).join
    | throw (.unknownCluster context.cluster)
  let user := (context.user.bind fun name ↦ (kubeconfig.users.lookup name).join).getD {}
  if user.program.any (·.wantsCluster) then
    let _ ← cluster.armoredAuthority surroundings
  let some server := cluster.server | throw .noServer
  let _ ← (Uri.ofText server).mapError .invalidServer
  return {
    server
    certificates := ← cluster.certificates surroundings
    serverName := cluster.serverName
    proxy := ← cluster.proxyUri surroundings
    user }

end Kubeconfig

/-- The variable that names the user to act as. -/
def actingUserVariable : String := "KUBE_RS_DEBUG_IMPERSONATE_USER"

/-- The variable that lists the groups of the user to act as. -/
def actingGroupsVariable : String := "KUBE_RS_DEBUG_IMPERSONATE_GROUP"

/-- The variable that holds the location of the server. -/
def serverVariable : String := "KUBE_RS_DEBUG_OVERRIDE_URL"

/-- A connection with what the environment says instead of it. What is no location of a server is
passed over. -/
def Connection.overridden (connection : Connection) (surroundings : Surroundings) : Connection :=
  let user := connection.user
  let groups := (surroundings.environment actingGroupsVariable).map (·.splitOn ",")
  let server := (surroundings.environment serverVariable).filter fun server ↦
    (Uri.ofText server).isOk
  { connection with
    server := server.getD connection.server
    user := { user with
      impersonated := surroundings.environment actingUserVariable <|> user.impersonated
      impersonatedGroups := groups.getD user.impersonatedGroups } }

/-- The connection that the text of a file in a directory names. -/
def connectionOf (surroundings : Surroundings) (directory text : String) :
    Except ConnectionFault Connection := do
  let kubeconfig ← (Kubeconfig.ofText directory text).mapError .file
  kubeconfig.connection surroundings

end BlogOperator.Launch
