import BlogOperator.Yaml.Reader
import BlogOperator.Yaml.Shape

/-!
# Files that name clusters

A file names clusters with their servers, users with what they prove who they are by, contexts that
each pick a cluster and a user, and the context that is in force. `Kubeconfig.ofText` reads such a
file; of several documents in it the earlier ones come first.
-/

set_option autoImplicit false

namespace BlogOperator.Launch

open BlogOperator.Yaml

/-! ### What a file says -/

/-- A cluster. -/
structure ClusterEntry where
  server : Option String := none
  /-- The path of a file with the certificates of those who vouch for the server. -/
  authority : Option String := none
  /-- The certificates of those who vouch for the server, in base 64. -/
  authorityData : Option String := none
  proxy : Option String := none
  /-- The name of the server in its certificate. -/
  serverName : Option String := none
  deriving DecidableEq, Repr, Inhabited

/-- A program that hands out credentials. -/
structure CredentialProgram where
  command : Option String := none
  arguments : List String := []
  /-- The variables that are set for the program, each with its name and its value. -/
  settings : List (List (String × String)) := []
  /-- Whether the program is told about the cluster. -/
  wantsCluster : Bool := false
  deriving DecidableEq, Repr, Inhabited

/-- A service that hands out credentials. -/
structure CredentialProvider where
  name : String := ""
  settings : List (String × String) := []
  deriving DecidableEq, Repr, Inhabited

/-- A user. -/
structure UserEntry where
  name : Option String := none
  password : Option String := none
  token : Option String := none
  tokenFile : Option String := none
  certificate : Option String := none
  certificateData : Option String := none
  key : Option String := none
  keyData : Option String := none
  /-- The user to act as, and the groups of that user. -/
  impersonated : Option String := none
  impersonatedGroups : List String := []
  provider : Option CredentialProvider := none
  program : Option CredentialProgram := none
  deriving DecidableEq, Repr, Inhabited

/-- A context. -/
structure ContextEntry where
  cluster : String := ""
  user : Option String := none
  deriving DecidableEq, Repr, Inhabited

/-- What a file says about clusters. -/
structure Kubeconfig where
  kind : Option String := none
  apiVersion : Option String := none
  currentContext : Option String := none
  contexts : List (String × Option ContextEntry) := []
  clusters : List (String × Option ClusterEntry) := []
  users : List (String × Option UserEntry) := []
  deriving DecidableEq, Repr, Inhabited

namespace Kubeconfig

/-! ### Shapes -/

open Shape Member

/-- An extension, which counts for nothing here. -/
def extension : Shape Unit :=
  record "NamedExtension" () [
    required "name" text fun draft _ ↦ draft,
    required "extension" json fun draft _ ↦ draft]

/-- Extensions, which may be left out. -/
def extensions {σ : Type} : Member σ :=
  checked "extensions" (Shape.list extension)

/-- A cluster. -/
def cluster : Shape ClusterEntry :=
  record "Cluster" {} [
    .optional "server" text fun draft server ↦ { draft with server },
    checked "insecure-skip-tls-verify" bool,
    .optional "certificate-authority" text fun draft authority ↦ { draft with authority },
    .optional "certificate-authority-data" text fun draft authorityData ↦
      { draft with authorityData },
    .optional "proxy-url" text fun draft proxy ↦ { draft with proxy },
    checked "disable-compression" bool,
    .optional "tls-server-name" text fun draft serverName ↦ { draft with serverName },
    extensions]

/-- A service that hands out credentials. -/
def provider : Shape CredentialProvider :=
  record "AuthProviderConfig" {} [
    required "name" text fun draft name ↦ { draft with name },
    assumed "config" texts fun draft settings ↦ { draft with settings }]

/-- When a program that hands out credentials may ask its user something. -/
def interactiveModes : List (String × Unit) :=
  [("Never", ()), ("IfAvailable", ()), ("Always", ())]

/-- A program that hands out credentials. -/
def program : Shape CredentialProgram :=
  record "ExecConfig" {} [
    checked "apiVersion" text,
    .optional "command" text fun draft command ↦ { draft with command },
    assumed "args" (assumedList text) fun draft arguments ↦ { draft with arguments },
    assumed "env" (assumedList texts) fun draft settings ↦ { draft with settings },
    checked "interactiveMode" (choice interactiveModes),
    assumed "provideClusterInfo" bool fun draft wantsCluster ↦ { draft with wantsCluster }]

/-- A user. -/
def user : Shape UserEntry :=
  record "AuthInfo" {} [
    .optional "username" text fun draft name ↦ { draft with name },
    .optional "password" text fun draft password ↦ { draft with password },
    .optional "token" text fun draft token ↦ { draft with token },
    .optional "tokenFile" text fun draft tokenFile ↦ { draft with tokenFile },
    .optional "client-certificate" text fun draft certificate ↦ { draft with certificate },
    .optional "client-certificate-data" text fun draft certificateData ↦
      { draft with certificateData },
    .optional "client-key" text fun draft key ↦ { draft with key },
    .optional "client-key-data" text fun draft keyData ↦ { draft with keyData },
    .optional "as" text fun draft impersonated ↦ { draft with impersonated },
    assumed "as-groups" (assumedList text) fun draft impersonatedGroups ↦
      { draft with impersonatedGroups },
    .optional "auth-provider" provider fun draft provider ↦ { draft with provider },
    .optional "exec" program fun draft program ↦ { draft with program }]

/-- A context. -/
def context : Shape ContextEntry :=
  record "Context" {} [
    required "cluster" text fun draft cluster ↦ { draft with cluster },
    .optional "user" text fun draft user ↦ { draft with user },
    checked "namespace" text,
    extensions]

/-- Something with a name. -/
def named {α : Type} (record member : String) (shape : Shape α) : Shape (String × Option α) :=
  Shape.record record ("", none) [
    required "name" text fun draft name ↦ (name, draft.2),
    .optional member shape fun draft value ↦ (draft.1, value)]

/-- What a user would like to see. -/
def preferences : Shape Unit :=
  record "Preferences" () [checked "colors" bool, extensions]

/-- What a file says about clusters. -/
def shape : Shape Kubeconfig :=
  record "Kubeconfig" {} [
    checked "preferences" preferences,
    assumed "clusters" (assumedList (named "NamedCluster" "cluster" cluster))
      fun draft clusters ↦ { draft with clusters },
    assumed "users" (assumedList (named "NamedAuthInfo" "user" user))
      fun draft users ↦ { draft with users },
    assumed "contexts" (assumedList (named "NamedContext" "context" context))
      fun draft contexts ↦ { draft with contexts },
    .optional "current-context" text fun draft currentContext ↦ { draft with currentContext },
    extensions,
    .optional "kind" text fun draft kind ↦ { draft with kind },
    .optional "apiVersion" text fun draft apiVersion ↦ { draft with apiVersion }]

/-! ### Paths -/

/-- A path that may be relative to a directory. -/
def absolute (directory path : String) : String :=
  if path.startsWith "/" || directory.isEmpty then path
  else if directory.endsWith "/" then directory ++ path
  else directory ++ "/" ++ path

/-- What a file in a directory says, with the paths in it taken from there. -/
def within (directory : String) (kubeconfig : Kubeconfig) : Kubeconfig :=
  let path (path : Option String) : Option String := path.map (absolute directory)
  let cluster (cluster : ClusterEntry) : ClusterEntry :=
    { cluster with authority := path cluster.authority }
  let user (user : UserEntry) : UserEntry := { user with
    tokenFile := path user.tokenFile
    certificate := path user.certificate
    key := path user.key }
  { kubeconfig with
    clusters := kubeconfig.clusters.map fun (name, entry) ↦ (name, entry.map cluster)
    users := kubeconfig.users.map fun (name, entry) ↦ (name, entry.map user) }

/-- The paths that a file names. -/
def paths (kubeconfig : Kubeconfig) : List String :=
  let cluster (entry : ClusterEntry) : List String := entry.authority.toList
  let user (entry : UserEntry) : List String :=
    [entry.tokenFile, entry.certificate, entry.key].filterMap id
  kubeconfig.clusters.flatMap (fun (_, entry) ↦ (entry.map cluster).getD []) ++
    kubeconfig.users.flatMap (fun (_, entry) ↦ (entry.map user).getD [])

end Kubeconfig

/-! ### Several documents -/

/-- Why a file about clusters cannot be read. -/
inductive KubeconfigFault where
  /-- There is no reading the file. -/
  | unreadable (path reason : String)
  /-- The file is not well formed. -/
  | malformed (fault : Yaml.Fault)
  /-- The file holds something else than expected. -/
  | unfit (fault : Json.Fault)
  /-- The documents of the file are of different kinds. -/
  | differentKinds
  /-- The documents of the file are of different versions. -/
  | differentVersions
  deriving DecidableEq, Repr

namespace KubeconfigFault

/-- The sentence that reports why a file cannot be read. -/
def message : KubeconfigFault → String
  | unreadable path reason =>
    s!"failed to read kubeconfig from '{Text.quoted path}': {reason}"
  | malformed fault => s!"failed to parse kubeconfig YAML: {fault.message}"
  | unfit fault =>
    s!"the structure of the parsed kubeconfig is invalid: {fault.messageIn Yaml.wording}"
  | differentKinds => "kubeconfigs with mismatching kind cannot be merged"
  | differentVersions => "kubeconfigs with mismatching api version cannot be merged"

/-- The sentences that report what is behind a fault. -/
def causes : KubeconfigFault → List String
  | unreadable _ reason => [reason]
  | malformed fault => [fault.message]
  | unfit fault => [fault.messageIn Yaml.wording]
  | _ => []

end KubeconfigFault

namespace Kubeconfig

/-- Whether two documents differ in something that both of them give. -/
def differ (first second : Option String) : Bool :=
  first.isSome && second.isSome && first ≠ second

/-- Adds what a further document says. What has been said before stands. -/
def merge (known further : Kubeconfig) : Except KubeconfigFault Kubeconfig := do
  if differ known.kind further.kind then throw .differentKinds
  if differ known.apiVersion further.apiVersion then throw .differentVersions
  return {
    kind := known.kind <|> further.kind
    apiVersion := known.apiVersion <|> further.apiVersion
    currentContext := known.currentContext <|> further.currentContext
    contexts := known.contexts ++ further.contexts
    clusters := known.clusters ++ further.clusters
    users := known.users ++ further.users }

/-- What one document says. -/
def ofDocument (document : Document) : Except KubeconfigFault Kubeconfig := do
  let value ← document.value.mapError .malformed
  (shape value).mapError .unfit

/-- A text without the byte order mark it may begin with. -/
def withoutMark (text : String) : String :=
  match text.toList with
  | '\ufeff' :: rest => String.ofList rest
  | _ => text

/-- What the text of a file in a directory says. -/
def ofText (directory text : String) : Except KubeconfigFault Kubeconfig := do
  let documents ← (Yaml.documents (withoutMark text)).mapM ofDocument
  documents.foldlM (fun known further ↦ known.merge (further.within directory)) {}

end Kubeconfig

end BlogOperator.Launch
