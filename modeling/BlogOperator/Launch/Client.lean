import BlogOperator.Http.ServerName
import BlogOperator.Launch.Connection
import BlogOperator.Launch.Identity
import BlogOperator.Launch.Roots
import BlogOperator.Time.Reader

/-!
# Clients

A client of the cluster is made before anything is sent. `Connection.check` says why it cannot be:
the way to the server leads through a proxy, the user's credentials are not to be had, the
certificates are not what they should be, or a header would hold what no header may hold.
-/

set_option autoImplicit false

namespace BlogOperator.Launch

open BlogOperator.Http BlogOperator.Key BlogOperator.Text BlogOperator.Time

/-! ### Credentials -/

/-- Why the credentials of a user are not to be had. -/
inductive CredentialFault where
  /-- The service that would hand them out does not. -/
  | provider (reason : String)
  | malformedExpiry (fault : TimeFault)
  | noCommand
  /-- The program that would hand them out cannot be started. -/
  | unstartable (fault : ProgramFault)
  | unreadableToken (path reason : String)
  deriving DecidableEq, Repr

namespace CredentialFault

/-- The sentence that reports why credentials are not to be had. -/
def message : CredentialFault → String
  | provider reason => s!"failed exec auth: {reason}"
  | malformedExpiry fault => s!"malformed token expiration date: {fault.message}"
  | noCommand => "command must be specified to use exec authentication plugin"
  | unstartable fault => s!"unable to run auth exec: {fault.message}"
  | unreadableToken path reason => s!"failed to read token file '{quoted path}': {reason}"

/-- The sentences that report what is behind a fault. -/
def causes : CredentialFault → List String
  | malformedExpiry fault => [fault.message]
  | unstartable fault => [fault.message]
  | unreadableToken _ reason => [reason]
  | _ => []

end CredentialFault

/-- How long before its end a token is no longer used, in nanoseconds. -/
def expiryMargin : Int := 60000000000

namespace CredentialProvider

/-- The value of a setting, the last one of its name. -/
def setting? (provider : CredentialProvider) (name : String) : Option String :=
  provider.settings.reverse.lookup name

/-- Whether the provider has a token that can still be used. -/
def hasFreshToken (provider : CredentialProvider) (now : Instant) :
    Except CredentialFault Bool := do
  match provider.setting? "access-token", provider.setting? "expiry" with
  | some _, some expiry =>
    let expiry ← (readInstant expiry).mapError .malformedExpiry
    return now.nanosFromEpoch + expiryMargin < expiry.nanosFromEpoch
  | _, _ => return false

/-- Checks that a provider hands out a token. -/
def check (provider : CredentialProvider) (surroundings : Surroundings) :
    Except CredentialFault Unit := do
  match provider.name with
  | "oidc" =>
    if (provider.setting? "id-token").isNone then
      throw (.provider "No id-token for oidc Authentication provider")
  | "gcp" =>
    if (provider.setting? "id-token").isSome then return
    if ← provider.hasFreshToken surroundings.now then return
    match provider.setting? "cmd-path" with
    | some command =>
      let fault := surroundings.startFault {
        command
        arguments := (provider.setting? "cmd-args").toList }
      throw (.provider s!"Executing {command} failed: {fault.details}")
    | none =>
      throw (.provider
        "Enable oauth feature to use Google Application Credentials-based token source")
  | "azure" =>
    throw (.provider ("The azure auth plugin is not supported; use " ++
      "https://github.com/Azure/kubelogin instead"))
  | name => throw (.provider s!"Authentication with provider {name} not supported")

end CredentialProvider

namespace CredentialProgram

/-- The name and the value of a variable, if it has both. -/
def binding? (setting : List (String × String)) : Option (String × String) := do
  let name ← setting.reverse.lookup "name"
  let value ← setting.reverse.lookup "value"
  return (name, value)

/-- The variable in which a program is told what is asked of it. -/
def requestVariable : String := "KUBERNETES_EXEC_INFO"

/-- Checks that a program hands out credentials. What it is told takes the place of a variable of
the same name. -/
def check (program : CredentialProgram) (surroundings : Surroundings) :
    Except CredentialFault Unit := do
  let some command := program.command | throw .noCommand
  throw (.unstartable (surroundings.startFault {
    command
    arguments := program.arguments
    settings := (program.settings.filterMap binding?).filter (·.1 ≠ requestVariable) }))

end CredentialProgram

namespace UserEntry

/-- Checks that the credentials of a user are to be had. The first kind of them that is named is the
one that counts. -/
def checkCredentials (user : UserEntry) (surroundings : Surroundings) :
    Except CredentialFault Unit :=
  if let some provider := user.provider then provider.check surroundings
  else if user.name.isSome && user.password.isSome then .ok ()
  else if user.token.isSome then .ok ()
  else if let some path := user.tokenFile then
    match surroundings.read path with
    | .error reason => .error (.unreadableToken path reason)
    | .ok bytes =>
      match decodeUtf8 bytes with
      | .ok _ => .ok ()
      | .error _ => .error (.unreadableToken path "stream did not contain valid UTF-8")
  else if let some program := user.program then program.check surroundings
  else .ok ()

/-- The armored key and certificates of a user, if both are to be had. -/
def identity? (user : UserEntry) (surroundings : Surroundings) : Option (List UInt8) := do
  let certificate ← (surroundings.data user.certificateData user.certificate).toOption
  let key ← (surroundings.data user.keyData user.key).toOption
  return key ++ certificate

/-- Whether a text may be the value of a header. -/
def isHeaderValue (text : String) : Bool :=
  text.toList.all fun character ↦
    character = '\t' || (' ' ≤ character && character ≠ '\u007f')

/-- Whether the user to act as and their groups can be told to the server. -/
def canImpersonate (user : UserEntry) : Bool :=
  (user.impersonated.toList ++ user.impersonatedGroups).all isHeaderValue

end UserEntry

/-! ### Clients -/

/-- Why encryption cannot be set up. -/
inductive EncryptionFault where
  /-- Nobody vouches for the server. -/
  | noAuthority (fault : RootsFault)
  /-- One who vouches for the server has no certificate that counts. -/
  | invalidAuthority (fault : CertificateFault)
  | identity (fault : IdentityFault)
  | invalidServerName
  deriving DecidableEq, Repr

namespace EncryptionFault

/-- The sentence that reports why encryption cannot be set up. -/
def message : EncryptionFault → String
  | noAuthority _ => "No valid native root CA certificates found"
  | invalidAuthority fault => s!"failed to add a root certificate: {fault.message}"
  | identity fault => fault.message
  | invalidServerName => "invalid server name: invalid dns name"

/-- The sentences that report what is behind a fault. -/
def causes : EncryptionFault → List String
  | noAuthority fault => [fault.message]
  | invalidAuthority fault => [fault.message]
  | identity fault => fault.causes
  | invalidServerName => ["invalid dns name"]

end EncryptionFault

/-- Why there is no client. -/
inductive ClientFault where
  /-- The proxy speaks a protocol that has been left out. -/
  | disabledProxy (proxy feature : String)
  | unknownProxy (proxy : String)
  | credentials (fault : CredentialFault)
  | encryption (fault : EncryptionFault)
  | invalidHeader
  deriving DecidableEq, Repr

namespace ClientFault

/-- The sentence that reports why there is no client. -/
def message : ClientFault → String
  | disabledProxy proxy feature =>
    s!"configured proxy {proxy} requires the disabled feature \"{feature}\""
  | unknownProxy proxy => s!"configured proxy {proxy} uses an unsupported protocol"
  | credentials fault => s!"auth error: {fault.message}"
  | encryption fault => s!"rustls tls error: {fault.message}"
  | invalidHeader => "HttpError: failed to parse header value"

/-- The sentences that report what is behind a fault. -/
def causes : ClientFault → List String
  | credentials fault => fault.message :: fault.causes
  | encryption fault => fault.message :: fault.causes
  | invalidHeader => ["failed to parse header value"]
  | _ => []

end ClientFault

namespace Connection

/-- Checks that there is no proxy on the way: no protocol of proxies is supported. -/
def checkProxy (connection : Connection) : Except ClientFault Unit :=
  match connection.proxy with
  | none => .ok ()
  | some proxy =>
    match proxy.scheme? with
    | some "socks5" => .error (.disabledProxy proxy.text "kube/socks5")
    | some "http" => .error (.disabledProxy proxy.text "kube/http-proxy")
    | _ => .error (.unknownProxy proxy.text)

/-- Checks that encryption can be set up. -/
def checkEncryption (connection : Connection) (surroundings : Surroundings) :
    Except EncryptionFault Unit := do
  match connection.certificates with
  | some certificates =>
    certificates.forM fun certificate ↦
      (Certificate.checkAnchor certificate).mapError .invalidAuthority
  | none => surroundings.checkRoots.mapError .noAuthority
  match connection.user.identity? surroundings with
  | some identity => (readIdentity identity).mapError .identity
  | none => pure ()
  if !connection.serverName.all isServerName then throw .invalidServerName

/-- Checks that there is a client for a connection. -/
def check (connection : Connection) (surroundings : Surroundings) :
    Except ClientFault Unit := do
  connection.checkProxy
  (connection.user.checkCredentials surroundings).mapError .credentials
  (connection.checkEncryption surroundings).mapError .encryption
  if !connection.user.canImpersonate then throw .invalidHeader

end Connection

end BlogOperator.Launch
