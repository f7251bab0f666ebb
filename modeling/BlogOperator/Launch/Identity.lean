import BlogOperator.Key.Certificate
import BlogOperator.Key.Private
import BlogOperator.Text.Section

/-!
# Identities

An identity is a private key and the certificates that go with it, in sections one after the other.
`readIdentity` looks for both, and checks that the first certificate is about the key.
-/

set_option autoImplicit false

namespace BlogOperator.Launch

open BlogOperator.Key BlogOperator.Text

/-! ### Faults -/

/-- Why a private key and a certificate do not make an identity. -/
inductive KeyFault where
  /-- Nothing can be made of the key. -/
  | unusable
  | certificate (fault : CertificateFault)
  /-- The certificate is about another key. -/
  | mismatch
  deriving DecidableEq, Repr

/-- The sentence that reports why a key and a certificate do not make an identity. -/
def KeyFault.message : KeyFault → String
  | .unusable => "unexpected error: failed to parse private key as RSA, ECDSA, or EdDSA"
  | .certificate fault => fault.message
  | .mismatch => "keys may not be consistent: KeyMismatch"

/-- Why there is no identity in what should hold one. -/
inductive IdentityFault where
  /-- The sections cannot be read. -/
  | unreadable (fault : SectionFault)
  /-- A section of a kind that does not belong there. -/
  | unknownFormat
  | noKey
  | noCertificate
  | invalidKey (fault : KeyFault)
  deriving DecidableEq, Repr

namespace IdentityFault

/-- The sentence that reports why there is no identity. -/
def message : IdentityFault → String
  | unreadable fault => s!"identity PEM is invalid: {fault.message}"
  | unknownFormat => "unknown private key format"
  | noKey => "identity PEM is missing a private key: the key must be PKCS8 or RSA/PKCS1"
  | noCertificate => "identity PEM is missing certificate"
  | invalidKey fault => s!"invalid private key: {fault.message}"

/-- The sentences that report what is behind a fault. -/
def causes : IdentityFault → List String
  | unreadable fault => [fault.message]
  | invalidKey fault => [fault.message]
  | _ => []

end IdentityFault

/-! ### Identities -/

/-- The format of the private keys in sections of a kind. -/
def keyFormat? : SectionKind → Option KeyFormat
  | .wrappedKey => some .wrapped
  | .rsaKey => some .rsa
  | .curveKey => some .curve
  | _ => none

/-- The last private key of a format in sections. -/
def lastKey? (sections : List Section) (format : KeyFormat) : Option PrivateKey :=
  (sections.reverse.find? fun part ↦ keyFormat? part.kind = some format).map fun part ↦
    ⟨format, part.contents⟩

/-- The private key in sections; of several the one whose format says most. -/
def chosenKey? (sections : List Section) : Option PrivateKey :=
  [KeyFormat.wrapped, .rsa, .curve].findSome? (lastKey? sections)

/-- Whether a section belongs to an identity. -/
def belongs (part : Section) : Bool :=
  part.kind = .certificate || (keyFormat? part.kind).isSome

/-- Checks that a certificate is about a private key. -/
def checkKey (key : PrivateKey) (certificate : List UInt8) : Except KeyFault Unit := do
  let some publicKey := key.certifiable? | throw .unusable
  let certificate ← (Certificate.ofBytes certificate).mapError .certificate
  if certificate.publicKey ≠ publicKey then throw .mismatch

/-- Looks for a private key and certificates. -/
def readIdentity (bytes : List UInt8) : Except IdentityFault Unit := do
  let (sections, fault) := sections bytes
  if !sections.all belongs then throw .unknownFormat
  if let some fault := fault then throw (.unreadable fault)
  let some key := chosenKey? sections | throw .noKey
  match sections.find? (·.kind = .certificate) with
  | none => throw .noCertificate
  | some certificate => (checkKey key certificate.contents).mapError .invalidKey

end BlogOperator.Launch
