import BlogOperator.Der

/-!
# Certificates

A certificate says which public key somebody has. `Certificate.ofBytes` takes one apart: what is
certified, how it is signed, and the signature, which nobody looks at here. Only certificates of the
third version are accepted from those who show them; of those who vouch for others the first version
is accepted too (`Certificate.checkAnchor`).
-/

set_option autoImplicit false

namespace BlogOperator.Key

open BlogOperator.Der

/-- Why bytes are no certificate. -/
inductive CertificateFault where
  | badEncoding
  | unsupportedVersion
  /-- What is certified is not signed in the way that it says. -/
  | differentAlgorithms
  /-- An extension that stands there twice. -/
  | invalidExtension
  /-- An extension that is not known and must not be passed over. -/
  | criticalExtension
  deriving DecidableEq, Repr

namespace CertificateFault

/-- The name of a fault, for those that have one of their own. -/
def name? : CertificateFault → Option String
  | badEncoding => none
  | unsupportedVersion => some "UnsupportedCertVersion"
  | differentAlgorithms => some "SignatureAlgorithmMismatch"
  | invalidExtension => some "ExtensionValueInvalid"
  | criticalExtension => some "UnsupportedCriticalExtension"

/-- The sentence that reports a fault. -/
def message (fault : CertificateFault) : String :=
  "invalid peer certificate: " ++
    match fault.name? with
    | some name => s!"Other(OtherError({name}))"
    | none => "BadEncoding"

end CertificateFault

/-- What is known of a certificate. -/
structure Certificate where
  /-- The public key, as the contents of its element. -/
  publicKey : List UInt8
  deriving DecidableEq, Repr

namespace Certificate

/-- A way through a certificate. -/
abbrev Scan (α : Type) := Der.Scan CertificateFault α

/-- Takes the contents of an element of a kind. -/
def part (kind : UInt8) : Scan (List UInt8) :=
  element .badEncoding kind

/-! ### Extensions -/

/-- An extension of a certificate. -/
structure Extension where
  identifier : List UInt8
  isCritical : Bool
  value : List UInt8

/-- The truth value that bytes are. -/
def truthOf : List UInt8 → Except CertificateFault Bool
  | [0x00] => .ok false
  | [0xff] => .ok true
  | _ => .error .badEncoding

/-- Reads an extension. It is not critical unless it says so. -/
def extension : Scan Extension := do
  let identifier ← part identifier
  let isCritical ← match ← optional .badEncoding truth with
    | some contents => truthOf contents
    | none => pure false
  return ⟨identifier, isCritical, ← part byteString⟩

/-- The use that a key may be put to. -/
def keyUsage : UInt8 := 15

/-- The last numbers of the extensions that are known: what a key may be used for, other names of
its owner, whether they vouch for others, for which names, where revoked certificates are listed,
and further uses. -/
def knownExtensions : List UInt8 := [keyUsage, 17, 19, 30, 31, 37]

/-- Takes note of an extension; `seen` are the numbers of those before it. The known ones hold a
sequence, but for the use of a key. -/
def remember (seen : List UInt8) (extension : Extension) :
    Except CertificateFault (List UInt8) :=
  let unknown : Except CertificateFault (List UInt8) :=
    if extension.isCritical then .error .criticalExtension else .ok seen
  match extension.identifier with
  | [0x55, 0x1d, number] =>
    if !knownExtensions.contains number then unknown
    else if seen.contains number then .error .invalidExtension
    else if number = keyUsage then .ok (number :: seen)
    else do
      let _ ← whole .badEncoding (part sequence) extension.value
      return number :: seen
  | _ => unknown

/-- Reads the extensions ahead. Each of them takes some of the bytes, whose number bounds theirs. -/
def extensions : (bound : Nat) → (seen : List UInt8) → Scan Unit
  | 0, _ => pure ()
  | bound + 1, seen => do
    if ← atEnd then return
    let seen ← inside .badEncoding sequence do remember seen (← extension)
    extensions bound seen

/-- Reads all extensions; there may be none. -/
def allExtensions : Scan Unit := do
  extensions (← get).length []

/-! ### Certificates -/

/-- Checks that the version is the third. -/
def version : Scan Unit :=
  inside .unsupportedVersion (tagged 0) do
    if (← small .badEncoding) ≠ 2 then throw .unsupportedVersion

/-- Reads what is certified, signed by an algorithm. -/
def certified (algorithm : List UInt8) : Scan Certificate := do
  version
  let _serial ← part integer
  if (← part sequence) ≠ algorithm then throw .differentAlgorithms
  let _issuer ← part sequence
  let _validity ← part sequence
  let _subject ← part sequence
  let publicKey ← part sequence
  if !(← atEnd) then
    inside .badEncoding (tagged 3) (inside .badEncoding sequence allExtensions)
  return ⟨publicKey⟩

/-- Reads what is certified, how it is signed and the signature. -/
def signed : Scan (List UInt8 × List UInt8) := do
  let contents ← part sequence
  let algorithm ← part sequence
  let _signature ← bits .badEncoding
  return (contents, algorithm)

/-- Takes a certificate apart. -/
def ofBytes (bytes : List UInt8) : Except CertificateFault Certificate := do
  let (contents, algorithm) ←
    whole .badEncoding (inside .badEncoding sequence signed) bytes
  whole .badEncoding (certified algorithm) contents

/-- Reads a certificate of the first version, which has no number for it and no extensions. -/
def firstVersion : Scan Unit :=
  inside .badEncoding sequence do
    inside .badEncoding sequence do
      let _serial ← part integer
      let _algorithm ← part sequence
      let _issuer ← part sequence
      let _validity ← part sequence
      let _subject ← part sequence
      let _publicKey ← part sequence
    let _algorithm ← part sequence
    let _signature ← part bitString

/-- Checks that bytes are the certificate of one who vouches for others. -/
def checkAnchor (bytes : List UInt8) : Except CertificateFault Unit :=
  match ofBytes bytes with
  | .ok _ => .ok ()
  | .error .unsupportedVersion => whole .badEncoding firstVersion bytes
  | .error fault => .error fault

end Certificate

end BlogOperator.Key
