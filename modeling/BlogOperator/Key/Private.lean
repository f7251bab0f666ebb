import BlogOperator.Key.Rsa
import BlogOperator.Key.Twisted

/-!
# Private keys

A private key is written in a way of its own or wrapped in one that is common to all kinds of keys.
`PrivateKey.certifiable?` finds the public key that belongs to it, as it stands in a certificate,
and nothing if the key is of no use: if it is of an unknown kind, not well formed, or unsound.
-/

set_option autoImplicit false

namespace BlogOperator.Key

open BlogOperator.Der BlogOperator.Number

/-- The ways in which a private key is written. -/
inductive KeyFormat where
  /-- Common to all kinds of keys. -/
  | wrapped
  /-- For keys made of two primes. -/
  | rsa
  /-- For keys on a curve. -/
  | curve
  deriving DecidableEq, Repr

/-- A private key as it is written. -/
structure PrivateKey where
  format : KeyFormat
  contents : List UInt8
  deriving DecidableEq, Repr

/-! ### Algorithms -/

/-- The name of keys made of two primes, with no parameters. -/
def rsaAlgorithm : List UInt8 :=
  written identifier [0x2a, 0x86, 0x48, 0x86, 0xf7, 0x0d, 0x01, 0x01, 0x01] ++ [0x05, 0x00]

/-- The name of keys on the twisted curve. -/
def twistedAlgorithm : List UInt8 :=
  written identifier [0x2b, 0x65, 0x70]

/-- A curve with its registered name. -/
structure NamedCurve extends Curve where
  name : List UInt8

/-- The curves that are known. -/
def knownCurves : List NamedCurve := [
  { Curve.short with name := written identifier [0x2a, 0x86, 0x48, 0xce, 0x3d, 0x03, 0x01, 0x07] },
  { Curve.long with name := written identifier [0x2b, 0x81, 0x04, 0x00, 0x22] }]

/-- The name of keys on a curve. -/
def NamedCurve.algorithm (curve : NamedCurve) : List UInt8 :=
  written identifier [0x2a, 0x86, 0x48, 0xce, 0x3d, 0x02, 0x01] ++ curve.name

/-- A public key as it stands in a certificate: its algorithm and itself. -/
def certifiable (algorithm key : List UInt8) : List UInt8 :=
  written sequence algorithm ++ writtenBits key

/-! ### Wrapped keys -/

/-- A key that is taken out of its wrapping. -/
structure Unwrapped where
  secret : List UInt8
  /-- The public key, which stands there from the second version on. -/
  publicKey : Option (List UInt8)

/-- Reads the public key in the wrapping of a private one; its kind may be given in either of two
ways. -/
def wrappedPublicKey : Scan Unit (List UInt8) := do
  if ← sees (tagged 1) then inside () (tagged 1) (bits ())
  else wholeBytes () (← element () (plainTagged 1))

/-- Takes a key of an algorithm out of its wrapping; attributes of the key are passed over. -/
def unwrap (algorithm : List UInt8) (bytes : List UInt8) : Except Unit Unwrapped :=
  whole () (inside () sequence do
    let version ← small ()
    if (← element () sequence) ≠ algorithm then throw ()
    let secret ← element () byteString
    let _attributes ← optional () (tagged 0)
    match version with
    | 0 => return ⟨secret, none⟩
    | 1 => return ⟨secret, some (← wrappedPublicKey)⟩
    | _ => throw ()) bytes

/-- Takes a key out of its wrapping of the first version. -/
def unwrapFirst (algorithm : List UInt8) (bytes : List UInt8) : Except Unit (List UInt8) := do
  let unwrapped ← unwrap algorithm bytes
  if unwrapped.publicKey.isSome then throw ()
  return unwrapped.secret

/-! ### Kinds of keys -/

/-- The public key of a key made of two primes. -/
def ofRsa (bytes : List UInt8) : Except Unit (List UInt8) := do
  let key ← whole () (inside () sequence RsaKey.scan) bytes
  if key.isSound then return certifiable rsaAlgorithm key.publicKey else throw ()

/-- The public key of a key on a curve. The curve may be named beside the key, and the public key
must stand there. -/
def ofCurve (curve : NamedCurve) (bytes : List UInt8) : Except Unit (List UInt8) := do
  let (secret, publicKey) ← whole () (inside () sequence do
    if (← small ()) ≠ 1 then throw ()
    let secret ← element () byteString
    if let some name ← optional () (tagged 0) then
      if name ≠ curve.name then throw ()
    return (secret, ← inside () (tagged 1) (bits ()))) bytes
  if curve.publicKey? secret = some publicKey then
    return certifiable curve.algorithm publicKey
  else throw ()

/-- The public key of a key on the twisted curve. One that stands beside the private key must be the
right one. -/
def ofTwisted (bytes : List UInt8) : Except Unit (List UInt8) := do
  let unwrapped ← unwrap twistedAlgorithm bytes
  let seed ← whole () (element () byteString) unwrapped.secret
  if seed.length ≠ 32 then throw ()
  let publicKey := Twisted.publicKey seed
  if !unwrapped.publicKey.all (· = publicKey) then throw ()
  return certifiable twistedAlgorithm publicKey

namespace PrivateKey

/-- The ways to make sense of a private key, in the order in which they are tried. -/
def readings (key : PrivateKey) : List (Except Unit (List UInt8)) :=
  let bytes := key.contents
  match key.format with
  | .rsa => [ofRsa bytes]
  | .curve => knownCurves.map fun curve ↦ ofCurve curve bytes
  | .wrapped =>
    (unwrapFirst rsaAlgorithm bytes >>= ofRsa) ::
      knownCurves.map (fun curve ↦ unwrapFirst curve.algorithm bytes >>= ofCurve curve) ++
      [ofTwisted bytes]

/-- The public key that belongs to a private one, as it stands in a certificate. -/
def certifiable? (key : PrivateKey) : Option (List UInt8) :=
  key.readings.findSome? Except.toOption

end PrivateKey

end BlogOperator.Key
