import PaymentChannel.Channel.State
import PaymentChannel.Hash.Keccak
import PaymentChannel.Signing.Ecdsa

/-!
# Signers

An account is the address of a public key, and signs hashes as they are. A signature is 65 bytes:
`r`, `s`, and the recovery id raised by 27.

* `SecretKey.load`: two ways of reading a secret key from bytes;
* `signHash`, `recoverSigner`, `verifySignature`: over a `Scheme`, so that what they do is seen
  apart from the arithmetic of the curve.
-/

namespace PaymentChannel

/-- Why there is no signature, or a signature has no signer. -/
inductive SignError where
  /-- The key or what signs with it is at fault. -/
  | backend (reason : String)
  /-- The holder of the key declined. -/
  | rejected (reason : String)
  /-- No signer can be recovered. -/
  | malformedSignature (reason : String)
  deriving DecidableEq, Repr

namespace SignError

/-- The error as text. -/
def message : SignError → String
  | backend reason => s!"signer backend error: {reason}"
  | rejected reason => s!"signing request rejected: {reason}"
  | malformedSignature reason => s!"malformed signature: {reason}"

end SignError

/-- A secret key of a scheme. -/
structure SecretKey (scheme : Scheme) where
  value : Nat
  pos : 0 < value
  lt_order : value < scheme.order

/-- How secret keys are read from bytes. -/
inductive KeyForm where
  /-- From 24 to 32 bytes, as if there were zeros in front of fewer than 32. -/
  | padded
  /-- Exactly 32 bytes. -/
  | exact
  deriving DecidableEq, Repr

namespace KeyForm

/-- Whether a secret key can have that many bytes. -/
def admits : (form : KeyForm) → (length : Nat) → Bool
  | padded, length => 24 ≤ length && length ≤ 32
  | exact, length => length == 32

/-- How errors put it that bytes are no secret key. -/
def complaint : KeyForm → String
  | padded => "signature error"
  | exact => "malformed or out-of-range secret key"

/-- The name of the signers with keys of this form. -/
def signerName : KeyForm → String
  | padded => "LocalSigner"
  | exact => "Secp256k1Signer"

end KeyForm

/-- Reads a secret key. -/
def SecretKey.load (scheme : Scheme) (form : KeyForm) (bs : Bytes) :
    Except SignError (SecretKey scheme) :=
  let value := Bytes.toNat bs
  if h : form.admits bs.length ∧ 0 < value ∧ value < scheme.order then
    pure ⟨value, h.2.1, h.2.2⟩
  else throw (.backend form.complaint)

/-- The address of a public key: the end of the hash of its coordinates. -/
def PublicKey.address (key : PublicKey) : Address :=
  .ofBytes ((keccak256 (Bytes.ofNat 32 key.x ++ Bytes.ofNat 32 key.y)).toBytes.drop 12)

/-- The address of a secret key. -/
def SecretKey.address {scheme : Scheme} (key : SecretKey scheme) : Address :=
  match scheme.publicKey key.value with
  | some k => k.address
  | none => .zero

/-- What is added to a recovery id in a signature. -/
def recoveryOffset : UInt8 := 27

/-- A recoverable signature as 65 bytes. -/
def RecoverableSignature.toSignature (sig : RecoverableSignature) : Signature :=
  ⟨Bytes.ofNat 32 sig.r ++ Bytes.ofNat 32 sig.s ++ [recoveryOffset + UInt8.ofNat sig.recoveryId]⟩

/-- The signature over a hash as it is. -/
def signHash {scheme : Scheme} (key : SecretKey scheme) (hash : Hash) :
    Except SignError Signature :=
  match scheme.sign key.value hash with
  | some sig => pure sig.toSignature
  | none => throw (.backend "signature error")

/-- The recovery id in the last byte of a signature, raised or not. -/
def recoveryIdOf (last : UInt8) : Option Nat :=
  let v := if last = 27 ∨ last = 28 then last - recoveryOffset else last
  if v < 4 then some v.toNat else none

/-- Takes a signature apart. -/
def Signature.toRecoverable (order : Nat) (sig : Signature) :
    Except SignError RecoverableSignature := do
  if sig.bytes.length ≠ 65 then throw (.malformedSignature "expected 65 bytes")
  let some recoveryId := recoveryIdOf (sig.bytes.getD 64 0)
    | throw (.malformedSignature "invalid v")
  let r := Bytes.toNat (sig.bytes.take 32)
  let s := Bytes.toNat ((sig.bytes.drop 32).take 32)
  if r = 0 ∨ order ≤ r ∨ s = 0 ∨ order ≤ s then throw (.malformedSignature "invalid r or s")
  pure ⟨r, s, recoveryId⟩

/-- The address that made a signature over a hash. -/
def recoverSigner (scheme : Scheme) (hash : Hash) (sig : Signature) : Except SignError Address := do
  let parts ← sig.toRecoverable scheme.order
  match scheme.recover hash parts with
  | some key => pure key.address
  | none => throw (.malformedSignature "no key recoverable")

/-- What signs for an account. -/
inductive Signer where
  /-- A secret key. -/
  | keyed (form : KeyForm) (key : SecretKey Ecdsa.secp256k1)
  /-- An account that answers every request in the same way. -/
  | scripted (address : Address) (answer : Except SignError Signature)

namespace Signer

/-- The account. -/
def address : Signer → Address
  | keyed _ key => key.address
  | scripted address _ => address

/-- The signature over a hash. -/
def sign (signer : Signer) (hash : Hash) : Except SignError Signature :=
  match signer with
  | keyed _ key => signHash key hash
  | scripted _ answer => answer

end Signer

/-- A key as it is shown: by its address alone. -/
def SecretKey.describe {scheme : Scheme} (key : SecretKey scheme) (form : KeyForm) : String :=
  Record.record form.signerName [("addr", key.address.toHex)]

/-- Whether the expected address made a signature over a hash. -/
def verifySignature (scheme : Scheme) (hash : Hash) (sig : Signature) (expected : Address) : Bool :=
  match recoverSigner scheme hash sig with
  | .ok signer => signer == expected
  | .error _ => false

end PaymentChannel
