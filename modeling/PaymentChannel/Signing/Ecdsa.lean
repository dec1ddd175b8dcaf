import PaymentChannel.Curve.Secp256k1
import PaymentChannel.Hash.Sha256

/-!
# Recoverable signatures

A signature over a hash is a pair of scalars `r` and `s`, along with a *recovery id* that tells
which of up to four public keys made it. A `Scheme` is what the rest of the library needs of a
curve; it makes no other use of one. `Ecdsa.secp256k1` is the scheme that accounts use, with
secret numbers derived from the key and the hash, and with `s` in the lower half of its range.
-/

namespace PaymentChannel

/-- A public key: the coordinates of a point. -/
structure PublicKey where
  x : Nat
  y : Nat
  deriving DecidableEq, Repr

/-- A signature that its public key can be recovered from. -/
structure RecoverableSignature where
  r : Nat
  s : Nat
  recoveryId : Nat
  deriving DecidableEq, Repr

/-- What is needed of a curve in order to sign hashes and to recover signers. -/
structure Scheme where
  /-- Secret keys, and the two parts of a signature, lie between zero and the order. -/
  order : Nat
  /-- The public key of a secret key. -/
  publicKey : Nat → Option PublicKey
  /-- The signature of a secret key over a hash. -/
  sign : Nat → Hash → Option RecoverableSignature
  /-- The public key whose signature over the hash this is. -/
  recover : Hash → RecoverableSignature → Option PublicKey

namespace Ecdsa

open Secp256k1

/-- The state of the generator of secret numbers. -/
structure Generator where
  key : Bytes
  value : Bytes

namespace Generator

/-- Takes up more input, after a byte that says what for. -/
def update (g : Generator) (tag : UInt8) (input : Bytes) : Generator :=
  let key := hmac g.key (g.value ++ tag :: input)
  ⟨key, hmac key g.value⟩

/-- The generator for a secret key and a hash, both as bytes. -/
def start (secret hash : Bytes) : Generator :=
  let g : Generator := ⟨List.replicate 32 0, List.replicate 32 1⟩
  (g.update 0 (secret ++ hash)).update 1 (secret ++ hash)

/-- The next number of 256 bits. -/
def next (g : Generator) : Nat × Generator :=
  let value := hmac g.key g.value
  (Bytes.toNat value, Generator.update ⟨g.key, value⟩ 0 [])

/-- The first of the next `n` numbers that can be used. -/
def draw : (n : Nat) → Generator → Option Nat
  | 0, _ => none
  | n + 1, g =>
    let (k, rest) := g.next
    if 0 < k ∧ k < groupOrder then some k else draw n rest

end Generator

/-- Whether a scalar is in the upper half of its range. -/
def isHigh (s : Nat) : Bool := groupOrder / 2 < s

/-- The signature over a hash made with a secret number. A high `s` is replaced by its opposite,
    which belongs to the opposite point. -/
def signWith (k secret : Nat) (hash : Hash) : Option RecoverableSignature := do
  let point ← (Point.multiple (.ofNat k) .generator).toAffine
  let r := Scalar.ofNat point.x.val
  let s := Scalar.inverse (.ofNat k) * (Scalar.ofNat hash.bits.toNat + r * Scalar.ofNat secret)
  if r.val = 0 ∨ s.val = 0 then failure
  let odd := point.y.val % 2 == 1
  -- The opposite of `s` goes with the opposite point, which has a coordinate of the other parity.
  let high := isHigh s.val
  pure {
    r := r.val
    s := if high then (-s).val else s.val
    recoveryId := (odd != high).toNat + if point.x.val < groupOrder then 0 else 2
  }

/-- The signature over a hash. That none of so many numbers can be used does not happen. -/
def sign (secret : Nat) (hash : Hash) : Option RecoverableSignature := do
  let k ← (Generator.start (Bytes.ofNat 32 secret) hash.toBytes).draw 64
  signWith k secret hash

/-- The public key of a secret key. -/
def publicKey (secret : Nat) : Option PublicKey :=
  (Point.multiple (.ofNat secret) .generator).toAffine.map fun p => ⟨p.x.val, p.y.val⟩

/-- The public key of a signature over a hash. The recovery id tells which point `r` comes from. -/
def recover (hash : Hash) (sig : RecoverableSignature) : Option PublicKey := do
  let x := if 2 ≤ sig.recoveryId then sig.r + groupOrder else sig.r
  if fieldSize ≤ x then failure
  let point ← AffinePoint.withX (.ofNat x) (sig.recoveryId % 2 == 1)
  -- The key is the point times `s / r`, less the generator times the hash over `r`.
  let w := Scalar.inverse (.ofNat sig.r)
  let fromHash := Point.multiple (-(w * Scalar.ofNat hash.bits.toNat)) .generator
  let fromPoint := Point.multiple (w * Scalar.ofNat sig.s) (.ofAffine point)
  let key ← (fromHash.add fromPoint).toAffine
  if isHigh sig.s then failure
  pure ⟨key.x.val, key.y.val⟩

/-- The scheme of the accounts. -/
def secp256k1 : Scheme := ⟨groupOrder, publicKey, sign, recover⟩

end Ecdsa

end PaymentChannel
