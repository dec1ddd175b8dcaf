import PaymentChannel.Bytes

/-!
# SHA-256 and its keyed form

The hash behind deterministic signing. A message is padded to blocks of 64 bytes; each block is
expanded into 64 words (`Sha256.schedule`) and mixed into the chaining state (`Sha256.compress`).
`hmac` keys the hash with an inner and an outer pad.
-/

namespace PaymentChannel

namespace Sha256

/-- The chaining state: eight words. -/
structure Chain where
  a : UInt32
  b : UInt32
  c : UInt32
  d : UInt32
  e : UInt32
  f : UInt32
  g : UInt32
  h : UInt32

/-- The state before the first block. -/
def Chain.start : Chain :=
  ⟨0x6a09e667, 0xbb67ae85, 0x3c6ef372, 0xa54ff53a, 0x510e527f, 0x9b05688c, 0x1f83d9ab, 0x5be0cd19⟩

/-- The constants of the 64 rounds. -/
def roundConstants : List UInt32 := [
  0x428a2f98, 0x71374491, 0xb5c0fbcf, 0xe9b5dba5, 0x3956c25b, 0x59f111f1, 0x923f82a4, 0xab1c5ed5,
  0xd807aa98, 0x12835b01, 0x243185be, 0x550c7dc3, 0x72be5d74, 0x80deb1fe, 0x9bdc06a7, 0xc19bf174,
  0xe49b69c1, 0xefbe4786, 0x0fc19dc6, 0x240ca1cc, 0x2de92c6f, 0x4a7484aa, 0x5cb0a9dc, 0x76f988da,
  0x983e5152, 0xa831c66d, 0xb00327c8, 0xbf597fc7, 0xc6e00bf3, 0xd5a79147, 0x06ca6351, 0x14292967,
  0x27b70a85, 0x2e1b2138, 0x4d2c6dfc, 0x53380d13, 0x650a7354, 0x766a0abb, 0x81c2c92e, 0x92722c85,
  0xa2bfe8a1, 0xa81a664b, 0xc24b8b70, 0xc76c51a3, 0xd192e819, 0xd6990624, 0xf40e3585, 0x106aa070,
  0x19a4c116, 0x1e376c08, 0x2748774c, 0x34b0bcb5, 0x391c0cb3, 0x4ed8aa4a, 0x5b9cca4f, 0x682e6ff3,
  0x748f82ee, 0x78a5636f, 0x84c87814, 0x8cc70208, 0x90befffa, 0xa4506ceb, 0xbef9a3f7, 0xc67178f2]

/-- The word turned right by `n` bits. -/
def rotateRight (w : UInt32) (n : UInt32) : UInt32 := w >>> n ||| w <<< (32 - n)

/-- The words of a block, given latest first, with `n` more after them. -/
def extend : (n : Nat) → List UInt32 → List UInt32
  | 0, ws => ws
  | n + 1, ws =>
    let word (i : Nat) : UInt32 := ws.getD (i - 1) 0
    let near := word 2
    let far := word 15
    let s₀ := rotateRight far 7 ^^^ rotateRight far 18 ^^^ far >>> 3
    let s₁ := rotateRight near 17 ^^^ rotateRight near 19 ^^^ near >>> 10
    extend n ((word 16 + s₀ + word 7 + s₁) :: ws)

/-- The big-endian words that the first `4 * n` bytes spell. -/
def words : (n : Nat) → Bytes → List UInt32
  | 0, _ => []
  | n + 1, bs => (bs.take 4).foldl (fun w b => w <<< 8 ||| b.toUInt32) 0 :: words n (bs.drop 4)

/-- The 64 words of a block. -/
def schedule (block : Bytes) : List UInt32 := (extend 48 (words 16 block).reverse).reverse

/-- One round, with its constant and its word. -/
def round (s : Chain) (constant word : UInt32) : Chain :=
  let s₁ := rotateRight s.e 6 ^^^ rotateRight s.e 11 ^^^ rotateRight s.e 25
  let choice := (s.e &&& s.f) ^^^ (~~~ s.e &&& s.g)
  let t₁ := s.h + s₁ + choice + constant + word
  let s₀ := rotateRight s.a 2 ^^^ rotateRight s.a 13 ^^^ rotateRight s.a 22
  let majority := (s.a &&& s.b) ^^^ (s.a &&& s.c) ^^^ (s.b &&& s.c)
  ⟨t₁ + s₀ + majority, s.a, s.b, s.c, s.d + t₁, s.e, s.f, s.g⟩

/-- Mixes one block into the chaining state. -/
def compress (s : Chain) (block : Bytes) : Chain :=
  let t := (roundConstants.zip (schedule block)).foldl (fun t p => round t p.1 p.2) s
  ⟨s.a + t.a, s.b + t.b, s.c + t.c, s.d + t.d, s.e + t.e, s.f + t.f, s.g + t.g, s.h + t.h⟩

/-- The number of bytes in a block. -/
def blockSize : Nat := 64

/-- Mixes the first `n` blocks into the chaining state. -/
def absorb : (n : Nat) → Bytes → Chain → Chain
  | 0, _, s => s
  | n + 1, bs, s => absorb n (bs.drop blockSize) (compress s (bs.take blockSize))

/-- The bytes after a message of length `n`: a one bit, zeros and the length in bits. -/
def padding (n : Nat) : Bytes :=
  0x80 :: List.replicate ((119 - n % blockSize) % blockSize) 0 ++ Bytes.ofNat 8 (8 * n)

/-- The words of the chaining state as bytes. -/
def Chain.toBytes (s : Chain) : Bytes :=
  [s.a, s.b, s.c, s.d, s.e, s.f, s.g, s.h].flatMap fun w => Bytes.ofNat 4 w.toNat

end Sha256

/-- The SHA-256 hash of a message, as 32 bytes. -/
def sha256 (message : Bytes) : Bytes :=
  let padded := message ++ Sha256.padding message.length
  (Sha256.absorb (padded.length / Sha256.blockSize) padded .start).toBytes

/-- The hash of a message under a key of at most one block. -/
def hmac (key message : Bytes) : Bytes :=
  let padded := (key ++ List.replicate Sha256.blockSize 0).take Sha256.blockSize
  sha256 (padded.map (· ^^^ 0x5c) ++ sha256 (padded.map (· ^^^ 0x36) ++ message))

end PaymentChannel
