import PaymentChannel.Bytes

/-!
# Keccak-256

The hash of the contract platform: a sponge over the permutation of 25 lanes of 64 bits
(`Keccak.permute`), with blocks of 136 bytes padded with a one bit, zeros and a one bit.
Every step of a round is a function on whole states, given lane by lane.
-/

namespace PaymentChannel.Keccak

/-- The state: 25 lanes, row by row. -/
abbrev Lanes := Vector UInt64 25

/-- The lane in column `x` and row `y`, both counted modulo 5. -/
def Lanes.lane (a : Lanes) (x y : Nat) : UInt64 :=
  a.get ⟨x % 5 + 5 * (y % 5), by omega⟩

/-- The state with the given lane in every column and row. -/
def Lanes.tabulate (f : Nat → Nat → UInt64) : Lanes :=
  Vector.ofFn fun i => f (i.val % 5) (i.val / 5)

/-- The word turned left by `n` bits. -/
def rotateLeft (w : UInt64) (n : Nat) : UInt64 :=
  w <<< UInt64.ofNat n ||| w >>> UInt64.ofNat (64 - n)

/-- By how many bits each lane is turned, row by row. -/
def rotations : Vector Nat 25 := #v[
  0, 1, 62, 28, 27,
  36, 44, 6, 55, 20,
  3, 10, 43, 25, 39,
  41, 45, 15, 21, 8,
  18, 2, 61, 56, 14]

/-- The constants of the 24 rounds. -/
def roundConstants : List UInt64 := [
  0x0000000000000001, 0x0000000000008082, 0x800000000000808a, 0x8000000080008000,
  0x000000000000808b, 0x0000000080000001, 0x8000000080008081, 0x8000000000008009,
  0x000000000000008a, 0x0000000000000088, 0x0000000080008009, 0x000000008000000a,
  0x000000008000808b, 0x800000000000008b, 0x8000000000008089, 0x8000000000008003,
  0x8000000000008002, 0x8000000000000080, 0x000000000000800a, 0x800000008000000a,
  0x8000000080008081, 0x8000000000008080, 0x0000000080000001, 0x8000000080008008]

/-- Adds to every lane the parities of two neighbouring columns. -/
def mixColumns (a : Lanes) : Lanes :=
  let parity : Vector UInt64 5 := Vector.ofFn fun x =>
    a.lane x 0 ^^^ a.lane x 1 ^^^ a.lane x 2 ^^^ a.lane x 3 ^^^ a.lane x 4
  let column (x : Nat) : UInt64 := parity.get ⟨x % 5, by omega⟩
  .tabulate fun x y => a.lane x y ^^^ column (x + 4) ^^^ rotateLeft (column (x + 1)) 1

/-- Turns every lane by its own count of bits. -/
def rotateLanes (a : Lanes) : Lanes :=
  Vector.ofFn fun i => rotateLeft (a.get i) (rotations.get i)

/-- Moves the lanes to other columns and rows. -/
def permuteLanes (a : Lanes) : Lanes :=
  .tabulate fun x y => a.lane (x + 3 * y) x

/-- Combines every lane with the next two of its row, the only step that is not linear. -/
def combineRows (a : Lanes) : Lanes :=
  .tabulate fun x y => a.lane x y ^^^ (~~~ a.lane (x + 1) y &&& a.lane (x + 2) y)

/-- One round, with its constant. -/
def round (a : Lanes) (constant : UInt64) : Lanes :=
  let b := combineRows (permuteLanes (rotateLanes (mixColumns a)))
  b.set 0 (b.lane 0 0 ^^^ constant)

/-- All rounds. -/
def permute (a : Lanes) : Lanes := roundConstants.foldl round a

/-- The number of bytes in a block. -/
def blockSize : Nat := 136

/-- The little-endian word that the first eight bytes spell. -/
def word (bs : Bytes) : UInt64 :=
  (bs.take 8).foldr (fun b w => w <<< 8 ||| b.toUInt64) 0

/-- A block of bytes as the lanes it is added to; the lanes beyond it are zero. -/
def blockLanes (block : Bytes) : Lanes :=
  Vector.ofFn fun i => word (block.drop (8 * i.val))

/-- Adds the first `n` blocks, with a permutation after each. -/
def absorb : (n : Nat) → Bytes → Lanes → Lanes
  | 0, _, a => a
  | n + 1, bs, a =>
    let block := blockLanes (bs.take blockSize)
    absorb n (bs.drop blockSize) (permute (Vector.ofFn fun i => a.get i ^^^ block.get i))

/-- The bytes after a message of length `n`: they fill the last block. -/
def padding (n : Nat) : Bytes :=
  match blockSize - n % blockSize with
  -- The first and the last byte of the padding may be one and the same.
  | 1 => [0x81]
  | k => 0x01 :: List.replicate (k - 2) 0 ++ [0x80]

/-- The eight bytes of a lane, lowest first. -/
def laneBytes (w : UInt64) : Bytes :=
  (List.range 8).map fun i => (w >>> UInt64.ofNat (8 * i)).toUInt8

/-- The hash of a message, as 32 bytes. -/
def digest (message : Bytes) : Bytes :=
  let blocks := message.length / blockSize + 1
  let a := absorb blocks (message ++ padding message.length) (Vector.replicate 25 0)
  (a.toList.take 4).flatMap laneBytes

end PaymentChannel.Keccak

namespace PaymentChannel

/-- The Keccak-256 hash of a byte string. -/
def keccak256 (message : Bytes) : Hash := .ofBytes (Keccak.digest message)

end PaymentChannel
