/-!
# The shortest decimal of a binary fraction

A floating point number stands for an interval of real numbers: those that are rounded to it. Among
the decimals in this interval there are some of the fewest digits, and the nearest of them to the
number is its shortest decimal.

* `Binary`: a number `m * 2 ^ q`, with the ends of its interval as fractions;
* `Binary.shortest`: the digits of its shortest decimal and the place of the first of them.
-/

namespace PaymentChannel.Decimal

/-- The number that a one and `k` zeros spell. -/
def powerOfTen (k : Nat) : Nat := Nat.pow 10 k

/-- A positive number that is exactly `m * 2 ^ q`, with the distances to the ends of its interval in
    quarters of `2 ^ q`. -/
structure Binary where
  m : Nat
  q : Int
  /-- The distance to the lower end. It is smaller where the numbers get denser below. -/
  below : Nat
  /-- The distance to the upper end. -/
  above : Nat

namespace Binary

/-- The number with the given bits, its sign left aside, if it is finite and not zero. -/
def ofBits? (bits : UInt64) : Option Binary :=
  let fraction := (bits &&& 0xfffffffffffff).toNat
  let exponent := (bits >>> 52 &&& 0x7ff).toNat
  if exponent = 0x7ff then none
  else if exponent = 0 then
    if fraction = 0 then none else some ⟨fraction, -1074, 2, 2⟩
  else
    let below := if fraction = 0 ∧ 1 < exponent then 1 else 2
    some ⟨(1 <<< 52) + fraction, (exponent : Int) - 1075, below, 2⟩

/-- The number as a fraction whose numerator is a multiple of four quarters: the numerator of one
    quarter of `2 ^ q`, and the denominator. -/
def quarter (b : Binary) : Nat × Nat :=
  if 2 ≤ b.q then (1 <<< (b.q - 2).toNat, 1) else (1, 1 <<< (2 - b.q).toNat)

/-- Whether `d * 10 ^ k` is rounded to the number. The ends of the interval are if `m` is even. -/
def reads (b : Binary) (d : Nat) (k : Int) : Bool :=
  let (unit, den) := b.quarter
  let decimal := if 0 ≤ k then d * powerOfTen k.toNat * den else d * den
  let scale := if 0 ≤ k then 1 else powerOfTen (-k).toNat
  let low := (4 * b.m - b.below) * unit * scale
  let high := (4 * b.m + b.above) * unit * scale
  if b.m % 2 = 0 then low ≤ decimal && decimal ≤ high else low < decimal && decimal < high

/-- The whole number of times that `10 ^ k` goes into the number, and whether one more is nearer. In
    the middle between the two, the even one counts as the nearer. -/
def quotient (b : Binary) (k : Int) : Nat × Bool :=
  let (unit, den) := b.quarter
  let num := 4 * b.m * unit * (if 0 ≤ k then 1 else powerOfTen (-k).toNat)
  let den := den * (if 0 ≤ k then powerOfTen k.toNat else 1)
  let down := num / den
  let rest := 2 * (num % den)
  (down, den < rest || (den == rest && down % 2 == 1))

/-- The place of the first digit: the greatest power of ten up to the number, looked for downwards
    from the given one. -/
def firstPlace (b : Binary) : (steps : Nat) → (k : Int) → Int
  | 0, k => k
  | steps + 1, k => if 0 < (b.quotient k).1 then k else firstPlace b steps (k - 1)

/-- The nearer of the two decimals around the number whose last digit is at place `k`, if it reads
    back, else the other one, if that does. -/
def candidate (b : Binary) (k : Int) : Option Nat :=
  let (d, roundUp) := b.quotient k
  let near := if roundUp then d + 1 else d
  let far := if roundUp then d else d + 1
  if 0 < near && b.reads near k then some near
  else if 0 < far && b.reads far k then some far
  else none

/-- The first decimal that reads back, trying more and more places from `k` downwards. -/
def search (b : Binary) : (steps : Nat) → (k : Int) → Nat × Int
  | 0, k => ((b.quotient k).1, k)
  | steps + 1, k =>
    match b.candidate k with
    | some d => (d, k)
    | none => search b steps (k - 1)

/-- The digits of the shortest decimal, and the place of the first of them. -/
def shortest (b : Binary) : List Char × Int :=
  let top := b.firstPlace 640 309
  let (d, k) := b.search 17 top
  let digits := Nat.toDigits 10 d
  let trimmed := (digits.reverse.dropWhile (· = '0')).reverse
  (trimmed, k + (digits.length : Int) - 1)

end Binary

end PaymentChannel.Decimal
